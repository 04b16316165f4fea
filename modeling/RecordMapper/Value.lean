import RecordMapper.Error
import RecordMapper.Number.Shortest
import RecordMapper.OrderedMap
import RecordMapper.Text.Basic

/-!
Column values and rows. A database answers with text, so the conversions of a value read text as
well as the value's own kind.
-/

set_option autoImplicit false

namespace RecordMapper

inductive Value where
  | null
  | bool (value : Bool)
  | int (value : Int64)
  | float (value : Binary64)
  | text (value : String)
  | bytes (value : List UInt8)
  deriving DecidableEq, Repr

/-- One result row: values by column name, in select order. -/
abbrev Row := OrderedMap Value

namespace Value

instance : Inhabited Value := ⟨.null⟩

def isNull : Value → Bool
  | .null => true
  | _ => false

def text? : Value → Option String
  | .text value => some value
  | _ => none

/-- Equality as values: floating numbers are compared as numbers, everything else by content. -/
def same : Value → Value → Bool
  | .float x, .float y => x.sameNumber y
  | .float _, _ => false
  | _, .float _ => false
  | x, y => x == y

def diagnostic : Value → String
  | .null => "Null"
  | .bool value => "Bool(" ++ toString value ++ ")"
  | .int value => "I64(" ++ toString value.toInt ++ ")"
  | .float value => "F64(" ++ value.markedText ++ ")"
  | .text value => "String(" ++ value ++ ")"
  | .bytes value => "Bytes([" ++ ", ".intercalate (value.map fun b => toString b.toNat) ++ "])"

/-- An integer brought to the nearest one of 64 bits. -/
def saturate (n : Int) : Int64 :=
  Int64.ofInt (max Int64.minValue.toInt (min Int64.maxValue.toInt n))

/-- Reads a value as an integer: whole floating numbers are brought into range, and text is parsed
without the blanks around it. -/
def toInt64 (value : Value) : Except Error Int64 :=
  let refused : Except Error Int64 :=
    .error (.words ("cannot convert " ++ value.diagnostic ++ " to an integer"))
  match value with
  | .int n => .ok n
  | .bool b => .ok (if b then 1 else 0)
  | .float x =>
    match x.toInt? with
    | some n => .ok (saturate n)
    | none => refused
  | .text s =>
    (Number.readInt64 (Text.trimBoth Text.isBlank s.toList)).mapError fun fault =>
      .of (.unreadableNumber fault)
  | _ => refused

def toBinary64 : Value → Except Error Binary64
  | .float x => .ok x
  | .int n => .ok (.ofInt n.toInt)
  | .text s =>
    (Number.readBinary64 (Text.trimBoth Text.isBlank s.toList)).mapError fun fault =>
      .of (.unreadableNumber fault)
  | value => .error (.words ("cannot convert " ++ value.diagnostic ++ " to a float"))

/-- Reads a value as a truth value. The empty text, `0`, `false` and `f` are false, in any case and
with blanks around them; every other text is true. -/
def toBool : Value → Bool
  | .null => false
  | .bool b => b
  | .int n => n != 0
  | .float x => !x.isZero
  | .text s => !(["", "0", "false", "f"].contains (Text.asciiLower (Text.trim s)))
  | .bytes b => !b.isEmpty

def toText : Value → String
  | .null => ""
  | .bool b => if b then "1" else "0"
  | .int n => toString n.toInt
  | .float x => x.plainText
  | .text s => s
  | .bytes b => Text.Utf8.decode b

end Value

/-- The value of the first column: the answer of a one-column row such as a count. -/
def Row.first? (row : Row) : Option Value := row.entries.head?.map Prod.snd

end RecordMapper
