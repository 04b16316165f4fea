import RecordMapper.Number.Binary64

/-!
Reading numbers from text. Integers are a sign and ASCII digits within the bounds of a machine word;
floating numbers are decimals with an optional exponent, or one of the words for infinity and NaN.
-/

set_option autoImplicit false

namespace RecordMapper

/-- Why a text is not a number. -/
inductive NumberFault where
  | emptyInteger
  | invalidDigit
  | tooLarge
  | tooSmall
  | emptyFloat
  | invalidFloat
  deriving DecidableEq, Repr

def NumberFault.message : NumberFault → String
  | .emptyInteger => "cannot parse integer from empty string"
  | .invalidDigit => "invalid digit found in string"
  | .tooLarge => "number too large to fit in target type"
  | .tooSmall => "number too small to fit in target type"
  | .emptyFloat => "cannot parse float from empty string"
  | .invalidFloat => "invalid float literal"

namespace Number

def digit? (c : Char) : Option Nat :=
  if '0' ≤ c ∧ c ≤ '9' then some (c.toNat - '0'.toNat) else none

/-- Reads digits after the magnitude `read`, at most `limit`. The first fault from the left is
reported, whichever kind it is. -/
def readMagnitude (limit : Nat) (beyond : NumberFault) : Nat → List Char → Except NumberFault Nat
  | read, [] => .ok read
  | read, c :: rest =>
    match digit? c with
    | none => .error .invalidDigit
    | some d =>
      let next := read * 10 + d
      if limit < next then .error beyond else readMagnitude limit beyond next rest

/-- Reads a signed integer of 64 bits. A sign needs a digit after it. -/
def readInt64 (cs : List Char) : Except NumberFault Int64 :=
  match cs with
  | [] => .error .emptyInteger
  | ['+'] | ['-'] => .error .invalidDigit
  | '-' :: rest =>
    (readMagnitude (Nat.pow 2 63) .tooSmall 0 rest).map fun n => Int64.ofInt (-(n : Int))
  | '+' :: rest => (readMagnitude (Nat.pow 2 63 - 1) .tooLarge 0 rest).map fun n => Int64.ofInt n
  | _ => (readMagnitude (Nat.pow 2 63 - 1) .tooLarge 0 cs).map fun n => Int64.ofInt n

/-- Reads an unsigned integer of at most `limit`. Only a plus sign is allowed. -/
def readNat (limit : Nat) (cs : List Char) : Except NumberFault Nat :=
  match cs with
  | [] => .error .emptyInteger
  | ['+'] => .error .invalidDigit
  | '+' :: rest => readMagnitude limit .tooLarge 0 rest
  | _ => readMagnitude limit .tooLarge 0 cs

def readUInt64 (cs : List Char) : Except NumberFault UInt64 :=
  (readNat (UInt64.size - 1) cs).map UInt64.ofNat

/-- The value of digits read after the number `read`; characters that are no digits are skipped. -/
def digitsValue (read : Nat) (cs : List Char) : Nat :=
  cs.foldl (fun n c => match digit? c with | some d => n * 10 + d | none => n) read

def isDigit (c : Char) : Bool := (digit? c).isSome

/-- The floating number nearest to `digits * 10 ^ power`. Where the exponent alone decides, the
power is not computed: past `10 ^ 400` everything is infinite, and below `10 ^ -400` zero. -/
def ofDecimal (negative : Bool) (digits : Nat) (power : Int) : Binary64 :=
  let leading := power + ((Nat.repr digits).length : Int)
  if digits = 0 then .zero negative
  else if 400 < leading then .infinity negative
  else if leading < -400 then .zero negative
  else if 0 ≤ power then .nearest negative (digits * Nat.pow 10 power.toNat) 1
  else .nearest negative digits (Nat.pow 10 (-power).toNat)

/-- Reads the exponent after the digits of a decimal: nothing, or a mark, a sign and digits. -/
def readExponent : List Char → Option Int
  | [] => some 0
  | mark :: rest =>
    if mark = 'e' ∨ mark = 'E' then
      let (negative, digits) := match rest with
        | '-' :: more => (true, more)
        | '+' :: more => (false, more)
        | _ => (false, rest)
      if digits.isEmpty ∨ !digits.all isDigit then none
      else
        let size : Int := digitsValue 0 digits
        some (if negative then -size else size)
    else none

/-- Reads a decimal without its sign: digits on at least one side of an optional point. -/
def readDecimal (negative : Bool) (cs : List Char) : Option Binary64 :=
  let whole := cs.takeWhile isDigit
  let rest := cs.dropWhile isDigit
  let (fraction, rest) := match rest with
    | '.' :: more => (more.takeWhile isDigit, more.dropWhile isDigit)
    | _ => ([], rest)
  if whole.isEmpty && fraction.isEmpty then none
  else (readExponent rest).map fun exponent =>
    ofDecimal negative (digitsValue (digitsValue 0 whole) fraction) (exponent - fraction.length)

/-- Reads a floating number without its sign. -/
def readUnsigned (negative : Bool) (cs : List Char) : Option Binary64 :=
  let word := String.ofList (cs.map Char.toLower)
  if word = "inf" ∨ word = "infinity" then some (.infinity negative)
  else if word = "nan" then some .nan
  else readDecimal negative cs

def readBinary64 (cs : List Char) : Except NumberFault Binary64 :=
  let read := match cs with
    | '-' :: rest => readUnsigned true rest
    | '+' :: rest => readUnsigned false rest
    | _ => readUnsigned false cs
  match cs, read with
  | [], _ => .error .emptyFloat
  | _, some x => .ok x
  | _, none => .error .invalidFloat

end Number

end RecordMapper
