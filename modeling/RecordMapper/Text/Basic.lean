/-!
Text as every other part reads it: cut at blanks and other characters, looked up in tables that are
given by ranges of code points, and decoded from bytes.
-/

set_option autoImplicit false

namespace RecordMapper.Text

/-!
## White space and cuts

White space in the sense of the Unicode property `White_Space`, and the ways in which text is cut:
trimming both ends, splitting into words, and dividing at the first of some characters.
-/

/-- The characters with the property `White_Space`: six controls, the space, and the eighteen
spaces and separators outside ASCII. -/
def isBlank (c : Char) : Bool :=
  let point := c.toNat
  (9 ≤ point && point ≤ 13) || point == 0x20 || point == 0x85 || point == 0xA0 ||
    point == 0x1680 || (0x2000 ≤ point && point ≤ 0x200A) || point == 0x2028 ||
    point == 0x2029 || point == 0x202F || point == 0x205F || point == 0x3000

/-- The characters left when the ones matching at either end are dropped. -/
def trimBoth (drops : Char → Bool) (cs : List Char) : List Char :=
  ((cs.dropWhile drops).reverse.dropWhile drops).reverse

def trim (text : String) : String := String.ofList (trimBoth isBlank text.toList)

/-- The maximal pieces between cutting characters, empty pieces included: there is always one
piece more than there are cuts. -/
def pieces (cuts : Char → Bool) : List Char → List (List Char)
  | [] => [[]]
  | c :: rest =>
    if cuts c then [] :: pieces cuts rest
    else match pieces cuts rest with
      | [] => [[c]]
      | piece :: others => (c :: piece) :: others

/-- The words of a text: its non-empty pieces between blanks. -/
def words (text : String) : List String :=
  ((pieces isBlank text.toList).filter fun piece => !piece.isEmpty).map String.ofList

/-- The parts of a text before and after its first cutting character. -/
def cut? (cuts : Char → Bool) : List Char → Option (List Char × List Char)
  | [] => none
  | c :: rest =>
    if cuts c then some ([], rest)
    else (cut? cuts rest).map fun (before, after) => (c :: before, after)

def occurs (part : List Char) : List Char → Bool
  | [] => part.isEmpty
  | c :: rest => part.isPrefixOf (c :: rest) || occurs part rest

def firstWord (text : String) : String := (words text).headD ""

/-- ASCII letters to their small forms; every other character stays. -/
def asciiLower (text : String) : String := String.ofList (text.toList.map Char.toLower)

/-- ASCII letters to their capital forms; every other character stays. -/
def asciiUpper (text : String) : String := String.ofList (text.toList.map Char.toUpper)

/-!
## Ranges

Sets of characters given by ranges of code points, and values given by runs of them.
-/

def inRanges (ranges : List (Nat × Nat)) (point : Nat) : Bool :=
  ranges.any fun (first, last) => first ≤ point && point ≤ last

def runValue? {α : Type} (runs : List (Nat × Nat × α)) (point : Nat) : Option α :=
  (runs.find? fun (first, last, _) => first ≤ point && point ≤ last).map fun (_, _, value) => value

end RecordMapper.Text

/-!
## UTF-8

Reading bytes as UTF-8 when they may be malformed. Each maximal run of bytes that starts a character
and cannot be completed is read as one replacement character.
-/

namespace RecordMapper.Text.Utf8

/-- Where a reader stands between two bytes: at the start of a character, or inside one with `value`
collected, `owed` bytes to come and the next of them bounded by `low` and `high`. -/
inductive State where
  | start
  | inside (value owed low high : Nat)

def replacement : Char := '\uFFFD'

/-- Reads the first byte of a character: what it shows at once, and the state after it. -/
def first (byte : Nat) : List Char × State :=
  if byte < 0x80 then ([Char.ofNat byte], .start)
  else if byte < 0xC2 then ([replacement], .start)
  else if byte < 0xE0 then ([], .inside (byte - 0xC0) 1 0x80 0xBF)
  else if byte < 0xF0 then
    ([], .inside (byte - 0xE0) 2 (if byte = 0xE0 then 0xA0 else 0x80)
      (if byte = 0xED then 0x9F else 0xBF))
  else if byte < 0xF5 then
    ([], .inside (byte - 0xF0) 3 (if byte = 0xF0 then 0x90 else 0x80)
      (if byte = 0xF4 then 0x8F else 0xBF))
  else ([replacement], .start)

/-- Reads one byte. One that cannot continue the open character closes it as malformed and is read
as the start of another. -/
def step (state : State) (byte : Nat) : List Char × State :=
  match state with
  | .start => first byte
  | .inside value owed low high =>
    if low ≤ byte ∧ byte ≤ high then
      let value := value * 64 + (byte - 0x80)
      if owed ≤ 1 then ([Char.ofNat value], .start) else ([], .inside value (owed - 1) 0x80 0xBF)
    else
      let (shown, next) := first byte
      (replacement :: shown, next)

/-- The characters read from `bytes` when the reader starts in `state`. -/
def decodeFrom (state : State) : List UInt8 → List Char
  | [] =>
    match state with
    | .start => []
    | .inside .. => [replacement]
  | byte :: rest =>
    let (shown, next) := step state byte.toNat
    shown ++ decodeFrom next rest

def decode (bytes : List UInt8) : String := String.ofList (decodeFrom .start bytes)

end RecordMapper.Text.Utf8
