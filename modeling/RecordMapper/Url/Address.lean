import RecordMapper.Text.Basic
import RecordMapper.Url.Basic

/-!
Numbers of computers as hosts.
-/

set_option autoImplicit false

namespace RecordMapper.Url.Dotted

/-!
## Four bytes

IPv4 addresses as hosts: up to four numbers with points between them. All but the last are bytes of
the address, and the last one gives the bytes that are left.
-/

/-- The value of digits in a base, where each is a digit of it. -/
def digitsIn? (base : Nat) (cs : List Char) : Option Nat := do
  let digits ← cs.mapM hexValue?
  if digits.all (· < base) then some (digits.foldl (fun n d => n * base + d) 0) else none

/-- Reads a number: hexadecimal after `0x`, octal after another leading zero, and else decimal. No
digits after `0x` are zero. -/
def readNumber? : List Char → Option Nat
  | [] => none
  | '0' :: 'x' :: cs => digitsIn? 16 cs
  | '0' :: 'X' :: cs => digitsIn? 16 cs
  | '0' :: c :: cs => digitsIn? 8 (c :: cs)
  | cs => digitsIn? 10 cs

/-- The parts of a host, without an empty one at its end. -/
def parts (host : List Char) : List (List Char) :=
  let parts := Text.pieces (· == '.') host
  if 1 < parts.length ∧ parts.getLast? = some [] then parts.dropLast else parts

/-- Whether a host is meant as an address: its last part is a number, or looks like one. -/
def endsInNumber (host : List Char) : Bool :=
  (parts host).getLast?.any fun part =>
    (readNumber? part).isSome || (!part.isEmpty && part.all Char.isDigit)

def read? (host : List Char) : Option UInt32 := do
  let numbers ← (parts host).mapM readNumber?
  let last ← numbers.getLast?
  let bytes := numbers.dropLast
  let unit := Nat.pow 256 (4 - bytes.length)
  if 3 < bytes.length ∨ bytes.any (255 < ·) ∨ unit ≤ last then none
  else some (.ofNat (bytes.foldl (fun n b => n * 256 + b) 0 * unit + last))

/-- The written form: its four bytes. -/
def text (address : UInt32) : String :=
  let n := address.toNat
  ".".intercalate
    ([n / Nat.pow 256 3, n / Nat.pow 256 2 % 256, n / 256 % 256, n % 256].map toString)

end RecordMapper.Url.Dotted

/-!
## Eight pieces

IPv6 addresses as hosts: eight pieces of sixteen bits. A text may leave out one run of zero pieces,
and may give the last two pieces in the dotted form of an IPv4 address; the written form always has
hexadecimal pieces and leaves out the longest run of zeros.
-/

namespace RecordMapper.Url

structure Address where
  pieces : List Nat
  eight : pieces.length = 8
  deriving DecidableEq, Repr

namespace Address

/-- Reads a piece: one to four hexadecimal digits. -/
def readPiece? (cs : List Char) : Option Nat :=
  if cs.isEmpty ∨ 4 < cs.length then none
  else (cs.mapM hexValue?).map fun digits => digits.foldl (fun n d => n * 16 + d) 0

/-- Reads a number of the dotted form: at most 255, without a leading zero. -/
def readDotted? (cs : List Char) : Option Nat :=
  match cs with
  | [] => none
  | '0' :: _ :: _ => none
  | _ =>
    if cs.length ≤ 3 ∧ cs.all Char.isDigit then
      let n := cs.foldl (fun n c => n * 10 + (c.toNat - '0'.toNat)) 0
      if n ≤ 255 then some n else none
    else none

/-- Reads the last group of an address: a piece, or two pieces in dotted form. -/
def readLast? (cs : List Char) : Option (List Nat) :=
  if cs.contains '.' then do
    match ← (Text.pieces (· == '.') cs).mapM readDotted? with
    | [a, b, c, d] => return [a * 256 + b, c * 256 + d]
    | _ => none
  else (readPiece? cs).map fun piece => [piece]

def readGroups? : List (List Char) → Option (List Nat)
  | [] => some []
  | [last] => readLast? last
  | group :: rest => do return (← readPiece? group) :: (← readGroups? rest)

def groups (cs : List Char) : List (List Char) :=
  if cs.isEmpty then [] else Text.pieces (· == ':') cs

/-- The parts before and after the first double colon. -/
def cutGap? : List Char → Option (List Char × List Char)
  | ':' :: ':' :: rest => some ([], rest)
  | c :: rest => (cutGap? rest).map fun (before, after) => (c :: before, after)
  | [] => none

def ofPieces? (pieces : List Nat) : Option Address :=
  if eight : pieces.length = 8 then some ⟨pieces, eight⟩ else none

/-- Reads an address. A double colon stands for at least one zero piece. -/
def read? (cs : List Char) : Option Address := do
  match cutGap? cs with
  | none => ofPieces? (← readGroups? (groups cs))
  | some (before, after) =>
    let left ← (groups before).mapM readPiece?
    let right ← readGroups? (groups after)
    let given := left.length + right.length
    if given < 8 then ofPieces? (left ++ List.replicate (8 - given) 0 ++ right) else none

def zeros (pieces : List Nat) : Nat := (pieces.takeWhile (· == 0)).length

/-- The position and length of the longest run of zeros, the first of several; its length is zero if
there is none. -/
def longestZeros : List Nat → Nat × Nat
  | [] => (0, 0)
  | piece :: rest =>
    let here := zeros (piece :: rest)
    let (start, length) := longestZeros rest
    if length ≤ here then (0, here) else (start + 1, length)

def joined (pieces : List Nat) : String :=
  ":".intercalate (pieces.map fun piece => String.ofList (Nat.toDigits 16 piece))

/-- The written form. A single zero piece is not left out. -/
def text (a : Address) : String :=
  let (start, length) := longestZeros a.pieces
  if length < 2 then joined a.pieces
  else joined (a.pieces.take start) ++ "::" ++ joined (a.pieces.drop (start + length))

end Address

end RecordMapper.Url
