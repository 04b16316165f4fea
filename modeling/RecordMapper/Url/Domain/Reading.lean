import RecordMapper.Text.Basic
import RecordMapper.Url.Basic
import RecordMapper.Url.Domain.Label

/-!
Reading domain names, the hosts of the web. A name is a list of labels with points between them. Its
characters may be percent encoded, and a label may be written in Punycode, after the mark `xn--`.
-/

set_option autoImplicit false

namespace RecordMapper.Url.Punycode

/-!
## Punycode

Text written with the letters, digits and hyphens of ASCII. The ASCII characters come
first, up to the last hyphen; after it each other character is given by a number that says how far
it is from the one before, counted over code points and places together.
-/

/-- The value of a digit: letters stand for 0 to 25, digits for 26 to 35. -/
def digitValue? (c : Char) : Option Nat :=
  if c.isLower then some (c.toNat - 'a'.toNat)
  else if c.isUpper then some (c.toNat - 'A'.toNat)
  else if c.isDigit then some (c.toNat - '0'.toNat + 26)
  else none

/-- The least value of a digit that is not the last of its number, at a place that counts in steps
of 36 and for a bias. -/
def threshold (place bias : Nat) : Nat := max 1 (min 26 (place - bias))

/-- Divides a distance by 35 until it is small; each division adds 36 to the bias. -/
def shrink (distance bias : Nat) : Nat × Nat :=
  if 455 < distance then shrink (distance / 35) (bias + 36) else (distance, bias)
termination_by distance
decreasing_by exact Nat.div_lt_self (by omega) (by omega)

/-- The bias after a distance, when the text has grown to `size` characters. -/
def adapt (distance size : Nat) (isFirst : Bool) : Nat :=
  let distance := distance / (if isFirst then 700 else 2)
  let (distance, bias) := shrink (distance + distance / size) 0
  bias + 36 * distance / (distance + 38)

/-- Reads a number, the lowest digit first, and adds it to `sum`; also gives what follows it.
Numbers and the weights of their digits have 32 bits. -/
def readNumber? (bias : Nat) (place weight sum : Nat) (cs : List Char) :
    Option (Nat × { rest : List Char // rest.length < cs.length }) :=
  match cs with
  | [] => none
  | c :: rest => do
    let digit ← digitValue? c
    let sum := sum + digit * weight
    let least := threshold place bias
    if UInt32.size ≤ sum then none
    else if digit < least then some (sum, ⟨rest, by simp⟩)
    else if UInt32.size ≤ weight * (36 - least) then none
    else
      let (sum, ⟨rest, shorter⟩) ←
        readNumber? bias (place + 36) (weight * (36 - least)) sum rest
      return (sum, ⟨rest, by simp only [List.length_cons]; omega⟩)

def isCodePoint (n : Nat) : Bool := n < 0xD800 || (0xDFFF < n && n < 0x110000)

/-- Puts the characters that the numbers give into `text`. The next one is at least `point`, and its
place at least `place`. -/
def insertAll? (bias point place : Nat) (text cs : List Char) : Option (List Char) :=
  match cs with
  | [] => some text
  | c :: rest => do
    let (reached, ⟨unread, _⟩) ← readNumber? bias 36 1 place (c :: rest)
    let size := text.length + 1
    let point := point + reached / size
    if isCodePoint point then
      insertAll? (adapt (reached - place) size (place = 0)) point (reached % size + 1)
        (text.insertIdx (reached % size) (.ofNat point)) unread
    else none
termination_by cs.length
decreasing_by assumption

def cutNumbers (cs : List Char) : List Char × List Char :=
  match cs.reverse.dropWhile (· != '-') with
  | _ :: before =>
    if before.isEmpty then ([], cs) else (before.reverse, cs.drop (before.length + 1))
  | [] => ([], cs)

def decode? (cs : List Char) : Option (List Char) :=
  let (plain, numbers) := cutNumbers cs
  insertAll? 72 0x80 0 plain numbers

end RecordMapper.Url.Punycode

/-! ## Names -/

namespace RecordMapper.Url.Domain

open Text

/-- The characters that a name must not show: controls, spaces, and what has a meaning elsewhere in
a URL. -/
def isForbidden (c : Char) : Bool :=
  c.toNat ≤ 0x20 || c.toNat == 0x7F ||
    ['%', '#', '/', ':', '<', '>', '?', '@', '[', '\\', ']', '^', '|'].contains c

def isAscii (c : Char) : Bool := c.toNat < 0x80

def encodedMark : List Char := ['x', 'n', '-', '-']

/-- The most characters of a label in Punycode, the mark not counted. -/
def longestEncoded : Nat := 2000

def longestPlain : Nat := 1000

/-- Reads a label whose characters are spelled. What stands in Punycode has to be spelled already,
and in its canonical form. -/
def readLabel? (label : List Char) : Option (List Char) :=
  if encodedMark.isPrefixOf label then
    let encoded := label.drop encodedMark.length
    if encoded.all isAscii && encoded.getLast?.any (· != '-') &&
        encoded.length ≤ longestEncoded then do
      let decoded ← Punycode.decode? encoded
      if decoded.all isSettled && canonical decoded == decoded then some decoded else none
    else none
  else some label

def isLabel (label : List Char) : Bool :=
  !label.any isForbidden && !label.head?.any isMark && joinersFit [] label &&
    (label.all isAscii || label.length ≤ longestPlain)

/-- Reads a name. If any label shows from right to left, all of them have to keep their order. -/
def read? (cs : List Char) : Option (List Char) := do
  let spelled ← (Utf8.decodeFrom .start (decodeBytes cs)).mapM spell?
  let labels ← (pieces (· == '.') (canonical spelled.flatten)).mapM readLabel?
  if labels.all isLabel && (!labels.any hasRightToLeft || labels.all keepsOrder) then
    some (['.'].intercalate labels)
  else none

end RecordMapper.Url.Domain
