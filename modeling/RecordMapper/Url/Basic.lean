/-!
URLs by their parts, and the characters that each part shows as they are.
-/

set_option autoImplicit false

namespace RecordMapper.Url

/-!
## Percent encoding

The characters that a part of a URL must not show are written as their UTF-8
bytes, each as a percent sign and two digits. What is encoded already stays as it is, so the percent
sign itself is never encoded.
-/

/-- Controls and everything outside ASCII, which every part of a URL encodes. -/
def isHidden (c : Char) : Bool := c.toNat < 0x20 || 0x7F ≤ c.toNat

def encodesInQuery (c : Char) : Bool := isHidden c || [' ', '"', '#', '<', '>'].contains c

def encodesInFragment (c : Char) : Bool := isHidden c || [' ', '"', '<', '>', '\x60'].contains c

def encodesInPath (c : Char) : Bool :=
  encodesInFragment c || ['#', '?', '\x7b', '\x7d'].contains c

def encodesInUser (c : Char) : Bool :=
  encodesInPath c || ['/', ':', ';', '=', '@', '[', '\\', ']', '^', '|'].contains c

def hexDigit (n : Nat) : Char := Char.ofNat (if n < 10 then 0x30 + n else 0x37 + n)

def encodeByte (b : UInt8) : List Char := ['%', hexDigit (b.toNat / 16), hexDigit (b.toNat % 16)]

def encode (encodes : Char → Bool) (cs : List Char) : List Char :=
  cs.flatMap fun c => if encodes c then (String.utf8EncodeChar c).flatMap encodeByte else [c]

def hexValue? (c : Char) : Option Nat :=
  if '0' ≤ c ∧ c ≤ '9' then some (c.toNat - '0'.toNat)
  else if 'a' ≤ c ∧ c ≤ 'f' then some (c.toNat - 'a'.toNat + 10)
  else if 'A' ≤ c ∧ c ≤ 'F' then some (c.toNat - 'A'.toNat + 10)
  else none

def decodeBytes : List Char → List UInt8
  | [] => []
  | '%' :: high :: low :: rest =>
    match hexValue? high, hexValue? low with
    | some high, some low => .ofNat (high * 16 + low) :: decodeBytes rest
    | _, _ => '%'.val.toUInt8 :: decodeBytes (high :: low :: rest)
  | c :: rest => String.utf8EncodeChar c ++ decodeBytes rest

/-- Text without a character to encode stays as it is. -/
theorem encode_eq_self {encodes : Char → Bool} {cs : List Char}
    (plain : ∀ c ∈ cs, encodes c = false) : encode encodes cs = cs := by
  induction cs with
  | nil => rfl
  | cons c rest ih =>
      have head := plain c List.mem_cons_self
      have tail := ih fun d member => plain d (List.mem_cons_of_mem c member)
      simp only [encode] at tail
      simp [encode, head, tail]

end RecordMapper.Url

/-!
## Parts

The parts hold encoded text: what stands in a part is
what is written.
-/

namespace RecordMapper

structure Authority where
  /-- Empty where no user is named. -/
  user : String := ""
  password : Option String := none
  host : String
  port : Option UInt16 := none
  deriving DecidableEq, Repr

structure Url where
  scheme : String
  authority : Option Authority := none
  path : String
  query : Option String := none
  fragment : Option String := none
  deriving DecidableEq, Repr

def Url.marked (mark : String) : Option String → String
  | some part => mark ++ part
  | none => ""

namespace Authority

def login (a : Authority) : String := a.user ++ Url.marked ":" a.password

def text (a : Authority) : String :=
  (if a.login.isEmpty then "" else a.login ++ "@") ++ a.host ++
    Url.marked ":" (a.port.map fun port => toString port.toNat)

end Authority

namespace Url

/-- What is written between the scheme and the path. Without an authority, a path that starts with
two slashes must not look like one. -/
def place (u : Url) : String :=
  match u.authority with
  | some a => "//" ++ a.text
  | none => if ['/', '/'].isPrefixOf u.path.toList then "/." else ""

def text (u : Url) : String :=
  u.scheme ++ ":" ++ u.place ++ u.path ++ marked "?" u.query ++ marked "#" u.fragment

end Url

end RecordMapper
