import RecordMapper.Url.Address
import RecordMapper.Url.Basic
import RecordMapper.Url.Domain.Reading

/-!
Reading URLs. The web's own schemes have domain names and addresses as hosts; every other scheme has
a host of any text. A path is only cleared of its dot segments.
-/

set_option autoImplicit false

namespace RecordMapper.Url

/-- Why a text is not a URL. -/
inductive Fault where
  | noScheme
  | emptyHost
  | invalidPort
  | invalidAddress
  | invalidDotted
  | invalidDomain
  | invalidHost
  deriving DecidableEq, Repr

def Fault.message : Fault → String
  | .noScheme => "relative URL without a base"
  | .emptyHost => "empty host"
  | .invalidPort => "invalid port number"
  | .invalidAddress => "invalid IPv6 address"
  | .invalidDotted => "invalid IPv4 address"
  | .invalidDomain => "invalid international domain name"
  | .invalidHost => "invalid domain character"

/-- The characters of a URL: without controls and spaces at the two ends of the text, and without
tabs and line ends anywhere. -/
def characters (text : String) : List Char :=
  (Text.trimBoth (fun c => c.toNat ≤ 0x20) text.toList).filter fun c =>
    !(['\t', '\n', '\r'].contains c)

def isSchemeChar (c : Char) : Bool := c.isAlphanum || ['+', '-', '.'].contains c

/-- Cuts the scheme off: a letter and scheme characters up to a colon. -/
def cutScheme? (cs : List Char) : Option (String × List Char) :=
  match Text.cut? (· == ':') cs with
  | some (scheme, rest) =>
    if (scheme.head?.any Char.isAlpha) && scheme.all isSchemeChar then
      some (String.ofList (scheme.map Char.toLower), rest)
    else none
  | none => none

def isWeb (scheme : String) : Bool := ["http", "https", "ws", "wss", "ftp"].contains scheme

/-- A slash; in the web's schemes a backslash is one, too. -/
def isSlash (web : Bool) (c : Char) : Bool := c == '/' || (web && c == '\\')

def endsPath (c : Char) : Bool := c == '?' || c == '#'

def upTo (ends : Char → Bool) (cs : List Char) : List Char × List Char :=
  (cs.takeWhile fun c => !ends c, cs.dropWhile fun c => !ends c)

/-- The parts before and after the last `@`. -/
def cutLogin? (cs : List Char) : Option (List Char × List Char) :=
  (Text.cut? (· == '@') cs.reverse).map fun (after, before) => (before.reverse, after.reverse)

/-- User and password of a login. An empty password is none. -/
def readLogin (cs : List Char) : String × Option String :=
  let encoded (part : List Char) : String := String.ofList (encode encodesInUser part)
  match Text.cut? (· == ':') cs with
  | some (user, password) =>
    (encoded user, if password.isEmpty then none else some (encoded password))
  | none => (encoded cs, none)

/-- Text up to the first colon that is not between brackets, and the rest from it on. -/
def cutHost (bracketed : Bool) : List Char → List Char × List Char
  | [] => ([], [])
  | c :: rest =>
    if c == ':' && !bracketed then ([], c :: rest)
    else
      let (host, rest) := cutHost (c == '[' || (bracketed && c != ']')) rest
      (c :: host, rest)

/-- The characters that a host must not show. -/
def forbiddenInHost : List Char :=
  ['\x00', '\t', '\n', '\r', ' ', '#', '/', ':', '<', '>', '?', '@', '[', '\\', ']', '^', '|']

/-- Reads a host of the web: a domain name, or an IPv4 address if its last part is a number. -/
def readName (cs : List Char) : Except Fault String :=
  match Domain.read? cs with
  | none => .error .invalidDomain
  | some [] => .error .emptyHost
  | some name =>
    if Dotted.endsInNumber name then
      match Dotted.read? name with
      | some address => .ok (Dotted.text address)
      | none => .error .invalidDotted
    else .ok (String.ofList name)

/-- Reads a host: an IPv6 address between brackets, or a name. -/
def readHost (web : Bool) (cs : List Char) : Except Fault String :=
  match cs with
  | '[' :: rest =>
    match rest.getLast?, Address.read? rest.dropLast with
    | some ']', some address => .ok ("[" ++ address.text ++ "]")
    | _, _ => .error .invalidAddress
  | _ =>
    if web then readName cs
    else if cs.any forbiddenInHost.contains then .error .invalidHost
    else .ok (String.ofList (encode isHidden cs))

def digitsValue (cs : List Char) : Nat := cs.foldl (fun n c => n * 10 + (c.toNat - '0'.toNat)) 0

/-- Reads what follows a host: a port, if there is one, and what is left for the path. Only a
backslash may end the digits before the authority does. -/
def readPort : List Char → Except Fault (Option UInt16 × List Char)
  | ':' :: cs =>
    let digits := cs.takeWhile Char.isDigit
    let rest := cs.dropWhile Char.isDigit
    if rest.head?.any (· != '\\') || 65535 < digitsValue digits then .error .invalidPort
    else .ok (if digits.isEmpty then none else some (.ofNat (digitsValue digits)), rest)
  | cs => .ok (none, cs)

/-- Reads the authority after the two slashes, and leaves the rest. A user needs a host, and so does
a port. -/
def readAuthority (web : Bool) (cs : List Char) : Except Fault (Authority × List Char) := do
  let (whole, rest) := upTo (fun c => isSlash web c || endsPath c) cs
  let (login, place) := match cutLogin? whole with
    | some (login, place) => (some login, place)
    | none => (none, whole)
  let (user, password) := readLogin (login.getD [])
  if login == some [] && place.isEmpty && !rest.isEmpty then throw .emptyHost
  let (host, afterHost) := cutHost false place
  if host.isEmpty && (web || !afterHost.isEmpty) then throw .emptyHost
  let host ← readHost web host
  let (port, unread) ← readPort afterHost
  if host.isEmpty && (!user.isEmpty || password.isSome) then throw .emptyHost
  return ({ user, password, host, port }, unread ++ rest)

/-- Whether a segment stands for the path itself. -/
def isSingleDot (segment : List Char) : Bool :=
  [".", "%2e"].contains (String.ofList (segment.map Char.toLower))

def isDoubleDot (segment : List Char) : Bool :=
  ["..", "%2e.", ".%2e", "%2e%2e"].contains (String.ofList (segment.map Char.toLower))

/-- Whether a segment is a drive letter with its colon, alone or before a backslash. -/
def isDrive : List Char → Bool
  | letter :: mark :: rest =>
    letter.isAlpha && (mark == ':' || mark == '|') && rest.head?.all (· == '\\')
  | _ => false

/-- Takes away the latest segment. A drive letter stays. -/
def dropLatest : List (List Char) → List (List Char)
  | [] => []
  | segment :: earlier => if isDrive segment then segment :: earlier else earlier

/-- The segments of a path without dot segments, after the segments `done`, the latest first. A dot
segment at the end leaves an empty one. -/
def followDots (done : List (List Char)) : List (List Char) → List (List Char)
  | [] => done.reverse
  | segment :: rest =>
    if isDoubleDot segment then
      let done := dropLatest done
      followDots (if rest.isEmpty then [] :: done else done) rest
    else if isSingleDot segment then
      followDots (if rest.isEmpty then [] :: done else done) rest
    else followDots (segment :: done) rest

def rootedPath (web : Bool) (cs : List Char) : String :=
  let segments := (Text.pieces (isSlash web) cs).map (encode encodesInPath)
  "/" ++ "/".intercalate ((followDots [] segments).map String.ofList)

/-- The path after an authority. -/
def pathAfterAuthority (web : Bool) : List Char → String
  | [] => if web then "/" else ""
  | c :: rest => rootedPath web (if isSlash web c then rest else c :: rest)

/-- The path of a URL without an authority. One that does not start at the root is kept as text. -/
def pathAlone : List Char → String
  | '/' :: rest => rootedPath false rest
  | cs => String.ofList (encode isHidden cs)

def withQueryAndFragment (u : Url) (cs : List Char) : Url :=
  let (query, fragment) := upTo (· == '#') cs
  let encoded (encodes : Char → Bool) : List Char → Option String
    | [] => none
    | _ :: part => some (String.ofList (encode encodes part))
  { u with
    query := encoded encodesInQuery query
    fragment := encoded encodesInFragment fragment }

def readPlace (web : Bool) (scheme : String) (cs : List Char) : Except Fault Url := do
  let (authority, rest) ← readAuthority web cs
  let (path, rest) := upTo endsPath rest
  let u : Url := { scheme, authority := some authority, path := pathAfterAuthority web path }
  return u.withQueryAndFragment rest

/-- Reads what follows a scheme that names no host. -/
def readPathOnly (scheme : String) (cs : List Char) : Url :=
  let (path, rest) := upTo endsPath cs
  let u : Url := { scheme, path := pathAlone path }
  u.withQueryAndFragment rest

/-- Reads the host of a file, if it has one. The machine itself needs no name, and a drive is no
host. -/
def readFileHost (cs : List Char) : Except Fault (Option Authority) := do
  if cs.isEmpty || (cs.length == 2 && isDrive cs) then return none
  let host ← readHost true cs
  return if host = "localhost" then none else some { host }

/-- Reads what follows the scheme of files: a host may stand between the second slash and the
third. -/
def readFile (scheme : String) : List Char → Except Fault Url
  | first :: second :: cs => do
    if isSlash true first && isSlash true second then
      let (host, rest) := upTo (fun c => isSlash true c || endsPath c) cs
      let authority ← readFileHost host
      let (path, rest) := upTo endsPath rest
      let u : Url := { scheme, authority, path := pathAfterAuthority true path }
      return u.withQueryAndFragment rest
    else return readPathOnly scheme (first :: second :: cs)
  | cs => .ok (readPathOnly scheme cs)

def read (cs : List Char) : Except Fault Url :=
  match cutScheme? cs with
  | none => .error .noScheme
  | some (scheme, rest) =>
    if scheme = "file" then readFile scheme rest
    else if isWeb scheme then readPlace true scheme (rest.dropWhile (isSlash true))
    else
      match rest with
      | '/' :: '/' :: place => readPlace false scheme place
      | _ => .ok (readPathOnly scheme rest)

def ofText (text : String) : Except Fault Url := read (characters text)

end RecordMapper.Url
