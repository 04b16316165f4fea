import RecordMapper.Sql.Identifier

/-!
The tokens of SQL text in a dialect. The text is scanned one character at a time: a character either
belongs to the token at hand, or ends it and begins what comes next. Comments and literals that are
left open are refused, so that every character of a text that is read stands in a token or is a
space.
-/

set_option autoImplicit false

namespace RecordMapper.Sql

/-- A token of SQL text. Names and literals are held as what they stand for. -/
inductive Token where
  | keyword (word : String)
  | name (spelling : String)
  | text (content : String)
  | bytes (content : List UInt8)
  | number (digits : String)
  | symbol (spelling : String)
  deriving DecidableEq, Repr

inductive Quotation where
  | name
  | text
  | bytes
  /-- A literal of a kind that has no token here, such as a bit string. -/
  | other
  deriving DecidableEq, Repr

inductive Quote where
  | single
  | double
  | back
  deriving DecidableEq, Repr

def Quote.char : Quote → Char
  | .single => '\''
  | .double => '"'
  | .back => '\x60'

/-- What has been read of the token at hand, the latest character first. -/
inductive Scan where
  | start
  | word (read : List Char)
  | number (read : List Char)
  | symbol (read : List Char)
  | inside (kind : Quotation) (quote : Quote) (read : List Char)
  | escaped (kind : Quotation) (quote : Quote) (read : List Char)
  /-- Behind a quote, which ends the token unless a second one follows. -/
  | closed (kind : Quotation) (quote : Quote) (read : List Char)
  deriving DecidableEq, Repr

def isSpace (c : Char) : Bool := c == ' ' || (9 ≤ c.toNat && c.toNat ≤ 13)

def startsWord (c : Char) : Bool := c.isAlpha || c == '_' || 0x80 ≤ c.toNat

def inWord (c : Char) : Bool := startsWord c || Name.isAsciiDigit c || c == '$'

def isPunctuation (c : Char) : Bool := "(),;.[]\x7b\x7d".toList.contains c

/-- Characters of which operators are made; an operator is as long as can be. -/
def inOperator (c : Char) : Bool := "+-*/<>=~!@#%^&|?:$\\".toList.contains c

/-- What a quote opens. The double quote opens a name in PostgreSQL only, and the backquote in MySQL
only. -/
def quotation? : Dialect → Char → Option (Quotation × Quote)
  | _, '\'' => some (.text, .single)
  | .mysql, '"' => some (.text, .double)
  | .postgresql, '"' => some (.name, .double)
  | .mysql, '\x60' => some (.name, .back)
  | _, _ => none

def prefixed? : Dialect → List Char → Option Quotation
  | .mysql, [c] =>
    if c.toLower = 'x' then some .bytes
    else if ['b', 'n'].contains c.toLower then some .other else none
  | .postgresql, [c] => if ['b', 'e', 'n', 'x'].contains c.toLower then some .other else none
  | _, _ => none

def hasEscapes (d : Dialect) (kind : Quotation) : Bool := d == .mysql && kind == .text

/-- What an escaped character stands for, the latest character first. The two wildcards keep their
backslash. -/
def unescaped (c : Char) : List Char :=
  if c = '0' then ['\x00']
  else if c = 'b' then ['\x08']
  else if c = 'n' then ['\n']
  else if c = 'r' then ['\r']
  else if c = 't' then ['\t']
  else if c = 'Z' then ['\x1a']
  else if c = '%' ∨ c = '_' then [c, '\\']
  else [c]

def hexValue? (c : Char) : Option Nat :=
  if c.isDigit then some (c.toNat - '0'.toNat)
  else if 'a' ≤ c.toLower ∧ c.toLower ≤ 'f' then some (c.toLower.toNat - 'a'.toNat + 10)
  else none

def readHex : List Char → Option (List UInt8)
  | [] => some []
  | high :: low :: rest => do
    return .ofNat (16 * (← hexValue? high) + (← hexValue? low)) :: (← readHex rest)
  | [_] => none

/-- A word without quotes: a reserved word in any case, or a name, which PostgreSQL takes in small
letters. -/
def wordToken (d : Dialect) (word : String) : Token :=
  if Text.asciiLower word ∈ reservedWords then .keyword (Text.asciiLower word)
  else match d with
    | .mysql => .name word
    | .postgresql => .name (Text.asciiLower word)

/-- Whether an operator hides the start of a comment. -/
def opensComment (d : Dialect) (operator : List Char) : Bool :=
  Text.occurs ['-', '-'] operator || Text.occurs ['/', '*'] operator ||
    (d == .mysql && operator.contains '#')

def finish (d : Dialect) : Scan → Option (List Token)
  | .start => some []
  | .word read => some [wordToken d (.ofList read.reverse)]
  | .number read => some [.number (.ofList read.reverse)]
  | .symbol read =>
    if opensComment d read.reverse then none else some [.symbol (.ofList read.reverse)]
  | .closed .name _ read => some [.name (.ofList read.reverse)]
  | .closed .text _ read => some [.text (.ofList read.reverse)]
  | .closed .bytes _ read => (readHex read.reverse).map fun content => [.bytes content]
  | .closed .other _ _ | .inside .. | .escaped .. => none

def grow (d : Dialect) : Scan → Char → Option Scan
  | .start, _ => none
  | .word read, c =>
    if inWord c then some (.word (c :: read))
    else if c = '\'' then (prefixed? d read).map fun kind => .inside kind .single []
    else none
  | .number read, c => if inWord c || c == '.' then some (.number (c :: read)) else none
  | .symbol read, c =>
    if inOperator c && read.all inOperator then some (.symbol (c :: read)) else none
  | .inside kind quote read, c =>
    if c = quote.char then some (.closed kind quote read)
    else if c = '\\' ∧ hasEscapes d kind then some (.escaped kind quote read)
    else some (.inside kind quote (c :: read))
  | .escaped kind quote read, c => some (.inside kind quote (unescaped c ++ read))
  | .closed kind quote read, c =>
    if c = quote.char then some (.inside kind quote (c :: read)) else none

def begin? (d : Dialect) (c : Char) : Option Scan :=
  if isSpace c then some .start
  else if startsWord c then some (.word [c])
  else if Name.isAsciiDigit c then some (.number [c])
  else match quotation? d c with
    | some (kind, quote) => some (.inside kind quote [])
    | none => if isPunctuation c || inOperator c then some (.symbol [c]) else none

def scan (d : Dialect) : Scan → List Char → Option (List Token)
  | s, [] => finish d s
  | s, c :: rest =>
    match grow d s c with
    | some longer => scan d longer rest
    | none => do
      let ended ← finish d s
      let begun ← begin? d c
      return ended ++ (← scan d begun rest)

def lex (d : Dialect) (cs : List Char) : Option (List Token) := scan d .start cs

/-! ## Texts side by side -/

def isCloser (c : Char) : Bool := " ,);(".toList.contains c

def startsClosed (cs : List Char) : Bool := cs.head?.all isCloser

def endsOpen (cs : List Char) : Bool := cs.getLast?.any fun c => c == ' ' || c == '('

theorem isCloser_iff {c : Char} :
    isCloser c = true ↔ c = ' ' ∨ c = ',' ∨ c = ')' ∨ c = ';' ∨ c = '(' := by
  simp [isCloser]

private theorem grow_closer {d : Dialect} {s : Scan} {c : Char} {ended : List Token}
    (closer : isCloser c = true) (ends : finish d s = some ended) : grow d s c = none := by
  rw [isCloser_iff] at closer
  cases s with
  | start => rfl
  | word read => rcases closer with rfl | rfl | rfl | rfl | rfl <;> rfl
  | number read => rcases closer with rfl | rfl | rfl | rfl | rfl <;> rfl
  | symbol read => rcases closer with rfl | rfl | rfl | rfl | rfl <;> rfl
  | inside kind quote read => cases ends
  | escaped kind quote read => cases ends
  | closed kind quote read =>
      cases quote <;> rcases closer with rfl | rfl | rfl | rfl | rfl <;> rfl

/-- A space or an opening parenthesis that belongs to a token leaves that token unfinished: it
stands between quotes. -/
theorem finish_grow_open {d : Dialect} {s longer : Scan} {c : Char} (opens : c = ' ' ∨ c = '(')
    (grown : grow d s c = some longer) : finish d longer = none := by
  cases s with
  | start => cases grown
  | word read => rcases opens with rfl | rfl <;> cases grown
  | number read => rcases opens with rfl | rfl <;> cases grown
  | symbol read => rcases opens with rfl | rfl <;> cases grown
  | inside kind quote read =>
      cases quote <;> rcases opens with rfl | rfl <;> cases grown <;> rfl
  | escaped kind quote read => cases grown; rfl
  | closed kind quote read => cases quote <;> rcases opens with rfl | rfl <;> cases grown

theorem scan_cons_grow {d : Dialect} {s : Scan} {c : Char} (longer : Scan)
    (grown : grow d s c = some longer) (rest : List Char) :
    scan d s (c :: rest) = scan d longer rest := by
  simp only [scan, grown]

def growAll (d : Dialect) (s : Scan) (cs : List Char) : Option Scan := cs.foldlM (grow d) s

theorem growAll_append {d : Dialect} {s longer : Scan} {cs : List Char}
    (grown : growAll d s cs = some longer) (rest : List Char) :
    growAll d s (cs ++ rest) = growAll d longer rest := by
  rw [growAll, List.foldlM_append, ← growAll, grown]
  rfl

theorem scan_append_growAll {d : Dialect} {s longer : Scan} {cs : List Char}
    (grown : growAll d s cs = some longer) (rest : List Char) :
    scan d s (cs ++ rest) = scan d longer rest := by
  induction cs generalizing s with
  | nil => cases grown; rfl
  | cons c cs ih =>
      obtain ⟨next, first, others⟩ := Option.bind_eq_some_iff.mp grown
      rw [List.cons_append, scan_cons_grow next first, ih others]

theorem scan_cons_stop {d : Dialect} {s : Scan} {c : Char} {ended : List Token}
    (stops : grow d s c = none) (ends : finish d s = some ended) (rest : List Char) :
    scan d s (c :: rest) = ((begin? d c).bind fun begun => scan d begun rest).map (ended ++ ·) := by
  simp only [scan, stops, ends]
  cases begin? d c with
  | none => rfl
  | some begun => cases tokens : scan d begun rest <;> simp [tokens]

@[simp] theorem lex_nil (d : Dialect) : lex d [] = some [] := rfl

theorem lex_cons (d : Dialect) (c : Char) (rest : List Char) :
    lex d (c :: rest) = (begin? d c).bind fun begun => scan d begun rest := by
  have empty : ([] ++ · : List Token → List Token) = id := rfl
  rw [lex, scan_cons_stop rfl rfl, empty, Option.map_id, id]

/-- A token that cannot go on leaves the rest of the text to be read on its own. -/
theorem scan_stopped {d : Dialect} {s : Scan} {ended : List Token} (ends : finish d s = some ended)
    {t : List Char} (stops : ∀ c ∈ t.head?, grow d s c = none) :
    scan d s t = (lex d t).map (ended ++ ·) := by
  cases t with
  | nil => simpa [scan] using ends
  | cons c rest => rw [scan_cons_stop (stops c rfl) ends, lex_cons]

/-- Behind a space or an opening parenthesis a text reads as it does on its own. -/
theorem begin_open {d : Dialect} {c : Char} (opens : c = ' ' ∨ c = '(') :
    ∃ begun ended, begin? d c = some begun ∧ finish d begun = some ended ∧
      ∀ t, scan d begun t = (lex d t).map (ended ++ ·) := by
  rcases opens with rfl | rfl
  · exact ⟨.start, [], rfl, rfl, fun t => scan_stopped rfl fun _ _ => rfl⟩
  · have ends : finish d (.symbol ['(']) = some [.symbol "("] := by cases d <;> rfl
    refine ⟨.symbol ['('], [.symbol "("], by cases d <;> rfl, ends, fun t => ?_⟩
    exact scan_stopped ends fun c _ => by simp [grow, show inOperator '(' = false from rfl]

private theorem scan_begun_open {d : Dialect} {c : Char} {begun : Scan} {second : List Char}
    {tokens right : List Token} (begins : begin? d c = some begun) (opens : c = ' ' ∨ c = '(')
    (ends : finish d begun = some tokens) (lexed : lex d second = some right) :
    scan d begun second = some (tokens ++ right) := by
  obtain ⟨begun', tokens', begins', ends', opened⟩ := begin_open (d := d) opens
  obtain rfl := Option.some.inj (begins.symm.trans begins')
  obtain rfl := Option.some.inj (ends.symm.trans ends')
  rw [opened, lexed]
  rfl

private theorem scan_append {d : Dialect} {s : Scan} {first second : List Char}
    {left right : List Token}
    (scanned : scan d s first = some left) (lexed : lex d second = some right)
    (joins : startsClosed second = true ∨ endsOpen first = true) :
    scan d s (first ++ second) = some (left ++ right) := by
  induction first generalizing s left with
  | nil =>
      have closed : startsClosed second = true := by simpa [endsOpen] using joins
      rw [List.nil_append, scan_stopped scanned, lexed]
      · rfl
      · intro c member
        rw [startsClosed, member] at closed
        exact grow_closer closed scanned
  | cons c first ih =>
      cases grown : grow d s c with
      | some longer =>
          rw [List.cons_append, scan_cons_grow longer grown]
          rw [scan_cons_grow longer grown] at scanned
          refine ih scanned (joins.imp_right fun opens => ?_)
          cases first with
          | nil =>
              have unfinished := finish_grow_open (by simpa [endsOpen] using opens) grown
              rw [scan, unfinished] at scanned
              cases scanned
          | cons next first => simpa [endsOpen] using opens
      | none =>
          cases ends : finish d s with
          | none => simp [scan, grown, ends] at scanned
          | some ended =>
              rw [List.cons_append, scan_cons_stop grown ends]
              rw [scan_cons_stop grown ends] at scanned
              obtain ⟨tokens, bound, rfl⟩ := Option.map_eq_some_iff.mp scanned
              obtain ⟨begun, begins, scanned⟩ := Option.bind_eq_some_iff.mp bound
              suffices follows : scan d begun (first ++ second) = some (tokens ++ right) by
                simp [begins, follows]
              cases first with
              | cons next first =>
                  exact ih scanned (joins.imp_right fun opens => by simpa [endsOpen] using opens)
              | nil =>
                  rcases joins with closed | opens
                  · exact ih scanned (.inl closed)
                  · exact scan_begun_open begins (by simpa [endsOpen] using opens) scanned lexed

/-- Texts that do not touch read one after the other. -/
theorem lex_append {d : Dialect} {first second : List Char} {left right : List Token}
    (lexedFirst : lex d first = some left) (lexedSecond : lex d second = some right)
    (joins : startsClosed second = true ∨ endsOpen first = true) :
    lex d (first ++ second) = some (left ++ right) :=
  scan_append lexedFirst lexedSecond joins

end RecordMapper.Sql
