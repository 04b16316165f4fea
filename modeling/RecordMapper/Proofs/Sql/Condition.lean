import RecordMapper.Proofs.Sql.ExprTokens
import RecordMapper.Query.Filter

/-!
Conditions as a dialect reads them from SQL text. Comparisons and tests bind tightest and are atoms,
then `NOT`, then `AND`, then `XOR` in MySQL only, then `OR`. PostgreSQL compares two conditions in
parentheses by `<>`, and a comparison cannot be compared again.
-/

set_option autoImplicit false

namespace RecordMapper

/-! ## Three-valued logic -/

def Truth.negate : Truth → Truth
  | .null => .null
  | .true => .false
  | .false => .true

namespace Combinator

/-- The value of two conditions joined, where `null` is an unknown value. -/
def truth : Combinator → Truth → Truth → Truth
  | .and, .true, right => right
  | .and, .false, _ => .false
  | .and, .null, .false => .false
  | .and, .null, _ => .null
  | .or, .false, right => right
  | .or, .true, _ => .true
  | .or, .null, .true => .true
  | .or, .null, _ => .null
  | .xor, .null, _ => .null
  | .xor, .false, right => right
  | .xor, .true, right => right.negate

def unit : Combinator → Truth
  | .and => .true
  | .or | .xor => .false

theorem truth_assoc (how : Combinator) (a b c : Truth) :
    how.truth (how.truth a b) c = how.truth a (how.truth b c) := by
  cases how <;> cases a <;> cases b <;> cases c <;> rfl

@[simp] theorem unit_truth (how : Combinator) (a : Truth) : how.truth how.unit a = a := by
  cases how <;> cases a <;> rfl

@[simp] theorem truth_unit (how : Combinator) (a : Truth) : how.truth a how.unit = a := by
  cases how <;> cases a <;> rfl

def truthAll (how : Combinator) (values : List Truth) : Truth := values.foldr how.truth how.unit

@[simp] theorem truthAll_nil (how : Combinator) : how.truthAll [] = how.unit := rfl

@[simp] theorem truthAll_cons (how : Combinator) (a : Truth) (values : List Truth) :
    how.truthAll (a :: values) = how.truth a (how.truthAll values) := rfl

@[simp] theorem truthAll_append (how : Combinator) (first second : List Truth) :
    how.truthAll (first ++ second) = how.truth (how.truthAll first) (how.truthAll second) := by
  induction first with
  | nil => simp
  | cons a first ih => simp [ih, truth_assoc]

private theorem foldl_truth (how : Combinator) (first : Truth) (values : List Truth) :
    values.foldl how.truth first = how.truth first (how.truthAll values) := by
  induction values generalizing first with
  | nil => simp
  | cons a values ih => simp [ih, truth_assoc]

end Combinator

namespace Sql

/-- An assignment of truth values to atoms, each given by its tokens. -/
abbrev Valuation : Type := List Token → Truth

/-- The value of an atom. A comparison of constants has its value whatever the assignment is. -/
def Valuation.atom (v : Valuation) (tokens : List Token) : Truth :=
  if tokens = constantTokens true then .true
  else if tokens = constantTokens false then .false
  else v tokens

abbrev Meaning : Type := Valuation → Truth

inductive Condition where
  | atom (tokens : List Token)
  | not (operand : Condition)
  | combine (how : Combinator) (left right : Condition)
  deriving DecidableEq, Repr

namespace Condition

def truth (v : Valuation) : Condition → Truth
  | .atom tokens => v.atom tokens
  | .not operand => (operand.truth v).negate
  | .combine how left right => how.truth (left.truth v) (right.truth v)

def joinAll (how : Combinator) : List Condition → Option Condition
  | [] => none
  | first :: rest => some (rest.foldl (.combine how) first)

theorem truth_joinAll {how : Combinator} {conditions : List Condition} {whole : Condition}
    (joined : joinAll how conditions = some whole) (v : Valuation) :
    whole.truth v = how.truthAll (conditions.map (truth v)) := by
  have fold (first : Condition) (rest : List Condition) :
      (rest.foldl (.combine how) first).truth v =
        (rest.map (truth v)).foldl how.truth (first.truth v) := by
    induction rest generalizing first with
    | nil => rfl
    | cons next rest ih => exact ih (.combine how first next)
  cases conditions with
  | nil => cases joined
  | cons first rest =>
      cases joined
      rw [fold, Combinator.foldl_truth]
      rfl

end Condition

/-! ## Reading -/

/-- A token, or what stands between a pair of parentheses with its reading as a condition. -/
inductive Item where
  | single (token : Token)
  | group (tokens : List Token) (reading : Option Condition)
  deriving DecidableEq, Repr

namespace Item

def tokens : Item → List Token
  | .single token => [token]
  | .group tokens _ => parenthesized tokens

def isKeyword (word : String) : Item → Bool
  | .single token => token == .keyword word
  | .group .. => false

def isComparison : Item → Bool
  | .single (.symbol sign) => ["=", "<>", "!=", "<", ">", "<=", ">="].contains sign
  | _ => false

def isConnective (item : Item) : Bool :=
  item.isKeyword "and" || item.isKeyword "or" || item.isKeyword "xor" || item.isKeyword "between"

end Item

/-- A comparison in PostgreSQL, which may be one of two conditions. -/
def readComparison : List Item → Option Condition
  | [.group left leftReading, .single sign, .group right rightReading] =>
    if sign = .symbol "<>" then do return .combine .xor (← leftReading) (← rightReading)
    else some (.atom (parenthesized left ++ sign :: parenthesized right))
  | items =>
    if 1 < items.countP Item.isComparison then none
    else some (.atom (items.flatMap Item.tokens))

def readOperand (d : Dialect) : List Item → Option Condition
  | [] => none
  | [.group _ reading] => reading
  | items =>
    match d with
    | .mysql => some (.atom (items.flatMap Item.tokens))
    | .postgresql => readComparison items

def readNegation (d : Dialect) : List Item → Option Condition
  | [] => none
  | item :: rest =>
    if item.isKeyword "not" then (readNegation d rest).map .not
    else readOperand d (item :: rest)

/-- Puts the two bounds of a range together again, which an `AND` keeps apart. -/
def rejoin : List (List Item) → List (List Item)
  | piece :: next :: rest =>
    if piece.any (Item.isKeyword "between") then
      (piece ++ .single (.keyword "and") :: next) :: rejoin rest
    else piece :: rejoin (next :: rest)
  | pieces => pieces

def readJoined (how : Combinator) (read : List Item → Option Condition)
    (pieces : List (List Item)) : Option Condition :=
  (pieces.mapM read).bind (Condition.joinAll how)

def readConjunction (d : Dialect) (items : List Item) : Option Condition :=
  readJoined .and (readNegation d) (rejoin (items.splitOnP (Item.isKeyword "and")))

def readExclusive (d : Dialect) (items : List Item) : Option Condition :=
  match d with
  | .mysql => readJoined .xor (readConjunction .mysql) (items.splitOnP (Item.isKeyword "xor"))
  | .postgresql => readConjunction .postgresql items

def readDisjunction (d : Dialect) (items : List Item) : Option Condition :=
  readJoined .or (readExclusive d) (items.splitOnP (Item.isKeyword "or"))

/-- Gathers what stands between parentheses: `items` of the innermost group that is open, and those
of the groups around it. -/
def gather (d : Dialect) : List Item → List (List Item) → List Token → Option (List Item)
  | items, outer, [] => if outer.isEmpty then some items else none
  | items, outer, token :: rest =>
    if token = .symbol "(" then gather d [] (items :: outer) rest
    else if token = .symbol ")" then
      match outer with
      | around :: outer =>
        let group := .group (items.flatMap Item.tokens) (readDisjunction d items)
        gather d (around ++ [group]) outer rest
      | [] => none
    else gather d (items ++ [.single token]) outer rest

def readCondition (d : Dialect) (text : String) : Option Condition := do
  let tokens ← lex d text.toList
  let items ← gather d [] [] tokens
  readDisjunction d items

/-! ## Gathering -/

theorem gather_open (d : Dialect) (items : List Item) (outer : List (List Item))
    (rest : List Token) :
    gather d items outer (.symbol "(" :: rest) = gather d [] (items :: outer) rest := by
  cases outer <;> rfl

theorem gather_close (d : Dialect) (items around : List Item) (outer : List (List Item))
    (rest : List Token) :
    gather d items (around :: outer) (.symbol ")" :: rest) =
      gather d (around ++ [.group (items.flatMap Item.tokens) (readDisjunction d items)]) outer
        rest := by
  rfl

private theorem gather_close_nil (d : Dialect) (items : List Item) (rest : List Token) :
    gather d items [] (.symbol ")" :: rest) = none := by
  rfl

theorem gather_single {d : Dialect} {token : Token} (notOpen : token ≠ .symbol "(")
    (notClose : token ≠ .symbol ")") (items : List Item) (outer : List (List Item))
    (rest : List Token) :
    gather d items outer (token :: rest) = gather d (items ++ [.single token]) outer rest := by
  cases outer <;> simp [gather, notOpen, notClose]

def Gathers (d : Dialect) (tokens : List Token) (items : List Item) : Prop :=
  ∀ before outer rest, gather d before outer (tokens ++ rest) = gather d (before ++ items) outer rest

namespace Gathers

variable {d : Dialect}

theorem gather {tokens : List Token} {items : List Item} (gathers : Gathers d tokens items) :
    Sql.gather d [] [] tokens = some items := by
  have whole := gathers [] [] []
  rw [List.append_nil, List.nil_append] at whole
  exact whole

theorem nil : Gathers d [] [] := by
  intro before outer rest
  rw [List.nil_append, List.append_nil]

theorem append {first second : List Token} {left right : List Item}
    (gathersFirst : Gathers d first left) (gathersSecond : Gathers d second right) :
    Gathers d (first ++ second) (left ++ right) := by
  intro before outer rest
  rw [List.append_assoc, gathersFirst, gathersSecond, List.append_assoc]

theorem token {token : Token} (notOpen : token ≠ .symbol "(") (notClose : token ≠ .symbol ")") :
    Gathers d [token] [.single token] := by
  intro before outer rest
  rw [List.singleton_append, gather_single notOpen notClose]

theorem tokens {tokens : List Token}
    (plain : ∀ token ∈ tokens, token ≠ .symbol "(" ∧ token ≠ .symbol ")") :
    Gathers d tokens (tokens.map .single) := by
  induction tokens with
  | nil => exact nil
  | cons first rest ih =>
      obtain ⟨⟨notOpen, notClose⟩, others⟩ := List.forall_mem_cons.mp plain
      exact append (token notOpen notClose) (ih others)

theorem intercalate {separator : Token} (notOpen : separator ≠ .symbol "(")
    (notClose : separator ≠ .symbol ")") {tokens : List (List Token)} {pieces : List (List Item)}
    (each : List.Forall₂ (Gathers d) tokens pieces) :
    Gathers d ([separator].intercalate tokens) ([.single separator].intercalate pieces) := by
  induction each with
  | nil => exact nil
  | @cons first piece tokens pieces gathers rest ih =>
      cases rest with
      | nil => simpa using gathers
      | cons =>
          rw [List.intercalate_cons_cons, List.intercalate_cons_cons]
          exact append (append gathers (token notOpen notClose)) ih

theorem parenthesized {tokens : List Token} {items : List Item} (gathers : Gathers d tokens items) :
    Gathers d (parenthesized tokens)
      [.group (items.flatMap Item.tokens) (readDisjunction d items)] := by
  intro before outer rest
  rw [Sql.parenthesized, List.cons_append, List.cons_append, gather_open, List.append_assoc,
    gathers, List.nil_append, List.singleton_append, gather_close]

def graft (before : List Item) (outer : List (List Item)) :
    List Item → List (List Item) → List Item × List (List Item)
  | items, [] => (before ++ items, outer)
  | items, around :: others =>
    let (around, others) := graft before outer around others
    (items, around :: others)

theorem of_gather {tokens : List Token} {items : List Item}
    (gathered : Sql.gather d [] [] tokens = some items) : Gathers d tokens items := by
  intro before outer rest
  have grafted (current : List Item) (open' : List (List Item))
      (gathered : Sql.gather d current open' tokens = some items) :
      Sql.gather d (graft before outer current open').1 (graft before outer current open').2
          (tokens ++ rest) =
        Sql.gather d (before ++ items) outer rest := by
    clear * - gathered
    induction tokens generalizing current open' with
    | nil =>
        cases open' with
        | nil =>
            cases gathered
            rfl
        | cons around open' => cases gathered
    | cons token tokens ih =>
        rw [List.cons_append]
        by_cases opens : token = .symbol "("
        · subst opens
          rw [gather_open] at gathered ⊢
          exact ih [] (current :: open') gathered
        by_cases closes : token = .symbol ")"
        · subst closes
          cases open' with
          | nil =>
              rw [gather_close_nil] at gathered
              cases gathered
          | cons around open' =>
              rw [gather_close] at gathered
              have step := ih _ open' gathered
              cases open' <;> simpa [graft, gather_close] using step
        · rw [gather_single opens closes] at gathered ⊢
          have step := ih _ open' gathered
          cases open' <;> simpa [graft] using step
  simpa [graft] using grafted [] [] gathered

end Gathers

end Sql

end RecordMapper
