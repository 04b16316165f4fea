import Mathlib.Data.List.Forall2
import RecordMapper.Proofs.Sql.Literal

/-!
The tokens of expressions. They follow from the expression alone; a fragment of SQL in it brings the
tokens that it reads as on its own.
-/

set_option autoImplicit false

namespace RecordMapper

open Sql

def ColumnRef.tokens (c : ColumnRef) : List Token :=
  match c.table with
  | some table => [.name table, .symbol ".", .name c.column]
  | none => [.name c.column]

def Comparison.tokens (d : Dialect) : Comparison → List Token
  | .eq => [.symbol "="]
  | .ne => [.symbol "<>"]
  | .ge => [.symbol ">="]
  | .gt => [.symbol ">"]
  | .le => [.symbol "<="]
  | .lt => [.symbol "<"]
  | .like => [.keyword "like"]
  | .notLike => [.keyword "not", .keyword "like"]
  | .regexp =>
    match d with
    | .mysql => [.keyword "regexp"]
    | .postgresql => [.symbol "~"]
  | .notRegexp =>
    match d with
    | .mysql => [.keyword "not", .keyword "regexp"]
    | .postgresql => [.symbol "!~"]

def Truth.token : Truth → Token
  | .null => .keyword "null"
  | .true => .keyword "true"
  | .false => .keyword "false"

namespace Sql

def Token.isOperand : Token → Bool
  | .keyword word => word == "null"
  | .symbol sign => ["-", "::", "."].contains sign
  | _ => true

def parenthesized (tokens : List Token) : List Token := .symbol "(" :: tokens ++ [.symbol ")"]

def listed (items : List (List Token)) : List Token := [.symbol ","].intercalate items

def constantTokens (value : Bool) : List Token :=
  [.number "1", .symbol "=", .number (if value then "1" else "0")]

end Sql

namespace Expr

mutual

def tokens (d : Dialect) : Expr → List Token
  | .and operands => [.keyword "and"].intercalate (tokensAll d operands)
  | .or operands => [.keyword "or"].intercalate (tokensAll d operands)
  | .xor operands =>
    match d with
    | .mysql => [.keyword "xor"].intercalate (tokensAll .mysql operands)
    | .postgresql => [.symbol "<>"].intercalate (tokensEnclosed .postgresql operands)
  | .not operand => .keyword "not" :: tokens d operand
  | .grouped operand => parenthesized (tokens d operand)
  | .compare left op right => tokens d left ++ op.tokens d ++ tokens d right
  | .inList operand list negated =>
    if list.isEmpty then constantTokens negated
    else
      tokens d operand ++ (if negated then [.keyword "not", .keyword "in"] else [.keyword "in"]) ++
        parenthesized (listed (list.map (Value.tokens d)))
  | .is operand test negated =>
    tokens d operand ++ (if negated then [.keyword "is", .keyword "not"] else [.keyword "is"]) ++
      [test.token]
  | .column c => c.tokens
  | .value v => v.tokens d
  | .raw sql => (lex d sql.toList).getD []

def tokensAll (d : Dialect) : List Expr → List (List Token)
  | [] => []
  | e :: rest => tokens d e :: tokensAll d rest

def tokensEnclosed (d : Dialect) : List Expr → List (List Token)
  | [] => []
  | e :: rest =>
    (if e.isGrouped then tokens d e else parenthesized (tokens d e)) :: tokensEnclosed d rest

end

mutual

def fragments : Expr → List String
  | .and operands | .or operands | .xor operands => fragmentsAll operands
  | .not operand | .grouped operand | .inList operand _ _ | .is operand _ _ => fragments operand
  | .compare left _ right => fragments left ++ fragments right
  | .column _ | .value _ => []
  | .raw sql => [sql]

def fragmentsAll : List Expr → List String
  | [] => []
  | e :: rest => fragments e ++ fragmentsAll rest

end

end Expr

namespace Sql

/-! ## Texts in a row -/

theorem startsClosed_append {first second : List Char} (closed : startsClosed first = true)
    (some : first ≠ []) : startsClosed (first ++ second) = true := by
  cases first with
  | nil => exact absurd rfl some
  | cons c first => exact closed

private theorem ne_nil_of_endsOpen {cs : List Char} (opened : endsOpen cs = true) : cs ≠ [] := by
  rintro rfl
  cases opened

theorem endsOpen_append {first second : List Char} (opened : endsOpen second = true) :
    endsOpen (first ++ second) = true := by
  rw [endsOpen, List.getLast?_append_of_ne_nil _ (ne_nil_of_endsOpen opened)]
  exact opened

section

variable {d : Dialect} {left middle right : String} {lefts middles rights : List Token}

theorem lex_closed (first : lex d left.toList = some lefts) (second : lex d right.toList = some rights)
    (closed : startsClosed right.toList = true) :
    lex d (left ++ right).toList = some (lefts ++ rights) := by
  rw [String.toList_append]
  exact lex_append first second (.inl closed)

theorem lex_opened (first : lex d left.toList = some lefts) (second : lex d right.toList = some rights)
    (opened : endsOpen left.toList = true) :
    lex d (left ++ right).toList = some (lefts ++ rights) := by
  rw [String.toList_append]
  exact lex_append first second (.inr opened)

theorem lex_between (first : lex d left.toList = some lefts)
    (between : lex d middle.toList = some middles) (second : lex d right.toList = some rights)
    (closed : startsClosed middle.toList = true) (opened : endsOpen middle.toList = true) :
    lex d (left ++ middle ++ right).toList = some (lefts ++ middles ++ rights) :=
  lex_opened (lex_closed first between closed) second
    (by rw [String.toList_append]; exact endsOpen_append opened)

theorem lex_intercalate {separator : String} {separators : List Token}
    (between : lex d separator.toList = some separators)
    (closed : startsClosed separator.toList = true) (opened : endsOpen separator.toList = true)
    {texts : List String} {tokens : List (List Token)}
    (each : List.Forall₂ (fun text tokens => lex d text.toList = some tokens) texts tokens) :
    lex d (separator.intercalate texts).toList = some (separators.intercalate tokens) := by
  induction each with
  | nil => rfl
  | @cons text tokens texts others first rest ih =>
      cases rest with
      | nil => simpa using first
      | @cons next nextTokens texts others second rest =>
          rw [String.intercalate_cons_cons, List.intercalate_cons_cons, String.append_assoc]
          rw [← String.append_assoc]
          exact lex_between first between ih closed opened

end

end Sql

/-! ## Members -/

theorem Sql.mem_intercalate {α : Type} {x : α} {separators : List α} {pieces : List (List α)}
    (member : x ∈ separators.intercalate pieces) :
    x ∈ separators ∨ ∃ piece ∈ pieces, x ∈ piece := by
  induction pieces with
  | nil => simp at member
  | cons piece pieces ih =>
      cases pieces with
      | nil => exact .inr ⟨piece, List.mem_cons_self, by simpa using member⟩
      | cons next pieces =>
          rw [List.intercalate_cons_cons, List.mem_append, List.mem_append] at member
          rcases member with (first | between) | rest
          · exact .inr ⟨piece, List.mem_cons_self, first⟩
          · exact .inl between
          · rcases ih rest with between | ⟨piece', inside, within⟩
            · exact .inl between
            · exact .inr ⟨piece', List.mem_cons_of_mem _ inside, within⟩

theorem Sql.not_mem_intercalate {token : Token} {separators : List Token} {items : List (List Token)}
    (between : token ∉ separators) (inside : ∀ tokens ∈ items, token ∉ tokens) :
    token ∉ separators.intercalate items := by
  intro member
  rcases mem_intercalate member with separates | ⟨tokens, held, within⟩
  · exact between separates
  · exact inside tokens held within

private theorem Sql.isOperand_of_mem_numberTokens {text : String} {token : Token}
    (member : token ∈ numberTokens text) : token.isOperand = true := by
  unfold numberTokens at member
  split at member
  · simp only [List.mem_cons, List.not_mem_nil, or_false] at member
    rcases member with rfl | rfl <;> rfl
  · rw [List.mem_singleton.mp member]
    rfl

theorem Value.isOperand_of_mem_tokens {d : Dialect} {v : Value} {token : Token}
    (member : token ∈ v.tokens d) : token.isOperand = true := by
  cases v with
  | int n => exact isOperand_of_mem_numberTokens member
  | float x =>
      unfold Value.tokens at member
      dsimp only at member
      split at member
      · exact isOperand_of_mem_numberTokens member
      · rw [List.mem_singleton.mp member]
        rfl
  | null | bool | text =>
      rw [List.mem_singleton.mp member]
      rfl
  | bytes b =>
      cases d with
      | mysql =>
          rw [List.mem_singleton.mp member]
          rfl
      | postgresql =>
          simp only [Value.tokens, List.mem_cons, List.not_mem_nil, or_false] at member
          rcases member with rfl | rfl | rfl <;> rfl

theorem ColumnRef.isOperand_of_mem_tokens {c : ColumnRef} {token : Token}
    (member : token ∈ c.tokens) : token.isOperand = true := by
  unfold ColumnRef.tokens at member
  split at member
  · simp only [List.mem_cons, List.not_mem_nil, or_false] at member
    rcases member with rfl | rfl | rfl <;> rfl
  · rw [List.mem_singleton.mp member]
    rfl

/-! ## Expressions -/

theorem ColumnRef.lex_render (d : Dialect) (c : ColumnRef) :
    lex d (c.render d).toList = some c.tokens := by
  cases c with
  | mk table column =>
      cases table with
      | none => exact lex_identifier d column
      | some table =>
          have point : lex d ".".toList = some [.symbol "."] := by cases d <;> decide
          have rest : lex d ('.' :: (identifier d column).toList) =
              some [.symbol ".", .name column] := by
            have begins : begin? d '.' = some (.symbol ['.']) := by cases d <;> rfl
            have ends : finish d (.symbol ['.']) = some [.symbol "."] := by cases d <;> rfl
            have stops : ∀ c ∈ (identifier d column).toList.head?,
                grow d (.symbol ['.']) c = none := fun c _ => by
              simp [grow, show inOperator '.' = false from rfl]
            rw [lex_cons, begins, Option.bind_some, scan_stopped ends stops, lex_identifier]
            rfl
          simp only [ColumnRef.render, ColumnRef.tokens, String.toList_append, List.append_assoc]
          rw [lex_identifier_append d table (by rintro c ⟨⟩; rfl)]
          simpa using rest

private theorem Comparison.lex_render (d : Dialect) (op : Comparison) :
    lex d (" " ++ op.render d ++ " ").toList = some (op.tokens d) := by
  cases d <;> cases op <;> decide

private theorem Comparison.startsClosed_render (d : Dialect) (op : Comparison) :
    startsClosed (" " ++ op.render d ++ " ").toList = true := by
  cases d <;> cases op <;> rfl

private theorem Comparison.endsOpen_render (d : Dialect) (op : Comparison) :
    endsOpen (" " ++ op.render d ++ " ").toList = true := by
  cases d <;> cases op <;> decide

private theorem Truth.lex_render (d : Dialect) (test : Truth) :
    lex d test.render.toList = some [test.token] := by
  cases d <;> cases test <;> decide

namespace Sql

theorem lex_parenthesized {d : Dialect} {text : String} {tokens : List Token}
    (inner : lex d text.toList = some tokens) :
    lex d ("(" ++ text ++ ")").toList = some (parenthesized tokens) := by
  have opening : lex d "(".toList = some [.symbol "("] := by cases d <;> decide
  have closing : lex d ")".toList = some [.symbol ")"] := by cases d <;> decide
  exact lex_closed (lex_opened opening inner rfl) closing rfl

theorem lex_listed {d : Dialect} {texts : List String} {tokens : List (List Token)}
    (each : List.Forall₂ (fun text tokens => lex d text.toList = some tokens) texts tokens) :
    lex d (", ".intercalate texts).toList = some (listed tokens) := by
  have comma : lex d ", ".toList = some [.symbol ","] := by cases d <;> decide
  exact lex_intercalate comma rfl (by decide) each

end Sql

namespace Expr

mutual

/-- An expression whose fragments read as tokens reads as its own tokens. -/
theorem lex_render (d : Dialect) : (e : Expr) → (∀ sql ∈ e.fragments, (lex d sql.toList).isSome) →
    lex d (e.render d).toList = some (e.tokens d)
  | .and operands, readable => by
    have keyword : lex d " AND ".toList = some [.keyword "and"] := by cases d <;> decide
    exact lex_intercalate keyword rfl (by decide) (lex_renderAll d operands readable)
  | .or operands, readable => by
    have keyword : lex d " OR ".toList = some [.keyword "or"] := by cases d <;> decide
    exact lex_intercalate keyword rfl (by decide) (lex_renderAll d operands readable)
  | .xor operands, readable => by
    cases d with
    | mysql =>
      have keyword : lex .mysql " XOR ".toList = some [.keyword "xor"] := by decide
      exact lex_intercalate keyword rfl (by decide) (lex_renderAll .mysql operands readable)
    | postgresql =>
      have symbol : lex .postgresql " <> ".toList = some [.symbol "<>"] := by decide
      exact lex_intercalate symbol rfl (by decide)
        (lex_renderEnclosed .postgresql operands readable)
  | .not operand, readable => by
    have keyword : lex d "NOT ".toList = some [.keyword "not"] := by cases d <;> decide
    exact lex_opened keyword (lex_render d operand readable) (by decide)
  | .grouped operand, readable => lex_parenthesized (lex_render d operand readable)
  | .compare left op right, readable => by
    have first := lex_render d left fun sql member => readable sql (by simp [fragments, member])
    have second := lex_render d right fun sql member => readable sql (by simp [fragments, member])
    have lexed := lex_between first (op.lex_render d) second (op.startsClosed_render d)
      (op.endsOpen_render d)
    simpa [render, tokens, String.append_assoc] using lexed
  | .inList operand list negated, readable => by
    cases list with
    | nil =>
      have constant : lex d (if negated then "1 = 1" else "1 = 0").toList =
          some (constantTokens negated) := by
        cases d <;> cases negated <;> decide
      exact constant
    | cons value list =>
      have items := lex_listed (List.forall₂_map_left_iff.mpr (List.forall₂_map_right_iff.mpr
        (List.forall₂_same.mpr fun v (_ : v ∈ value :: list) => lex_literal d v)))
      have closing : lex d ")".toList = some [.symbol ")"] := by cases d <;> decide
      have first := lex_render d operand readable
      cases negated with
      | false =>
        have opening : lex d " IN (".toList = some [.keyword "in", .symbol "("] := by
          cases d <;> decide
        have lexed := lex_closed (lex_between first opening items rfl (by decide)) closing rfl
        simpa [render, Expr.tokens, parenthesized] using lexed
      | true =>
        have opening : lex d " NOT IN (".toList =
            some [.keyword "not", .keyword "in", .symbol "("] := by
          cases d <;> decide
        have lexed := lex_closed (lex_between first opening items rfl (by decide)) closing rfl
        simpa [render, Expr.tokens, parenthesized] using lexed
  | .is operand test negated, readable => by
    have first := lex_render d operand readable
    cases negated with
    | false =>
      have middle : lex d " IS ".toList = some [.keyword "is"] := by cases d <;> decide
      have lexed := lex_between first middle (test.lex_render d) rfl (by decide)
      simpa [render, Expr.tokens] using lexed
    | true =>
      have middle : lex d " IS NOT ".toList = some [.keyword "is", .keyword "not"] := by
        cases d <;> decide
      have words : " IS " ++ "NOT " = " IS NOT " := rfl
      have lexed := lex_between first middle (test.lex_render d) rfl (by decide)
      rw [← words] at lexed
      simpa [render, Expr.tokens, String.append_assoc] using lexed
  | .column c, _ => c.lex_render d
  | .value v, _ => lex_literal d v
  | .raw sql, readable => by
    obtain ⟨tokens, lexed⟩ := Option.isSome_iff_exists.mp (readable sql (by simp [fragments]))
    simp [render, Expr.tokens, lexed]

theorem lex_renderAll (d : Dialect) : (es : List Expr) →
    (∀ sql ∈ fragmentsAll es, (lex d sql.toList).isSome) →
    List.Forall₂ (fun text tokens => lex d text.toList = some tokens) (renderAll d es)
      (tokensAll d es)
  | [], _ => .nil
  | e :: rest, readable =>
    .cons (lex_render d e fun sql member => readable sql (by simp [fragmentsAll, member]))
      (lex_renderAll d rest fun sql member => readable sql (by simp [fragmentsAll, member]))

theorem lex_renderEnclosed (d : Dialect) : (es : List Expr) →
    (∀ sql ∈ fragmentsAll es, (lex d sql.toList).isSome) →
    List.Forall₂ (fun text tokens => lex d text.toList = some tokens) (renderEnclosed d es)
      (tokensEnclosed d es)
  | [], _ => .nil
  | e :: rest, readable => by
    have first := lex_render d e fun sql member => readable sql (by simp [fragmentsAll, member])
    have others := lex_renderEnclosed d rest fun sql member =>
      readable sql (by simp [fragmentsAll, member])
    refine .cons ?_ others
    split
    · exact first
    · exact lex_parenthesized first

end

end Expr

end RecordMapper
