import Mathlib.Data.List.TakeDrop
import RecordMapper.Proofs.Number.Reading
import RecordMapper.Proofs.Sql.StatementTokens

/-!
What a text writes, as its dialect reads it: the columns that an insertion lists with their literals,
and the columns that an update assigns with the one that it finds its row by.
-/

set_option autoImplicit false

namespace RecordMapper

namespace Sql

/-! ## Reading -/

/-- The value of a literal. Of the numbers, only integers of 64 bits are read. -/
def readLiteral : List Token → Option Value
  | [.keyword "null"] => some .null
  | [.text content] => some (.text content)
  | [.number digits] => (Number.readInt64 digits.toList).toOption.map .int
  | [.symbol "-", .number digits] => (Number.readInt64 ('-' :: digits.toList)).toOption.map .int
  | _ => none

def readName : List Token → Option String
  | [.name name] => some name
  | _ => none

def readQualified (table : String) : List Token → Option (String × Value)
  | .name named :: .symbol "." :: .name column :: .symbol "=" :: literal =>
    if named = table then (readLiteral literal).map fun v => (column, v) else none
  | _ => none

/-- MySQL names the table of an assigned column, and PostgreSQL refuses its name. -/
def readAssignment (d : Dialect) (table : String) : List Token → Option (String × Value) :=
  match d with
  | .mysql => readQualified table
  | .postgresql => fun
    | .name column :: .symbol "=" :: literal => (readLiteral literal).map fun v => (column, v)
    | _ => none

def readListed {α : Type} (read : List Token → Option α) (tokens : List Token) :
    Option (List α) :=
  if tokens.isEmpty then some [] else (tokens.splitOn (.symbol ",")).mapM read

def readParenthesized : List Token → Option (List Token × List Token)
  | .symbol "(" :: rest =>
    match rest.span (· != .symbol ")") with
    | (inside, _ :: after) => some (inside, after)
    | (_, []) => none
  | _ => none

/-- The columns of an insertion. A row without columns has a form of its own in PostgreSQL. -/
def readInserted (d : Dialect) (tokens : List Token) : Option (List (String × Value)) :=
  if tokens = [.keyword "default", .keyword "values"] then
    match d with
    | .mysql => none
    | .postgresql => some []
  else do
    let (names, rest) ← readParenthesized tokens
    let (literals, after) ← readParenthesized (rest.drop 1)
    let columns ← readListed readName names
    let values ← readListed readLiteral literals
    if rest.head? = some (.keyword "values") ∧ after = [] ∧ columns.length = values.length ∧
        (columns = [] → d = .mysql) then
      some (columns.zip values)
    else none

def readUpdated (d : Dialect) (table : String) (tokens : List Token) :
    Option (List (String × Value)) := do
  let (assignments, filter) := tokens.span (· != .keyword "where")
  let values ← readListed (readAssignment d table) assignments
  let own ← readQualified table (filter.drop 1)
  return values ++ [own]

def readStatement (d : Dialect) (table : String) : List Token → Option (List (String × Value))
  | .keyword "insert" :: .keyword "into" :: .name named :: rest =>
    if named = table then readInserted d rest else none
  | .keyword "update" :: .name named :: .keyword "set" :: rest =>
    if named = table then readUpdated d table rest else none
  | _ => none

/-- The columns that the text of a statement writes in the row of a table that it inserts or finds by
a column. -/
def readWritten (d : Dialect) (table sql : String) : Option (List (String × Value)) := do
  let tokens ← lex d sql.toList
  if tokens.getLast? = some (.symbol ";") then readStatement d table tokens.dropLast else none

theorem readWritten_of_lex {d : Dialect} {table sql : String} {tokens : List Token}
    (lexed : lex d sql.toList = some (tokens ++ [.symbol ";"])) :
    readWritten d table sql = readStatement d table tokens := by
  simp [readWritten, lexed]

/-! ## Literals -/

inductive IsPlain : Value → Prop where
  | null : IsPlain .null
  | int (n : Int64) : IsPlain (.int n)
  | text (s : String) : IsPlain (.text s)

variable {d : Dialect} {v : Value}

theorem IsPlain.readLiteral (plain : IsPlain v) : Sql.readLiteral (v.tokens d) = some v := by
  cases plain with
  | null => rfl
  | text s => rfl
  | int n =>
      have read := Number.readInt64_toString n
      unfold Value.tokens numberTokens
      dsimp only
      split
      · rename_i digits chars
        rw [Sql.readLiteral, String.toList_ofList, ← chars, read]
        rfl
      · rw [Sql.readLiteral, String.toList_ofList, read]
        rfl

theorem readQualified_tokens (plain : IsPlain v) (table column : String) :
    readQualified table (.name table :: .symbol "." :: .name column :: .symbol "=" :: v.tokens d) =
      some (column, v) := by
  simp [readQualified, plain.readLiteral]

private theorem readAssignment_tokens (plain : IsPlain v) (table column : String) :
    readAssignment d table
      ((match d with
        | .mysql => [.name table, .symbol ".", .name column]
        | .postgresql => [.name column]) ++ .symbol "=" :: v.tokens d) = some (column, v) := by
  cases d with
  | mysql => exact readQualified_tokens plain table column
  | postgresql => simp [readAssignment, plain.readLiteral]

/-! ## Lists and parentheses -/

theorem readListed_listed {α β : Type} {read : List Token → Option β} (spelled : α → List Token)
    (value : α → β) (fails : read [] = none) {items : List α}
    (each : ∀ item ∈ items, read (spelled item) = some (value item))
    (free : ∀ item ∈ items, .symbol "," ∉ spelled item) :
    readListed read (listed (items.map spelled)) = some (items.map value) := by
  have reads (items : List α) (each : ∀ item ∈ items, read (spelled item) = some (value item)) :
      (items.map spelled).mapM read = some (items.map value) := by
    induction items with
    | nil => rfl
    | cons item items ih =>
        obtain ⟨first, others⟩ := List.forall_mem_cons.mp each
        simp [List.mapM_cons, first, ih others]
  cases items with
  | nil => rfl
  | cons item items =>
      have apart : ∀ tokens ∈ (item :: items).map spelled, .symbol "," ∉ tokens := by
        intro tokens member
        obtain ⟨other, inside, rfl⟩ := List.mem_map.mp member
        exact free other inside
      have pieces : (listed ((item :: items).map spelled)).splitOn (.symbol ",") =
          (item :: items).map spelled :=
        List.splitOn_intercalate _ apart (List.cons_ne_nil _ _)
      have filled : (listed ((item :: items).map spelled)).isEmpty = false := by
        by_contra empty
        rw [Bool.not_eq_false, List.isEmpty_iff] at empty
        rw [empty] at pieces
        have first : [] = spelled item := by simpa using congrArg List.head? pieces
        have read := each item List.mem_cons_self
        rw [← first, fails] at read
        cases read
      rw [readListed, filled, if_neg Bool.false_ne_true, pieces, reads _ each]

theorem span_append {α : Type} {stays : α → Bool} {first : List α} {next : α} (rest : List α)
    (inside : ∀ item ∈ first, stays item = true) (stops : stays next = false) :
    (first ++ next :: rest).span stays = (first, next :: rest) := by
  rw [List.span_eq_takeWhile_dropWhile, List.takeWhile_append_of_pos inside,
    List.dropWhile_append_of_pos inside, List.takeWhile_cons_of_neg (by simp [stops]),
    List.dropWhile_cons_of_neg (by simp [stops]), List.append_nil]

private theorem readParenthesized_append {tokens : List Token} (inside : .symbol ")" ∉ tokens)
    (rest : List Token) : readParenthesized (parenthesized tokens ++ rest) = some (tokens, rest) := by
  have stays : ∀ token ∈ tokens, (token != .symbol ")") = true := by
    intro token member
    exact bne_iff_ne.mpr fun same => inside (same ▸ member)
  have whole : parenthesized tokens ++ rest = .symbol "(" :: (tokens ++ .symbol ")" :: rest) := by
    simp [parenthesized]
  rw [whole, readParenthesized, span_append rest stays (by decide)]

/-! ## Statements -/

private theorem readInserted_listed {columns : List (String × Value)} (filled : columns ≠ [])
    (plain : ∀ cell ∈ columns, IsPlain cell.2) :
    readInserted d (parenthesized (nameTokens (columns.map Prod.fst)) ++ .keyword "values" ::
      parenthesized (listed (columns.map fun (_, value) => value.tokens d))) = some columns := by
  have names : readListed readName (nameTokens (columns.map Prod.fst)) =
      some (columns.map Prod.fst) := by
    refine (readListed_listed (fun name => [.name name]) id rfl (fun _ _ => rfl) (by simp)).trans ?_
    rw [List.map_id]
  have literals : readListed readLiteral
      (listed (columns.map fun (_, value) => value.tokens d)) = some (columns.map Prod.snd) :=
    readListed_listed _ _ rfl (fun cell member => (plain cell member).readLiteral)
      fun _ _ => Value.not_mem_tokens rfl
  have namesClosed : .symbol ")" ∉ nameTokens (columns.map Prod.fst) :=
    not_mem_listed (by decide) (by simp)
  have literalsClosed : .symbol ")" ∉ listed (columns.map fun (_, value) => value.tokens d) :=
    not_mem_listed (by decide) fun _ _ => Value.not_mem_tokens rfl
  have last := readParenthesized_append literalsClosed []
  rw [List.append_nil] at last
  have zipped : (columns.map Prod.fst).zip (columns.map Prod.snd) = columns :=
    (List.zip_of_prod rfl rfl).symm
  unfold readInserted
  rw [if_neg (by simp [parenthesized]), readParenthesized_append namesClosed]
  simp [last, names, literals, filled, zipped]

private theorem readUpdated_assigned {table key : String} {columns : List (String × Value)}
    (plain : ∀ cell ∈ columns, IsPlain cell.2) (own : IsPlain v) :
    readUpdated d table (assignmentTokens d table columns ++ .keyword "where" ::
      .name table :: .symbol "." :: .name key :: .symbol "=" :: v.tokens d) =
        some (columns ++ [(key, v)]) := by
  have values : readListed (readAssignment d table) (assignmentTokens d table columns) =
      some columns := by
    refine (readListed_listed _ id ?_ ?_ ?_).trans (by rw [List.map_id])
    · cases d <;> rfl
    · exact fun cell member => readAssignment_tokens (plain cell member) table cell.1
    · intro cell _
      have free : .symbol "," ∉ cell.2.tokens d := Value.not_mem_tokens rfl
      cases d <;> simp [free]
  have stays : ∀ token ∈ assignmentTokens d table columns, (token != .keyword "where") = true := by
    intro token member
    refine bne_iff_ne.mpr fun same => ?_
    exact not_mem_assignmentTokens rfl (by decide) d table columns (same ▸ member)
  unfold readUpdated
  rw [span_append _ stays (by decide)]
  simp [values, readQualified_tokens own]

end Sql

open Sql

theorem Insert.readWritten_render {d : Dialect} {s : Insert} (quiet : s.comment = none)
    (plain : ∀ cell ∈ s.columns, IsPlain cell.2) :
    readWritten d s.table ((Statement.insert s).render d) = some s.columns := by
  have lexed : lex d ((Statement.insert s).render d).toList = some (s.tokens d ++ [.symbol ";"]) :=
    Write.lex_render (w := .insert s) quiet nofun
  rw [readWritten_of_lex lexed]
  change readStatement d s.table (.keyword "insert" :: .keyword "into" :: .name s.table :: _) = _
  rw [readStatement, if_pos rfl]
  split
  · rename_i empty
    rw [List.isEmpty_iff.mp empty]
    cases d <;> decide
  · rename_i filled
    exact readInserted_listed (by simpa using filled) plain

/-- An update of one table, of the row that a column finds, is read as its assignments and that
column. -/
theorem Update.readWritten_render {d : Dialect} {s : Update} {key : String} {v : Value}
    (quiet : s.comment = none) (alone : s.others = [])
    (filter : s.filter = some (.eq (.column (.of s.table key)) (.value v)))
    (plain : ∀ cell ∈ s.assignments, IsPlain cell.2) (own : IsPlain v) :
    readWritten d s.table ((Statement.update s).render d) = some (s.assignments ++ [(key, v)]) := by
  have lexed : lex d ((Statement.update s).render d).toList = some (s.tokens d ++ [.symbol ";"]) := by
    refine Write.lex_render (w := .update s) quiet ?_
    intro expr member sql inside
    cases filter.symm.trans member
    cases inside
  have tokens : s.tokens d = .keyword "update" :: .name s.table :: .keyword "set" ::
      (assignmentTokens d s.table s.assignments ++ .keyword "where" ::
        .name s.table :: .symbol "." :: .name key :: .symbol "=" :: v.tokens d) := by
    cases d <;>
      simp [Update.tokens, alone, filter, nameTokens, listed, conditionTokens, Expr.eq, Expr.tokens,
        ColumnRef.tokens, ColumnRef.of, Comparison.tokens]
  rw [readWritten_of_lex lexed, tokens, readStatement, if_pos rfl]
  exact readUpdated_assigned plain own

example : readWritten .postgresql "note"
    "UPDATE note SET title = 'it''s', level = -1 WHERE note.id = 5;" =
      some [("title", .text "it's"), ("level", .int (-1)), ("id", .int 5)] := by
  decide

end RecordMapper
