import RecordMapper.Proofs.Sql.ExprTokens

/-!
The tokens of statements that write. They follow from the structure of the statement: no name and no
value can add a token, end one early or run into its neighbour.
-/

set_option autoImplicit false

namespace RecordMapper

open Sql

namespace Sql

def nameTokens (names : List String) : List Token := listed (names.map fun name => [.name name])

def conditionTokens (d : Dialect) : Option Expr → List Token
  | some filter => .keyword "where" :: filter.tokens d
  | none => []

/-- The assigned columns; MySQL qualifies them by the table. -/
def assignmentTokens (d : Dialect) (table : String) (assignments : List (String × Value)) :
    List Token :=
  listed <| assignments.map fun (column, value) =>
    (match d with
      | .mysql => [.name table, .symbol ".", .name column]
      | .postgresql => [.name column]) ++ .symbol "=" :: value.tokens d

end Sql

def Insert.tokens (d : Dialect) (s : Insert) : List Token :=
  [.keyword "insert", .keyword "into", .name s.table] ++
    if s.columns.isEmpty then
      match d with
      | .mysql => parenthesized [] ++ .keyword "values" :: parenthesized []
      | .postgresql => [.keyword "default", .keyword "values"]
    else
      parenthesized (nameTokens (s.columns.map Prod.fst)) ++ .keyword "values" ::
        parenthesized (listed (s.columns.map fun (_, value) => value.tokens d))

def Update.tokens (d : Dialect) (s : Update) : List Token :=
  .keyword "update" ::
    (match d with
      | .mysql =>
        nameTokens (s.table :: s.others) ++ .keyword "set" ::
          assignmentTokens .mysql s.table s.assignments
      | .postgresql =>
        .name s.table :: .keyword "set" :: assignmentTokens .postgresql s.table s.assignments ++
          (if s.others.isEmpty then [] else .keyword "from" :: nameTokens s.others)) ++
    conditionTokens d s.filter

def Delete.tokens (d : Dialect) (s : Delete) : List Token :=
  .keyword "delete" ::
    (if s.others.isEmpty then [.keyword "from", .name s.table]
      else match d with
        | .mysql =>
          [.name s.table, .symbol ".", .symbol "*", .keyword "from"] ++
            nameTokens (s.table :: s.others)
        | .postgresql =>
          [.keyword "from", .name s.table, .keyword "using"] ++ nameTokens s.others) ++
    conditionTokens d s.filter

namespace Sql

theorem lex_identifiers (d : Dialect) (names : List String) :
    lex d (identifiers d names).toList = some (nameTokens names) := by
  have each : List.Forall₂ (fun text tokens => lex d text.toList = some tokens)
      (names.map (identifier d)) (names.map fun name => [.name name]) := by
    induction names with
    | nil => exact .nil
    | cons name names ih => exact .cons (lex_identifier d name) ih
  exact lex_listed each

theorem lex_condition {d : Dialect} {filter : Option Expr}
    (readable : ∀ expr ∈ filter, ∀ sql ∈ expr.fragments, (lex d sql.toList).isSome) :
    lex d (condition d filter).toList = some (conditionTokens d filter) := by
  cases filter with
  | none => rfl
  | some filter =>
      have keyword : lex d " WHERE ".toList = some [.keyword "where"] := by cases d <;> decide
      have text := filter.lex_render d (readable filter rfl)
      exact lex_opened keyword text (by decide)

theorem startsClosed_condition (d : Dialect) (filter : Option Expr) :
    startsClosed (condition d filter).toList = true := by
  cases filter with
  | none => rfl
  | some filter =>
      rw [condition, String.toList_append]
      exact startsClosed_append rfl (by decide)

/-- Assignments as a dialect writes them, however it names the columns. -/
private theorem lex_assignments (d : Dialect) {named : String → String}
    {tokens : String → List Token}
    (names : ∀ column, lex d (named column).toList = some (tokens column))
    (assignments : List (String × Value)) :
    lex d (", ".intercalate (assignments.map fun (column, value) =>
        named column ++ " = " ++ Value.literal d value)).toList =
      some (listed (assignments.map fun (column, value) =>
        tokens column ++ .symbol "=" :: value.tokens d)) := by
  have equals : lex d " = ".toList = some [.symbol "="] := by cases d <;> decide
  apply lex_listed
  induction assignments with
  | nil => exact .nil
  | cons assignment assignments ih =>
      obtain ⟨column, value⟩ := assignment
      have text := lex_between (names column) equals (lex_literal d value) rfl (by decide)
      exact .cons (by simpa using text) ih

end Sql

private theorem Insert.lex_render (d : Dialect) (s : Insert) (quiet : s.comment = none) :
    lex d (s.render d).toList = some (s.tokens d) := by
  have opening : lex d "INSERT INTO ".toList = some [.keyword "insert", .keyword "into"] := by
    cases d <;> decide
  have head := lex_opened opening (lex_identifier d s.table) (by decide)
  have words : "INSERT " ++ commentText s.comment ++ "INTO " = "INSERT INTO " := by
    rw [quiet]
    rfl
  unfold Insert.render Insert.tokens
  rw [words]
  split
  · cases d with
    | mysql =>
        have defaults : lex .mysql " () VALUES ()".toList =
            some (parenthesized [] ++ .keyword "values" :: parenthesized []) := by
          decide
        exact lex_closed head defaults rfl
    | postgresql =>
        have defaults : lex .postgresql " DEFAULT VALUES".toList =
            some [.keyword "default", .keyword "values"] := by
          decide
        exact lex_closed head defaults rfl
  · have opens : lex d " (".toList = some [.symbol "("] := by cases d <;> decide
    have between : lex d ") VALUES (".toList =
        some [.symbol ")", .keyword "values", .symbol "("] := by
      cases d <;> decide
    have closes : lex d ")".toList = some [.symbol ")"] := by cases d <;> decide
    have values : lex d
        (", ".intercalate (s.columns.map fun (_, value) => Value.literal d value)).toList =
        some (listed (s.columns.map fun (_, value) => value.tokens d)) := by
      apply lex_listed
      induction s.columns with
      | nil => exact .nil
      | cons column columns ih => exact .cons (lex_literal d column.2) ih
    have columns := lex_between head opens (lex_identifiers d (s.columns.map Prod.fst)) rfl
      (by decide)
    have whole := lex_closed (lex_between columns between values rfl (by decide)) closes rfl
    simpa [parenthesized, String.append_assoc] using whole

private theorem Update.lex_render (d : Dialect) (s : Update) (quiet : s.comment = none)
    (readable : ∀ expr ∈ s.filter, ∀ sql ∈ expr.fragments, (lex d sql.toList).isSome) :
    lex d (s.render d).toList = some (s.tokens d) := by
  have opening : lex d "UPDATE ".toList = some [.keyword "update"] := by cases d <;> decide
  have set : lex d " SET ".toList = some [.keyword "set"] := by cases d <;> decide
  have words : "UPDATE " ++ commentText s.comment = "UPDATE " := by
    rw [quiet]
    rfl
  have filter := lex_condition readable
  have apart := startsClosed_condition d s.filter
  unfold Update.render Update.tokens
  rw [words]
  cases d with
  | mysql =>
      have tables := lex_identifiers .mysql (s.table :: s.others)
      have qualified (column : String) :
          lex .mysql ((ColumnRef.of s.table column).render .mysql).toList =
            some [.name s.table, .symbol ".", .name column] :=
        (ColumnRef.of s.table column).lex_render .mysql
      have assignments := lex_assignments .mysql qualified s.assignments
      have middle := lex_between tables set assignments rfl (by decide)
      simpa [assignmentTokens] using
        lex_closed (lex_opened opening middle (by decide)) filter apart
  | postgresql =>
      have table := lex_identifier .postgresql s.table
      have assignments := lex_assignments .postgresql (lex_identifier .postgresql) s.assignments
      have middle := lex_between table set assignments rfl (by decide)
      dsimp only
      split
      · simpa [assignmentTokens] using
          lex_closed (lex_opened opening middle (by decide)) filter apart
      · have from' : lex .postgresql " FROM ".toList = some [.keyword "from"] := by decide
        have others := lex_between middle from' (lex_identifiers .postgresql s.others) rfl
          (by decide)
        have whole := lex_closed (lex_opened opening others (by decide)) filter apart
        simpa [assignmentTokens, String.append_assoc] using whole

private theorem Delete.lex_render (d : Dialect) (s : Delete) (quiet : s.comment = none)
    (readable : ∀ expr ∈ s.filter, ∀ sql ∈ expr.fragments, (lex d sql.toList).isSome) :
    lex d (s.render d).toList = some (s.tokens d) := by
  have opening : lex d "DELETE ".toList = some [.keyword "delete"] := by cases d <;> decide
  have words : "DELETE " ++ commentText s.comment = "DELETE " := by
    rw [quiet]
    rfl
  have filter := lex_condition readable
  have apart := startsClosed_condition d s.filter
  have source : lex d "FROM ".toList = some [.keyword "from"] := by cases d <;> decide
  have table := lex_opened source (lex_identifier d s.table) (by decide)
  unfold Delete.render Delete.tokens
  rw [words]
  split
  · simpa using lex_closed (lex_opened opening table (by decide)) filter apart
  · cases d with
    | mysql =>
        have rows : lex .mysql ".* FROM ".toList =
            some [.symbol ".", .symbol "*", .keyword "from"] := by
          decide
        have tables := lex_identifiers .mysql (s.table :: s.others)
        have target : lex .mysql (identifier .mysql s.table ++ ".* FROM ").toList =
            some [.name s.table, .symbol ".", .symbol "*", .keyword "from"] := by
          rw [String.toList_append, lex_identifier_append .mysql s.table (by rintro c ⟨⟩; rfl),
            rows]
          rfl
        have whole := lex_opened target tables
          (by rw [String.toList_append]; exact endsOpen_append (by decide))
        simpa using lex_closed (lex_opened opening whole (by decide)) filter apart
    | postgresql =>
        have using' : lex .postgresql " USING ".toList = some [.keyword "using"] := by decide
        have whole := lex_between table using' (lex_identifiers .postgresql s.others) rfl
          (by decide)
        simpa using lex_closed (lex_opened opening whole (by decide)) filter apart

/-! ## The closing semicolon -/

namespace Sql

theorem semicolon_not_mem_parenthesized {tokens : List Token} (inside : .symbol ";" ∉ tokens) :
    .symbol ";" ∉ parenthesized tokens := by
  simp [parenthesized, inside]

theorem not_mem_listed {α : Type} {token : Token} (other : token ≠ .symbol ",")
    {itemTokens : α → List Token} {items : List α}
    (inside : ∀ item ∈ items, token ∉ itemTokens item) :
    token ∉ listed (items.map itemTokens) := by
  apply not_mem_intercalate (by simpa using other)
  intro tokens member
  obtain ⟨item, here, rfl⟩ := List.mem_map.mp member
  exact inside item here

theorem semicolon_not_mem_listed {α : Type} {itemTokens : α → List Token}
    (inside : ∀ item, .symbol ";" ∉ itemTokens item) (items : List α) :
    .symbol ";" ∉ listed (items.map itemTokens) :=
  not_mem_listed (by decide) fun item _ => inside item

private theorem semicolon_not_mem_nameTokens (names : List String) :
    .symbol ";" ∉ nameTokens names :=
  semicolon_not_mem_listed (fun _ => by simp) names

end Sql

theorem Value.not_mem_tokens {d : Dialect} {v : Value} {token : Token}
    (other : token.isOperand = false) : token ∉ v.tokens d := by
  intro member
  rw [Value.isOperand_of_mem_tokens member] at other
  cases other

theorem Value.semicolon_not_mem_tokens (d : Dialect) (v : Value) : .symbol ";" ∉ v.tokens d :=
  Value.not_mem_tokens rfl

private theorem ColumnRef.semicolon_not_mem_tokens (c : ColumnRef) : .symbol ";" ∉ c.tokens := by
  intro member
  exact absurd (ColumnRef.isOperand_of_mem_tokens member) (by decide)

private theorem Comparison.semicolon_not_mem_tokens (d : Dialect) (op : Comparison) :
    .symbol ";" ∉ op.tokens d := by
  cases d <;> cases op <;> decide

namespace Expr

mutual

theorem semicolon_not_mem_tokens (d : Dialect) : (e : Expr) → e.fragments = [] →
    .symbol ";" ∉ e.tokens d
  | .and operands, plain =>
    not_mem_intercalate (by simp) (semicolon_not_mem_tokensAll d operands plain)
  | .or operands, plain =>
    not_mem_intercalate (by simp) (semicolon_not_mem_tokensAll d operands plain)
  | .xor operands, plain => by
    cases d with
    | mysql =>
      exact not_mem_intercalate (by simp) (semicolon_not_mem_tokensAll .mysql operands plain)
    | postgresql =>
      exact not_mem_intercalate (by simp)
        (semicolon_not_mem_tokensEnclosed .postgresql operands plain)
  | .not operand, plain => by
    have inside := semicolon_not_mem_tokens d operand plain
    simp [tokens, inside]
  | .grouped operand, plain =>
    semicolon_not_mem_parenthesized (semicolon_not_mem_tokens d operand plain)
  | .compare left op right, plain => by
    obtain ⟨first, second⟩ := List.append_eq_nil_iff.mp plain
    have lefts := semicolon_not_mem_tokens d left first
    have rights := semicolon_not_mem_tokens d right second
    simp [tokens, lefts, rights, op.semicolon_not_mem_tokens d]
  | .inList operand list negated, plain => by
    have inside := semicolon_not_mem_tokens d operand plain
    have items := semicolon_not_mem_listed (Value.semicolon_not_mem_tokens d) list
    unfold tokens
    split
    · simp [constantTokens]
    · cases negated <;> simp [inside, semicolon_not_mem_parenthesized items]
  | .is operand test negated, plain => by
    have inside := semicolon_not_mem_tokens d operand plain
    cases negated <;> cases test <;> simp [tokens, Truth.token, inside]
  | .column c, _ => c.semicolon_not_mem_tokens
  | .value v, _ => v.semicolon_not_mem_tokens d
  | .raw sql, plain => by cases plain

theorem semicolon_not_mem_tokensAll (d : Dialect) : (es : List Expr) → fragmentsAll es = [] →
    ∀ tokens ∈ tokensAll d es, .symbol ";" ∉ tokens
  | [], _ => by simp [tokensAll]
  | e :: rest, plain => by
    obtain ⟨first, others⟩ := List.append_eq_nil_iff.mp plain
    exact List.forall_mem_cons.mpr
      ⟨semicolon_not_mem_tokens d e first, semicolon_not_mem_tokensAll d rest others⟩

theorem semicolon_not_mem_tokensEnclosed (d : Dialect) : (es : List Expr) → fragmentsAll es = [] →
    ∀ tokens ∈ tokensEnclosed d es, .symbol ";" ∉ tokens
  | [], _ => by simp [tokensEnclosed]
  | e :: rest, plain => by
    obtain ⟨first, others⟩ := List.append_eq_nil_iff.mp plain
    have inside := semicolon_not_mem_tokens d e first
    refine List.forall_mem_cons.mpr ⟨?_, semicolon_not_mem_tokensEnclosed d rest others⟩
    split
    · exact inside
    · exact semicolon_not_mem_parenthesized inside

end

end Expr

/-! ## Statements that write -/

inductive Write where
  | insert (statement : Insert)
  | update (statement : Update)
  | delete (statement : Delete)

namespace Write

def statement : Write → Statement
  | .insert s => .insert s
  | .update s => .update s
  | .delete s => .delete s

def comment : Write → Option String
  | .insert s => s.comment
  | .update s => s.comment
  | .delete s => s.comment

def filter : Write → Option Expr
  | .insert _ => none
  | .update s => s.filter
  | .delete s => s.filter

def tokens (d : Dialect) : Write → List Token
  | .insert s => s.tokens d
  | .update s => s.tokens d
  | .delete s => s.tokens d

end Write

namespace Sql

private theorem semicolon_not_mem_conditionTokens {d : Dialect} {filter : Option Expr}
    (plain : ∀ expr ∈ filter, expr.fragments = []) : .symbol ";" ∉ conditionTokens d filter := by
  cases filter with
  | none => simp [conditionTokens]
  | some filter => simp [conditionTokens, filter.semicolon_not_mem_tokens d (plain filter rfl)]

theorem not_mem_assignmentTokens {token : Token} (other : token.isOperand = false)
    (signs : token ≠ .symbol "=" ∧ token ≠ .symbol ",") (d : Dialect) (table : String)
    (assignments : List (String × Value)) : token ∉ assignmentTokens d table assignments := by
  refine not_mem_listed signs.2 fun assignment _ => ?_
  have name (name : String) : token ≠ .name name := by
    rintro rfl
    cases other
  have point : token ≠ .symbol "." := by
    rintro rfl
    cases other
  have value : token ∉ assignment.2.tokens d := Value.not_mem_tokens other
  cases d <;> simp [name, point, signs.1, value]

private theorem semicolon_not_mem_assignmentTokens (d : Dialect) (table : String)
    (assignments : List (String × Value)) :
    .symbol ";" ∉ assignmentTokens d table assignments :=
  not_mem_assignmentTokens rfl (by decide) d table assignments

end Sql

private theorem Write.semicolon_not_mem_tokens {d : Dialect} {w : Write}
    (plain : ∀ expr ∈ w.filter, expr.fragments = []) : .symbol ";" ∉ w.tokens d := by
  cases w with
  | insert s =>
      have columns := semicolon_not_mem_nameTokens (s.columns.map Prod.fst)
      have values := semicolon_not_mem_listed
        (fun column : String × Value => column.2.semicolon_not_mem_tokens d) s.columns
      unfold Write.tokens Insert.tokens
      dsimp only
      split
      · cases d <;> simp [parenthesized]
      · simp [semicolon_not_mem_parenthesized columns, semicolon_not_mem_parenthesized values]
  | update s =>
      have filter : .symbol ";" ∉ conditionTokens d s.filter :=
        semicolon_not_mem_conditionTokens plain
      have assignments := semicolon_not_mem_assignmentTokens d s.table s.assignments
      have tables := semicolon_not_mem_nameTokens (s.table :: s.others)
      have others := semicolon_not_mem_nameTokens s.others
      unfold Write.tokens Update.tokens
      cases d with
      | mysql => simp [filter, assignments, tables]
      | postgresql =>
          dsimp only
          split <;> simp [filter, assignments, others]
  | delete s =>
      have filter : .symbol ";" ∉ conditionTokens d s.filter :=
        semicolon_not_mem_conditionTokens plain
      have tables := semicolon_not_mem_nameTokens (s.table :: s.others)
      have others := semicolon_not_mem_nameTokens s.others
      unfold Write.tokens Delete.tokens
      dsimp only
      split
      · simp [filter]
      · cases d <;> simp [filter, tables, others]

theorem Write.lex_render {d : Dialect} {w : Write} (quiet : w.comment = none)
    (readable : ∀ expr ∈ w.filter, ∀ sql ∈ expr.fragments, (lex d sql.toList).isSome) :
    lex d (w.statement.render d).toList = some (w.tokens d ++ [.symbol ";"]) := by
  have closing : lex d ";".toList = some [.symbol ";"] := by cases d <;> decide
  cases w with
  | insert s => exact lex_closed (s.lex_render d quiet) closing rfl
  | update s => exact lex_closed (s.lex_render d quiet readable) closing rfl
  | delete s => exact lex_closed (s.lex_render d quiet readable) closing rfl

/-- The text of a statement that writes, without a comment and without fragments of SQL, is read as
the tokens of its structure and one semicolon behind them, whatever its names and values are. -/
theorem Write.lex_statement (d : Dialect) (w : Write) (quiet : w.comment = none)
    (plain : ∀ expr ∈ w.filter, expr.fragments = []) :
    lex d (w.statement.render d).toList = some (w.tokens d ++ [.symbol ";"]) ∧
      .symbol ";" ∉ w.tokens d ∧
      (∀ name, identifier d name = name → name ∉ reservedWords) ∧
      ∀ content, readBytea (byteaText content) = some content := by
  refine ⟨Write.lex_render quiet ?_, Write.semicolon_not_mem_tokens plain, ?_, ?_⟩
  · intro expr member sql inside
    rw [plain expr member] at inside
    cases inside
  · intro name bare
    exact not_mem_reservedWords_of_identifier bare
  · exact readBytea_byteaText

theorem Write.lex_statement_quoted :
    (∀ expr ∈ some (Expr.compare (.column (.bare "a`b")) .eq (.value (.text "'; --"))),
      expr.fragments = []) ∧
    lex .mysql (Statement.render .mysql (.delete
      { table := "order", filter := some (.compare (.column (.bare "a`b")) .eq
          (.value (.text "'; --"))) })).toList =
      some [.keyword "delete", .keyword "from", .name "order", .keyword "where", .name "a`b",
        .symbol "=", .text "'; --", .symbol ";"] := by
  have plain : ∀ expr ∈ some (Expr.compare (.column (.bare "a`b")) .eq (.value (.text "'; --"))),
      expr.fragments = [] := by
    intro expr member
    cases member
    rfl
  exact ⟨plain, (Write.lex_statement .mysql (.delete { table := "order", filter := some _ }) rfl
    plain).1⟩

end RecordMapper
