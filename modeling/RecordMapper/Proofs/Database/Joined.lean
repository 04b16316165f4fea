import Mathlib.Data.List.Nodup
import RecordMapper.Proofs.OrderedMap
import RecordMapper.Proofs.Sql.Condition

/-!
Finite databases, and the rows that the tables of a statement have together. Unknown values follow
the logic of three truth values; how values compare, and what a fragment of SQL says, is up to the
engine of the database.
-/

set_option autoImplicit false

namespace RecordMapper

structure Database where
  rows : String → List Row

/-- A row of joined tables: for each table the place of one of its rows. -/
abbrev Joined : Type := List (String × Nat)

/-- The value of a column. A column that the row does not have is null. -/
def Row.read (row : Row) (column : String) : Value := (row.get? column).getD .null

namespace Database

def row? (db : Database) (part : String × Nat) : Option Row := (db.rows part.1)[part.2]?

def joined (db : Database) : List String → List Joined
  | [] => [[]]
  | table :: rest =>
    (List.range (db.rows table).length).flatMap fun place =>
      (db.joined rest).map fun parts => (table, place) :: parts

/-- The value of a column in a joined row. One that is not qualified belongs to the first table that
has it. -/
def value (db : Database) (parts : Joined) (column : ColumnRef) : Value :=
  match column.table with
  | some table =>
    match (parts.lookup table).bind fun place => db.row? (table, place) with
    | some row => row.read column.column
    | none => .null
  | none =>
    (parts.findSome? fun part => (db.row? part).bind fun row => row.get? column.column).getD .null

variable {db : Database}

theorem row?_isSome_iff {part : String × Nat} :
    (db.row? part).isSome ↔ part.2 < (db.rows part.1).length := by
  simp [row?]

theorem mem_joined {tables : List String} {parts : Joined} :
    parts ∈ db.joined tables ↔
      parts.map Prod.fst = tables ∧ ∀ part ∈ parts, (db.row? part).isSome := by
  induction tables generalizing parts with
  | nil =>
      rw [joined, List.mem_singleton, List.map_eq_nil_iff]
      constructor
      · rintro rfl
        exact ⟨rfl, List.forall_mem_nil _⟩
      · rintro ⟨rfl, _⟩
        rfl
  | cons table rest ih =>
      simp only [joined, List.mem_flatMap, List.mem_map, List.mem_range]
      constructor
      · rintro ⟨place, bounded, others, member, rfl⟩
        obtain ⟨names, placed⟩ := ih.mp member
        refine ⟨by rw [List.map_cons, names], List.forall_mem_cons.mpr ⟨?_, placed⟩⟩
        exact row?_isSome_iff.mpr bounded
      · rintro ⟨names, placed⟩
        cases parts with
        | nil => cases names
        | cons part parts =>
            obtain ⟨here, others⟩ := List.forall_mem_cons.mp placed
            obtain ⟨rfl, rest⟩ := List.cons.inj names
            exact ⟨part.2, row?_isSome_iff.mp here, parts, ih.mpr ⟨rest, others⟩, rfl⟩

theorem nodup_joined (db : Database) (tables : List String) : (db.joined tables).Nodup := by
  induction tables with
  | nil => exact List.nodup_singleton []
  | cons table rest ih =>
      refine List.nodup_flatMap.mpr ⟨?_, ?_⟩
      · intro place _
        exact ih.map fun first second same => (List.cons.inj same).2
      · refine List.nodup_range.imp ?_
        intro first second differ parts inFirst inSecond
        obtain ⟨_, _, rfl⟩ := List.mem_map.mp inFirst
        obtain ⟨_, _, same⟩ := List.mem_map.mp inSecond
        exact differ (Prod.mk.inj (List.cons.inj same).1).2.symm

theorem value_of_mem {parts : Joined} (distinct : (parts.map Prod.fst).Nodup) {table : String}
    {place : Nat} (member : (table, place) ∈ parts) {row : Row}
    (held : db.row? (table, place) = some row) (column : String) :
    db.value parts (.of table column) = row.read column := by
  have found : parts.lookup table = some place := (lookup_eq_some_iff_mem distinct).mpr member
  simp [value, ColumnRef.of, found, held]

end Database

/-! ## Conditions -/

namespace Truth

def ofBool : Bool → Truth
  | Bool.true => .true
  | Bool.false => .false

def value : Truth → Value
  | .null => .null
  | .true => .bool Bool.true
  | .false => .bool Bool.false

end Truth

/-- What an engine decides by itself: how two values compare that are not null, which values beside
booleans are true, and the truth of a fragment of SQL. -/
structure Engine where
  compares : Comparison → Value → Value → Bool
  isTrue : Value → Bool
  fragment : String → Database → Joined → Truth

namespace Engine

def compare (engine : Engine) (op : Comparison) : Value → Value → Truth
  | .null, _ | _, .null => .null
  | left, right => .ofBool (engine.compares op left right)

def truth (engine : Engine) : Value → Truth
  | .null => .null
  | .bool b => .ofBool b
  | v => .ofBool (engine.isTrue v)

@[simp] theorem truth_value (engine : Engine) (t : Truth) : engine.truth t.value = t := by
  cases t <;> rfl

end Engine

namespace Expr

section

variable (engine : Engine) (db : Database) (parts : Joined)

mutual

def eval : Expr → Value
  | .and operands => (Combinator.and.truthAll (truths operands)).value
  | .or operands => (Combinator.or.truthAll (truths operands)).value
  | .xor operands => (Combinator.xor.truthAll (truths operands)).value
  | .not operand => (engine.truth (eval operand)).negate.value
  | .grouped operand => eval operand
  | .compare left op right => (engine.compare op (eval left) (eval right)).value
  | .inList operand list negated =>
    let found := Combinator.or.truthAll (list.map (engine.compare .eq (eval operand)))
    (if negated then found.negate else found).value
  | .is operand test negated =>
    let held := Truth.ofBool (engine.truth (eval operand) == test)
    (if negated then held.negate else held).value
  | .column c => db.value parts c
  | .value v => v
  | .raw sql => (engine.fragment sql db parts).value

def truths : List Expr → List Truth
  | [] => []
  | e :: rest => engine.truth (eval e) :: truths rest

end

def truth (e : Expr) : Truth := engine.truth (e.eval engine db parts)

end

variable {engine : Engine} {db : Database} {parts : Joined}

theorem truths_eq_map (es : List Expr) :
    truths engine db parts es = es.map (truth engine db parts) := by
  induction es with
  | nil => rfl
  | cons e es ih => rw [truths, ih, List.map_cons, truth]

private theorem truthAll_conjuncts (e : Expr) :
    Combinator.and.truthAll (e.conjuncts.map (truth engine db parts)) = e.truth engine db parts := by
  cases e with
  | and operands => rw [truth, eval, Engine.truth_value, conjuncts, truths_eq_map]
  | _ => exact Combinator.truth_unit .and _

private theorem truth_conj (left right : Expr) :
    (left.conj right).truth engine db parts =
      Combinator.and.truth (left.truth engine db parts) (right.truth engine db parts) := by
  rw [truth, conj, eval, Engine.truth_value, truths_eq_map, List.map_append,
    Combinator.truthAll_append, truthAll_conjuncts, truthAll_conjuncts]

private theorem truth_foldl_conj (first : Expr) (rest : List Expr) :
    (rest.foldl conj first).truth engine db parts =
      Combinator.and.truthAll ((first :: rest).map (truth engine db parts)) := by
  induction rest generalizing first with
  | nil => exact (Combinator.truth_unit .and _).symm
  | cons next rest ih =>
      rw [List.foldl_cons, ih, List.map_cons, truth_conj, Combinator.truthAll_cons,
        Combinator.truth_assoc]
      rfl

theorem truth_condition (e : KeyEquality) :
    e.condition.truth engine db parts =
      engine.compare .eq (db.value parts e.left) (db.value parts e.right) := by
  rw [truth, KeyEquality.condition, Expr.eq, eval, Engine.truth_value, eval, eval]

end Expr

private theorem Combinator.truthAll_and_eq_true_iff {values : List Truth} :
    Combinator.and.truthAll values = .true ↔ ∀ value ∈ values, value = .true := by
  induction values with
  | nil => simp [Combinator.unit]
  | cons first rest ih =>
      rw [truthAll_cons, List.forall_mem_cons, ← ih]
      cases first <;> cases Combinator.and.truthAll rest <;> decide

namespace Database

/-- Whether a joined row satisfies a condition. No condition is satisfied by all rows, and one that
is unknown is not satisfied. -/
def satisfies (db : Database) (engine : Engine) (filter : Option Expr) (parts : Joined) : Bool :=
  filter.all fun e => e.truth engine db parts == .true

def matching (db : Database) (engine : Engine) (tables : List String) (filter : Option Expr) :
    List Joined :=
  (db.joined tables).filter (db.satisfies engine filter)

variable {db : Database} {engine : Engine}

theorem satisfies_conjAll? {es : List Expr} {parts : Joined} :
    db.satisfies engine (Expr.conjAll? es) parts = true ↔
      ∀ e ∈ es, e.truth engine db parts = .true := by
  cases es with
  | nil => simp [satisfies, Expr.conjAll?]
  | cons first rest =>
      rw [satisfies, Expr.conjAll?, Option.all_some, beq_iff_eq, Expr.truth_foldl_conj,
        Combinator.truthAll_and_eq_true_iff, List.forall_mem_map]

end Database

end RecordMapper
