import Mathlib.Data.List.Perm.Subperm
import RecordMapper.Proofs.Database.Keyed
import RecordMapper.Schema.Model

/-!
Rows that at most one row of another table refers to, and what becomes of that when one more row
comes to refer to one of them.
-/

set_option autoImplicit false

namespace RecordMapper.Database

variable {db db' : Database} {table column : String} {n m : Int64} {place place' : Nat}

def Bears (db : Database) (table column : String) (n : Int64) (place : Nat) : Prop :=
  ∃ row, db.row? (table, place) = some row ∧ (row.read column).number? = some n

theorem bears_iff : db.Bears table column n place ↔
    ((db.row? (table, place)).bind fun row => (row.read column).number?) = some n := by
  rw [Option.bind_eq_some_iff, Bears]

theorem Bears.congr (bears : db.Bears table column n place)
    (same : db'.row? (table, place) = db.row? (table, place)) : db'.Bears table column n place := by
  obtain ⟨row, present, number⟩ := bears
  exact ⟨row, same.trans present, number⟩

theorem Bears.number_eq (bears : db.Bears table column n place)
    (bears' : db.Bears table column m place) : n = m := by
  obtain ⟨row, present, number⟩ := bears
  obtain ⟨row', present', number'⟩ := bears'
  obtain rfl := Option.some.inj (present.symm.trans present')
  exact Option.some.inj (number.symm.trans number')

theorem Keyed.place_eq (keyed : db.Keyed table column) (bears : db.Bears table column n place)
    (bears' : db.Bears table column n place') : place = place' := by
  obtain ⟨row, present, number⟩ := bears
  obtain ⟨row', present', number'⟩ := bears'
  exact keyed.unique present present' number number'

section

variable {engine : Engine}

/-- In a column of numbers, what compares like a number holds it. -/
theorem Refers.bears (numbers : engine.ComparesNumbers) (refers : db.Refers table column)
    {place : Nat} {row : Row} (present : db.row? (table, place) = some row)
    (same : engine.compare .eq (row.read column) (.int n) = .true) :
    db.Bears table column n place := by
  obtain ⟨m, number, number'⟩ := (Engine.compare_eq_true_iff_of_readable numbers (refers present)
    (.inr ⟨n, rfl⟩)).mp same
  cases number'
  exact ⟨row, present, number⟩

theorem mem_matching_of_bears (numbers : engine.ComparesNumbers) {place : Nat}
    (bears : db.Bears table column n place) :
    [(table, place)] ∈ db.matching engine [table]
      (some (.eq (.column (.of table column)) (.value (.int n)))) := by
  obtain ⟨row, present, number⟩ := bears
  refine mem_matching_single.mpr ⟨place, row, rfl, present, ?_⟩
  rw [satisfies, Option.all_some, beq_iff_eq, Expr.truth_eq, Expr.eval, Expr.eval,
    value_single present]
  exact (Engine.compare_eq_true_iff numbers number rfl).mpr rfl

/-- Several rows are found for a number if it stands at two places. -/
theorem one_lt_length_matching_iff (numbers : engine.ComparesNumbers)
    (refers : db.Refers table column) :
    1 < (db.matching engine [table]
        (some (.eq (.column (.of table column)) (.value (.int n))))).length ↔
      ∃ place place', place ≠ place' ∧ db.Bears table column n place ∧
        db.Bears table column n place' := by
  have distinct : (db.matching engine [table]
      (some (.eq (.column (.of table column)) (.value (.int n))))).Nodup :=
    (db.nodup_joined _).filter _
  have found {parts : Joined} (member : parts ∈ db.matching engine [table]
      (some (.eq (.column (.of table column)) (.value (.int n))))) :
      ∃ place, parts = [(table, place)] ∧ db.Bears table column n place := by
    obtain ⟨place, row, rfl, present, satisfied⟩ := mem_matching_single.mp member
    rw [satisfies, Option.all_some, beq_iff_eq, Expr.truth_eq, Expr.eval, Expr.eval,
      value_single present] at satisfied
    exact ⟨place, rfl, refers.bears numbers present satisfied⟩
  constructor
  · intro several
    obtain ⟨first, rest, same⟩ := List.exists_cons_of_length_pos (Nat.zero_lt_of_lt several)
    rw [same] at distinct several found
    obtain ⟨second, others, rfl⟩ := List.exists_cons_of_length_pos (Nat.lt_of_succ_lt_succ several)
    obtain ⟨place, rfl, bears⟩ := found List.mem_cons_self
    obtain ⟨place', rfl, bears'⟩ := found (List.mem_cons_of_mem _ List.mem_cons_self)
    refine ⟨place, place', ?_, bears, bears'⟩
    rintro rfl
    exact (List.nodup_cons.mp distinct).1 List.mem_cons_self
  · rintro ⟨place, place', differ, bears, bears'⟩
    have apart : [[(table, place)], [(table, place')]].Nodup := by simpa using differ
    refine (List.subperm_of_subset apart ?_).length_le
    refine List.forall_mem_cons.mpr ⟨mem_matching_of_bears numbers bears, ?_⟩
    exact List.forall_mem_singleton.mpr (mem_matching_of_bears numbers bears')

end

variable {parent child : Model}

/-- What the constraints of the child see to: its primary key is a key, and the column for its parent
holds numbers or null. -/
structure Constrained (db : Database) (child : Model) (column : String) : Prop where
  keyed : db.Keyed child.table child.primaryKey
  refers : db.Refers child.table column

/-- No row of the parent is referred to by two rows of the child. -/
def Single (db : Database) (parent child : Model) (column : String) : Prop :=
  ∀ ⦃n owner place place'⦄, db.Bears parent.table parent.primaryKey n owner →
    db.Bears child.table column n place → db.Bears child.table column n place' → place = place'

theorem Single.of_rows
    (distinct : ((db.rows child.table).filterMap fun row => (row.read column).number?).Nodup) :
    db.Single parent child column := by
  have apart {n : Int64} {i j : Nat} (before : i < j) (first : db.Bears child.table column n i)
      (second : db.Bears child.table column n j) : False := by
    obtain ⟨row, present, number⟩ := first
    obtain ⟨row', present', number'⟩ := second
    obtain ⟨inside, here⟩ := List.getElem?_eq_some_iff.mp present
    obtain ⟨inside', there⟩ := List.getElem?_eq_some_iff.mp present'
    have differ := List.pairwise_iff_getElem.mp (List.pairwise_filterMap.mp distinct) i j inside
      inside' before
    rw [here, there] at differ
    exact differ n number n number' rfl
  intro n owner place place' _ first second
  rcases Nat.lt_trichotomy place place' with before | same | after
  · exact (apart before first second).elim
  · exact same
  · exact (apart after second first).elim

def Unrivalled (db : Database) (child : Model) (column : String) (p c : Int64) : Prop :=
  ∀ ⦃place⦄, db.Bears child.table column p place → db.Bears child.table child.primaryKey c place

theorem Unrivalled.of_rows {p c : Int64} (numbers : ∀ row ∈ db.rows child.table,
    (row.read column).number? = some p → (row.read child.primaryKey).number? = some c) :
    db.Unrivalled child column p c := by
  rintro place ⟨row, present, number⟩
  exact ⟨row, present, numbers row (List.mem_of_getElem? present) number⟩

/-- At most the row of the child at one place has changed, and if it has, it refers to the parent `p`,
which may be new. The number of the row is `c`, if it was there. -/
structure Attaches (db db' : Database) (parent child : Model) (column : String) (p c : Int64)
    (home : Nat) : Prop where
  owners : ∀ {n owner}, db'.Bears parent.table parent.primaryKey n owner →
    n = p ∨ db.Bears parent.table parent.primaryKey n owner
  elsewhere : ∀ {place}, place ≠ home →
    db'.row? (child.table, place) = db.row? (child.table, place)
  changed : db'.row? (child.table, home) = db.row? (child.table, home) ∨
    db'.Bears child.table column p home
  known : ∀ {place}, db.Bears child.table child.primaryKey c place → place = home

section

variable {p c : Int64} {home : Nat} (attaches : Attaches db db' parent child column p c home)

include attaches

/-- A row that comes to refer to a parent that no other one refers to leaves it at one. -/
theorem Attaches.single (single : db.Single parent child column)
    (unrivalled : db.Unrivalled child column p c) : db'.Single parent child column := by
  have before {n : Int64} {place : Nat} (bears : db'.Bears child.table column n place) :
      db.Bears child.table column n place ∨ place = home ∧ n = p := by
    by_cases here : place = home
    · subst here
      rcases attaches.changed with same | attached
      · exact .inl (bears.congr same.symm)
      · exact .inr ⟨rfl, bears.number_eq attached⟩
    · exact .inl (bears.congr (attaches.elsewhere here).symm)
  intro n owner place place' owns first second
  by_cases same : n = p
  · subst same
    have only {place : Nat} (bears : db'.Bears child.table column n place) : place = home :=
      (before bears).elim (fun bears => attaches.known (unrivalled bears)) And.left
    exact (only first).trans (only second).symm
  · have owns := (attaches.owners owns).resolve_left same
    have still {place : Nat} (bears : db'.Bears child.table column n place) :
        db.Bears child.table column n place :=
      (before bears).resolve_right fun moved => same moved.2
    exact single owns (still first) (still second)

/-- Once it refers to the parent, no other row did before, if there is one row for each parent. -/
theorem Attaches.unrivalled (single : db'.Single parent child column)
    (owner : ∃ owner, db'.Bears parent.table parent.primaryKey p owner)
    (attached : db'.Bears child.table column p home)
    (own : db.row? (child.table, home) = none ∨
      db.Bears child.table child.primaryKey c home) :
    db.Unrivalled child column p c := by
  obtain ⟨owner, owns⟩ := owner
  intro place bears
  by_cases here : place = home
  · subst here
    rcases own with absent | own
    · obtain ⟨row, present, -⟩ := bears
      cases absent.symm.trans present
    · exact own
  · exact absurd (single owns (bears.congr (attaches.elsewhere here)) attached) here

end

end RecordMapper.Database
