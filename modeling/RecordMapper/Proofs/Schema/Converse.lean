import Mathlib.Data.String.Basic
import RecordMapper.Proofs.Schema.Hop
import RecordMapper.Proofs.Schema.Name

/-!
The two directions of a relation between two models. Each side fills in the names that it leaves open
without looking at the other: its own primary key is known to it, and that of the other side is taken
to be `id`.
-/

set_option autoImplicit false

namespace RecordMapper

/-! ## The same join -/

def KeyEquality.Same (e e' : KeyEquality) : Prop :=
  e = e' ∨ e = ⟨e'.right, e'.left⟩

instance (e e' : KeyEquality) : Decidable (e.Same e') := inferInstanceAs (Decidable (_ ∨ _))

namespace JoinHop

def SameTables (hop back : JoinHop) (ends : List String) : Prop :=
  ∀ table ∉ ends, table ∈ hop.tables ↔ table ∈ back.tables

def SameEqualities (hop back : JoinHop) : Prop :=
  (∀ e ∈ hop.equalities, ∃ e' ∈ back.equalities, e.Same e') ∧
    ∀ e' ∈ back.equalities, ∃ e ∈ hop.equalities, e'.Same e

instance (hop back : JoinHop) : Decidable (hop.SameEqualities back) :=
  inferInstanceAs (Decidable (_ ∧ _))

variable {kind kind' : RelationKind} {a b table : String} {key key' own own' other other' : String}

private theorem sameTables_of_ends {equalities equalities' : List KeyEquality}
    (between : List String) :
    SameTables ⟨kind, between ++ [b], equalities⟩ ⟨kind', between ++ [a], equalities'⟩ [a, b] := by
  intro table apart
  simp only [List.mem_cons, List.not_mem_nil, or_false, not_or] at apart
  simp [apart.1, apart.2]

/-- Hops over a table between that has a key of each end: the keys are told apart by their columns,
so that the two hops compare each of them with the same column, or not at all. -/
theorem sameEqualities_between_iff (distinct : a ≠ b) (apart : key ≠ key')
    {tables tables' : List String} :
    SameEqualities
        ⟨kind, tables, [⟨.of table key, .of a own⟩, ⟨.of table key', .of b other⟩]⟩
        ⟨kind', tables', [⟨.of table key', .of b own'⟩, ⟨.of table key, .of a other'⟩]⟩ ↔
      own = other' ∧ own' = other := by
  simp only [SameEqualities, KeyEquality.Same, ColumnRef.of, List.forall_mem_cons,
    List.exists_mem_cons_iff, List.not_mem_nil, KeyEquality.mk.injEq, ColumnRef.mk.injEq]
  grind

end JoinHop

/-! ## Conventional names -/

private theorem defaultJoinTable_comm (a b : String) :
    defaultJoinTable a b = defaultJoinTable b a := by
  unfold defaultJoinTable
  rcases lt_trichotomy a b with before | rfl | after
  · rw [if_neg before.asymm, if_pos before]
  · rfl
  · rw [if_pos after, if_neg after.asymm]

namespace Model

private theorem keyTo_inj {a b : String} : keyTo a = keyTo b ↔ a = b := by
  unfold keyTo
  rw [String.ext_iff, String.ext_iff, String.toList_append, String.toList_append,
    List.append_left_inj]

structure DeclaresOnly (m : Model) (kind : RelationKind) (target : String)
    (options : RelationOptions) : Prop where
  only : m.kindsTo target = [kind]
  declared : m.options? kind target = some options

private theorem DeclaresOnly.hopTo {m : Model} {kind : RelationKind} {target : String}
    {options : RelationOptions} (declares : m.DeclaresOnly kind target options)
    (named : Name.normalize target = target) :
    m.hopTo target = m.relationKeys kind target >>= RelationKeys.hop := by
  simp only [Model.hopTo, onlyKind, named, declares.only]
  rfl

/-- Complementary relations between two models, without names of their own but for the table between
them. The models listed are those that one of the sides refers to by its primary key. -/
inductive Complementary (a b : Model) : List Model → Prop where
  | belongsTo {kind : RelationKind} (many : kind = .hasOne ∨ kind = .hasMany)
      (there : a.DeclaresOnly .belongsTo b.table {}) (back : b.DeclaresOnly kind a.table {}) :
      Complementary a b [b]
  | hasManyThrough (table : String)
      (there : a.DeclaresOnly .hasManyThrough b.table { through := some table })
      (back : b.DeclaresOnly .hasManyThrough a.table { through := some table }) :
      Complementary a b [a, b]
  | hasAndBelongsToMany (there : a.DeclaresOnly .hasAndBelongsToMany b.table {})
      (back : b.DeclaresOnly .hasAndBelongsToMany a.table {}) : Complementary a b [a, b]

/-- The two directions of a relation add the same tables, and they add the same key equalities if
and only if `id` is the primary key of each model that the other side refers to. -/
theorem converse_hops_same_iff {a b : Model} {referred : List Model} (distinct : a.table ≠ b.table)
    (named : Name.normalize a.table = a.table) (named' : Name.normalize b.table = b.table)
    (complementary : a.Complementary b referred) :
    ∃ hop back, a.hopTo b.table = .ok hop ∧ b.hopTo a.table = .ok back ∧
      hop.SameTables back [a.table, b.table] ∧
      (hop.SameEqualities back ↔ ∀ m ∈ referred, m.primaryKey = "id") := by
  have apart : keyTo a.table ≠ keyTo b.table := fun same => distinct (keyTo_inj.mp same)
  cases complementary with
  | @belongsTo kind many there back =>
      rw [there.hopTo named', back.hopTo named]
      simp only [relationKeys, named, named', there.declared, back.declared]
      rcases many with rfl | rfl
      all_goals
        refine ⟨_, _, rfl, rfl, JoinHop.sameTables_of_ends [], ?_⟩
        simp [JoinHop.SameEqualities, KeyEquality.Same, ColumnRef.of, distinct, eq_comm]
  | hasManyThrough table there back =>
      rw [there.hopTo named', back.hopTo named]
      simp only [relationKeys, named, named', there.declared, back.declared]
      refine ⟨_, _, rfl, rfl, JoinHop.sameTables_of_ends [table], ?_⟩
      refine (JoinHop.sameEqualities_between_iff distinct apart).trans ?_
      simp
  | hasAndBelongsToMany there back =>
      rw [there.hopTo named', back.hopTo named]
      simp only [relationKeys, named, named', there.declared, back.declared,
        defaultJoinTable_comm b.table]
      refine ⟨_, _, rfl, rfl, JoinHop.sameTables_of_ends [_], ?_⟩
      refine (JoinHop.sameEqualities_between_iff distinct apart).trans ?_
      simp

/-- Students and courses are joined through their enrollments alike from both sides. -/
theorem converse_hops_same_enrollment :
    ∃ student course : Model,
      student = (ofTable "student").relateThrough .hasManyThrough "course" "enrollment" ∧
      course = (ofTable "course").relateThrough .hasManyThrough "student" "enrollment" ∧
      student.table ≠ course.table ∧ Name.normalize student.table = student.table ∧
      Name.normalize course.table = course.table ∧
      student.Complementary course [student, course] ∧
      ∃ hop back, student.hopTo course.table = .ok hop ∧ course.hopTo student.table = .ok back ∧
        hop.SameTables back [student.table, course.table] ∧ hop.SameEqualities back := by
  refine ⟨_, _, rfl, rfl, by decide +kernel, by decide +kernel, by decide +kernel,
    .hasManyThrough "enrollment" ⟨by decide +kernel, by decide +kernel⟩
      ⟨by decide +kernel, by decide +kernel⟩, ?_⟩
  obtain ⟨hop, back, made, made', tables, equalities⟩ :=
    converse_hops_same_iff
      (a := (ofTable "student").relateThrough .hasManyThrough "course" "enrollment")
      (b := (ofTable "course").relateThrough .hasManyThrough "student" "enrollment")
      (by decide +kernel) (by decide +kernel) (by decide +kernel)
      (.hasManyThrough "enrollment" ⟨by decide +kernel, by decide +kernel⟩
        ⟨by decide +kernel, by decide +kernel⟩)
  exact ⟨hop, back, made, made', tables, equalities.mpr (by decide +kernel)⟩

/-- A purchase refers to its customer by `id`, and the customer to its purchases by its `code`. -/
theorem converse_hops_differ_of_code :
    ∃ purchase customer : Model,
      purchase = (ofTable "purchase").relate .belongsTo "customer" {} ∧
      customer = ((ofTable "customer").withPrimaryKey "code").relate .hasMany "purchase" {} ∧
      purchase.table ≠ customer.table ∧ Name.normalize purchase.table = purchase.table ∧
      Name.normalize customer.table = customer.table ∧
      purchase.Complementary customer [customer] ∧
      ∃ hop back, purchase.hopTo customer.table = .ok hop ∧
        customer.hopTo purchase.table = .ok back ∧ ¬ hop.SameEqualities back :=
  ⟨_, _, rfl, rfl, by decide +kernel, by decide +kernel, by decide +kernel,
    .belongsTo (.inr rfl) ⟨by decide +kernel, by decide +kernel⟩
      ⟨by decide +kernel, by decide +kernel⟩,
    ⟨.belongsTo, ["customer"], [⟨.of "purchase" "customer_id", .of "customer" "id"⟩]⟩,
    ⟨.hasMany, ["purchase"], [⟨.of "purchase" "customer_id", .of "customer" "code"⟩]⟩,
    by decide +kernel, by decide +kernel, by decide +kernel⟩

end Model

end RecordMapper
