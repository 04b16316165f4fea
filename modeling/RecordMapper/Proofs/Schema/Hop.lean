import RecordMapper.Proofs.Except
import RecordMapper.Schema.Join

/-!
What a declared relation adds to a query. A hop is read off the keys of its relation, by kind: a
relation without a table between has one key equality, and one with such a table has two.
-/

set_option autoImplicit false

namespace RecordMapper

def KeyEquality.columns (e : KeyEquality) : List ColumnRef := [e.left, e.right]

namespace RelationKeys

inductive Hops : RelationKeys → JoinHop → Prop where
  /-- The source holds a key of the target. -/
  | toTarget {keys : RelationKeys} (kind : keys.kind = .belongsTo) :
      Hops keys ⟨keys.kind, [keys.target],
        [⟨.of keys.source keys.foreignKey, .of keys.target keys.referencedKey⟩]⟩
  /-- The target holds a key of the source. -/
  | fromTarget {keys : RelationKeys} (kind : keys.kind = .hasOne ∨ keys.kind = .hasMany) :
      Hops keys ⟨keys.kind, [keys.target],
        [⟨.of keys.target keys.foreignKey, .of keys.source keys.referencedKey⟩]⟩
  /-- The through table holds a key of the source, and the target one of the through table. -/
  | chained {keys : RelationKeys} {table : String} (kind : keys.kind = .hasOneThrough)
      (through : keys.through = some table) :
      Hops keys ⟨keys.kind, [table, keys.target],
        [⟨.of table keys.sourceKey, .of keys.source keys.sourceId⟩,
          ⟨.of keys.target keys.targetKey, .of table keys.throughId⟩]⟩
  /-- The table between holds keys of both. -/
  | between {keys : RelationKeys} {table : String}
      (kind : keys.kind = .hasManyThrough ∨ keys.kind = .hasAndBelongsToMany)
      (through : keys.through = some table) :
      Hops keys ⟨keys.kind, [table, keys.target],
        [⟨.of table keys.sourceKey, .of keys.source keys.sourceId⟩,
          ⟨.of table keys.targetKey, .of keys.target keys.targetId⟩]⟩

variable {keys : RelationKeys} {hop : JoinHop}

theorem through_of_throughTable {table : String} (found : keys.throughTable = .ok table) :
    keys.through = some table := by
  unfold throughTable at found
  split at found
  · rename_i named through
    cases found
    exact through
  · cases found

theorem hops_of_hop (made : keys.hop = .ok hop) : Hops keys hop := by
  unfold RelationKeys.hop at made
  cases kind : keys.kind with
  | belongsTo =>
      simp only [kind] at made
      cases made
      exact kind ▸ .toTarget kind
  | hasOne =>
      simp only [kind] at made
      cases made
      exact kind ▸ .fromTarget (.inl kind)
  | hasMany =>
      simp only [kind] at made
      cases made
      exact kind ▸ .fromTarget (.inr kind)
  | hasOneThrough =>
      simp only [kind] at made
      obtain ⟨table, found, returned⟩ := bind_eq_ok.mp made
      cases returned
      exact kind ▸ .chained kind (through_of_throughTable found)
  | hasManyThrough =>
      simp only [kind] at made
      obtain ⟨table, found, returned⟩ := bind_eq_ok.mp made
      cases returned
      exact kind ▸ .between (.inl kind) (through_of_throughTable found)
  | hasAndBelongsToMany =>
      simp only [kind] at made
      obtain ⟨table, found, returned⟩ := bind_eq_ok.mp made
      cases returned
      exact kind ▸ .between (.inr kind) (through_of_throughTable found)

end RelationKeys

namespace Model

variable {m : Model} {target : String}

theorem relationKeys_eq_ok {kind : RelationKind} {keys : RelationKeys}
    (declared : m.relationKeys kind target = .ok keys) :
    keys.kind = kind ∧ keys.source = m.table ∧ keys.target = Name.normalize target := by
  unfold relationKeys at declared
  dsimp only at declared
  split at declared
  · cases declared
  · cases declared
    cases kind <;> exact ⟨rfl, rfl, rfl⟩

/-- A hop is that of the one relation that is declared to its target. -/
theorem hopTo_eq_ok {hop : JoinHop} (made : m.hopTo target = .ok hop) :
    ∃ kind keys, m.onlyKind (Name.normalize target) = .ok kind ∧
      m.relationKeys kind (Name.normalize target) = .ok keys ∧ RelationKeys.Hops keys hop := by
  obtain ⟨kind, only, made⟩ := bind_eq_ok.mp made
  obtain ⟨keys, declared, made⟩ := bind_eq_ok.mp made
  exact ⟨kind, keys, only, declared, RelationKeys.hops_of_hop made⟩

end Model

end RecordMapper
