import RecordMapper.Proofs.Database.Spared
import RecordMapper.Proofs.Record.Linked

/-!
The steps of taking a link away, and the rows that they are about. Where key columns hold numbers or
null, the rows that link two records are found by the numbers of the records alone.
-/

set_option autoImplicit false

namespace RecordMapper

/-! ## Linking rows by their numbers -/

namespace Database

variable {engine : Engine} {db : Database} (numbers : engine.ComparesNumbers)

include numbers

theorem mem_matching_pair_iff {table first second : String} (refers : db.Refers table first)
    (refers' : db.Refers table second) {m n : Int64} {parts : Joined} :
    parts ∈ db.matching engine [table] (Expr.conjAll? [
        .eq (.column (.of table first)) (.value (.int m)),
        .eq (.column (.of table second)) (.value (.int n))]) ↔
      ∃ place row, parts = [(table, place)] ∧ db.row? (table, place) = some row ∧
        (row.read first).number? = some m ∧ (row.read second).number? = some n := by
  rw [mem_matching_pair]
  refine exists_congr fun place => exists_congr fun row => and_congr_right fun _ =>
    and_congr_right fun present => ?_
  rw [Engine.compare_eq_true_iff_of_readable numbers (refers present) (.inr ⟨m, rfl⟩),
    Engine.compare_eq_true_iff_of_readable numbers (refers' present) (.inr ⟨n, rfl⟩)]
  simp [Value.number?]

section

variable {source through target : String} (apart : [source, through, target].Nodup)

include apart

/-- The row between has the number that the last row holds. -/
theorem reaches_held_iff {targetKey middle : String} (refers : db.Refers target targetKey)
    (between : db.Refers through middle) {p₁ p₂ p₃ : Nat} {r₁ r₂ r₃ : Row}
    (first : db.row? (source, p₁) = some r₁) (second : db.row? (through, p₂) = some r₂)
    (third : db.row? (target, p₃) = some r₃) :
    (Expr.eq (.column (.of target targetKey)) (.column (.of through middle))).truth engine db
        [(source, p₁), (through, p₂), (target, p₃)] = .true ↔
      ∃ k, (r₃.read targetKey).number? = some k ∧ (r₂.read middle).number? = some k := by
  have values (column : String) := value_of_chain apart first second third column
  rw [Expr.truth_eq, Expr.eval, Expr.eval, (values _).2.1, (values _).2.2]
  exact Engine.compare_eq_true_iff_of_readable numbers (refers third) (between second)

/-- The row between holds the number of the last row. -/
theorem reaches_pair_iff {targetKey last : String} (refers : db.Refers through targetKey)
    (keyed : db.Refers target last) {p₁ p₂ p₃ : Nat} {r₁ r₂ r₃ : Row}
    (first : db.row? (source, p₁) = some r₁) (second : db.row? (through, p₂) = some r₂)
    (third : db.row? (target, p₃) = some r₃) :
    (Expr.eq (.column (.of through targetKey)) (.column (.of target last))).truth engine db
        [(source, p₁), (through, p₂), (target, p₃)] = .true ↔
      ∃ k, (r₂.read targetKey).number? = some k ∧ (r₃.read last).number? = some k := by
  have values (column : String) := value_of_chain apart first second third column
  rw [Expr.truth_eq, Expr.eval, Expr.eval, (values _).2.1, (values _).2.2]
  exact Engine.compare_eq_true_iff_of_readable numbers (refers second) (keyed third)

theorem mem_matching_chained_iff {own sourceKey last : String} {sourceId targetId : Int64}
    (keyed : db.Refers source own) (refers : db.Refers through sourceKey)
    (keyed' : db.Refers target last) {reaches : Expr} {Reached : Row → Row → Prop}
    (reached : ∀ {p₁ p₂ p₃ r₁ r₂ r₃}, db.row? (source, p₁) = some r₁ →
      db.row? (through, p₂) = some r₂ → db.row? (target, p₃) = some r₃ →
        (reaches.truth engine db [(source, p₁), (through, p₂), (target, p₃)] = .true ↔
          Reached r₂ r₃)) {parts : Joined} :
    parts ∈ db.matching engine [source, through, target]
        (chained source through target own sourceKey reaches last sourceId targetId) ↔
      ∃ p₁ p₂ p₃ r₁ r₂ r₃, parts = [(source, p₁), (through, p₂), (target, p₃)] ∧
        db.row? (source, p₁) = some r₁ ∧ db.row? (through, p₂) = some r₂ ∧
        db.row? (target, p₃) = some r₃ ∧ (r₁.read own).number? = some sourceId ∧
        (r₂.read sourceKey).number? = some sourceId ∧ Reached r₂ r₃ ∧
        (r₃.read last).number? = some targetId := by
  rw [mem_matching_chained apart]
  refine exists_congr fun p₁ => exists_congr fun p₂ => exists_congr fun p₃ =>
    exists_congr fun r₁ => exists_congr fun r₂ => exists_congr fun r₃ => ?_
  refine and_congr_right fun same => and_congr_right fun first => and_congr_right fun second =>
    and_congr_right fun third => ?_
  rw [same, reached first second third,
    Engine.compare_eq_true_iff_of_readable numbers (keyed first) (.inr ⟨sourceId, rfl⟩),
    Engine.compare_eq_true_iff_of_readable numbers (refers second) (keyed first),
    Engine.compare_eq_true_iff_of_readable numbers (keyed' third) (.inr ⟨targetId, rfl⟩)]
  constructor
  · rintro ⟨⟨m, number, ⟨⟩⟩, ⟨n, holds, number'⟩, links, k, number'', ⟨⟩⟩
    rw [number] at number'
    cases number'
    exact ⟨number, holds, links, number''⟩
  · rintro ⟨number, holds, links, number''⟩
    exact ⟨⟨_, number, rfl⟩, ⟨_, holds, number⟩, links, _, number'', rfl⟩

end

structure Clears (db : Database) (table key column : String) (id : Int64) (db' : Database) :
    Prop where
  cleared : ∀ {place row'}, db'.row? (table, place) = some row' →
    (∃ n, (row'.read key).number? = some n ∧ n ≠ id) ∨ row'.read column = .null
  spares : db.Spares (fun part => part.1 = table ∧ ∃ row, db.row? part = some row ∧
    (row.read key).number? = some id) db'
  stays : ∀ part, (db.row? part).isSome → (db'.row? part).isSome

section

variable {db' : Database} {table key column : String} {id : Int64}
  (clears : db.Clears table key column id db')

include clears

theorem Clears.matching_pair_eq_nil (v : Value) :
    db'.matching engine [table] (Expr.conjAll? [
      .eq (.column (.of table column)) (.value v),
      .eq (.column (.of table key)) (.value (.int id))]) = [] := by
  refine List.eq_nil_iff_forall_not_mem.mpr fun parts member => ?_
  obtain ⟨place, row, rfl, present, holds, same⟩ := mem_matching_pair.mp member
  rcases clears.cleared present with ⟨n, number, other⟩ | null
  · exact other ((Engine.compare_eq_true_iff numbers number rfl).mp same)
  · rw [null] at holds
    cases holds

theorem Clears.matching_chained_eq_nil {source through own sourceKey middle : String}
    (apart : [source, through, table].Nodup) (sourceId : Int64) :
    db'.matching engine [source, through, table]
      (chained source through table own sourceKey
        (.eq (.column (.of table column)) (.column (.of through middle))) key sourceId id) = [] := by
  refine List.eq_nil_iff_forall_not_mem.mpr fun parts member => ?_
  obtain ⟨p₁, p₂, p₃, r₁, r₂, r₃, rfl, first, second, third, -, -, reached, same⟩ :=
    (mem_matching_chained apart).mp member
  rcases clears.cleared third with ⟨n, number, other⟩ | null
  · exact other ((Engine.compare_eq_true_iff numbers number rfl).mp same)
  · have values (column : String) := value_of_chain apart first second third column
    rw [Expr.truth_eq, Expr.eval, Expr.eval, (values _).2.2, null] at reached
    cases reached

end

end Database

/-! ## Clearing a key -/

namespace Record

variable {σ : Type} [Connection σ] {r r' : Record} {c c' : σ}

/-- A record that holds null in a column and has nothing to save. Setting the column to null is no
change of it, whatever its row holds. -/
def RemembersNull (r : Record) (column : String) : Prop :=
  r.get? column = some .null ∧ r.dirty = false

theorem assigned_null {column : String} {set : Record}
    (assigned : r.assigned column .null = .ok set) :
    column ≠ r.model.primaryKey ∧ (∃ type, r.model.fields.get? column = some type) ∧
      set.model = r.model ∧ set.id = r.id ∧ set.get? column = some .null ∧
      (r.RemembersNull column ∧ set = r ∨ ¬r.RemembersNull column ∧ set.dirty = true) := by
  unfold Record.assigned at assigned
  split at assigned
  · cases assigned
  · rename_i other
    cases field : r.model.fields.get? column with
    | none =>
        rw [field] at assigned
        cases assigned
    | some type =>
        rw [field] at assigned
        dsimp only at assigned
        rw [type.fromDatabase_null] at assigned
        obtain rfl := Except.ok.inj assigned
        refine ⟨other, ⟨type, rfl⟩, ?_⟩
        have written (different : r.get? column ≠ some .null) :
            ¬r.RemembersNull column := fun remembers => different remembers.1
        cases held : r.get? column with
        | none =>
            exact ⟨rfl, rfl, OrderedMap.get?_insert_self _,
              .inr ⟨written (by rw [held]; rintro ⟨⟩), rfl⟩⟩
        | some present =>
            dsimp only
            split
            · rename_i unchanged
              obtain rfl := eq_of_same (fun x => by rintro ⟨⟩) unchanged
              refine ⟨rfl, rfl, held, ?_⟩
              cases dirty : r.dirty with
              | false => exact .inl ⟨⟨held, dirty⟩, rfl⟩
              | true => exact .inr ⟨fun remembers => Bool.false_ne_true (remembers.2.symm.trans dirty), rfl⟩
            · rename_i changed
              refine ⟨rfl, rfl, OrderedMap.get?_insert_self _, .inr ⟨written ?_, rfl⟩⟩
              rw [held]
              rintro ⟨⟩
              exact changed rfl

/-- A key that is cleared in a saved record is sent, unless the record remembers null for it. -/
theorem updated_of_clear {column : String} (persisted : 0 < r.id)
    (ran : (Linking.store column .null : Action (Record × σ) Unit).runOn (r, c) =
      (.ok (), (r', c'))) :
    r'.model = r.model ∧ r'.id = r.id ∧
      (r.RemembersNull column ∧ c' = c ∨
        ¬r.RemembersNull column ∧ ∃ values response, (values.map Prod.fst).Nodup ∧
          (column, .null) ∈ values ∧
          (Connection.run (.update (r.updateOf r.id values))).runOn c = (.ok response, c')) := by
  obtain ⟨set, assigned, saved⟩ := of_store ran
  obtain ⟨-, ⟨type, field⟩, model, id, held, outcome⟩ := assigned_null assigned
  rcases saved_eq_ok_of_persisted (id ▸ persisted) saved with
    ⟨clean, rfl, rfl⟩ | ⟨dirty, values, stored, rfl, sent⟩
  · rcases outcome with ⟨remembers, rfl⟩ | ⟨-, changed⟩
    · exact ⟨rfl, rfl, .inl ⟨remembers, rfl⟩⟩
    · rw [clean] at changed
      cases changed
  · refine ⟨model, id, .inr ⟨?_, ?_⟩⟩
    · rcases outcome with ⟨remembers, rfl⟩ | ⟨different, -⟩
      · rw [remembers.2] at dirty
        cases dirty
      · exact different
    · have member : (column, Value.null) ∈ values := by
        refine (mem_storedValues stored).mpr ⟨type, .null, model ▸ field, held, ?_⟩
        cases type <;> rfl
      rcases sent with ⟨rfl, -⟩ | ⟨-, response, executed⟩
      · cases member
      · refine ⟨values, response, nodup_storedValues stored, member, ?_⟩
        rw [← updateOf_congr model id]
        exact executed

private theorem clears_of_update {engine : Engine} (numbers : engine.ComparesNumbers)
    {db : Database}
    (keyed : db.Keyed r.table r.model.primaryKey) {column : String}
    {values : List (String × Value)} (distinct : (values.map Prod.fst).Nodup)
    (member : (column, .null) ∈ values) (d : Dialect) :
    db.Clears r.table r.model.primaryKey column r.id
      (db.updated engine d (r.updateOf r.id values)) := by
  have touched (part : String × Nat) :
      part ∈ ((r.updateOf r.id values).change d).touched engine db ↔
        part.1 = r.table ∧ ∃ row, db.row? part = some row ∧
          (row.read r.model.primaryKey).number? = some r.id :=
    mem_touched_updateOf numbers keyed (List.ne_nil_of_mem member) d
  have spares : db.Spares
      (fun part => part ∈ ((r.updateOf r.id values).change d).touched engine db)
      (db.updated engine d (r.updateOf r.id values)) := Database.spares_updated
  simp only [touched] at spares
  refine ⟨?_, spares, ?_⟩
  · intro place row' present
    rw [Database.row?_updated] at present
    obtain ⟨row, held, rfl⟩ := Option.map_eq_some_iff.mp present
    split
    · right
      change (row.written values).read column = .null
      rw [Row.read_written distinct, (lookup_eq_some_iff_mem distinct).mpr member]
      rfl
    · rename_i spared
      obtain ⟨n, number⟩ := keyed.number held
      refine .inl ⟨n, number, ?_⟩
      rintro rfl
      exact spared ((touched _).mpr ⟨rfl, row, held, number⟩)
  · intro part present
    rw [Database.row?_updated, Option.isSome_map]
    exact present

theorem cleared_of_store {engine : Engine} {output : Output} {key : String → String}
    {held : σ → Database} (law : Connection.Executes σ engine output key held)
    (numbers : engine.ComparesNumbers) {column : String} (persisted : 0 < r.id)
    (keyed : (held c).Keyed r.table r.model.primaryKey)
    (ran : (Linking.store column .null : Action (Record × σ) Unit).runOn (r, c) =
      (.ok (), (r', c'))) :
    r'.model = r.model ∧ r'.id = r.id ∧
      (r.RemembersNull column ∧ held c' = held c ∨
        ¬r.RemembersNull column ∧
          (held c).Clears r.table r.model.primaryKey column r.id (held c')) := by
  obtain ⟨model, id, ⟨idle, rfl⟩ | ⟨busy, values, response, distinct, member, executed⟩⟩ :=
    updated_of_clear persisted ran
  · exact ⟨model, id, .inl ⟨idle, rfl⟩⟩
  · have effect := law.executed _ _ response _ executed
    generalize held c' = db' at effect ⊢
    cases effect
    exact ⟨model, id, .inr ⟨busy, clears_of_update numbers keyed distinct member _⟩⟩

end Record

end RecordMapper
