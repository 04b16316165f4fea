import RecordMapper.Proofs.Database.Single
import RecordMapper.Proofs.Database.Spared
import RecordMapper.Proofs.Record.Linked

/-!
What linking two records by a foreign key leaves of the rows of their tables. The operation may be
called on either of the two, and they may remember other fields than their rows hold.
-/

set_option autoImplicit false

namespace RecordMapper

structure Database.Sets (db : Database) (table own column : String) (id n : Int64)
    (db' : Database) : Prop where
  others : ∀ {part}, ¬(part.1 = table ∧ db.Bears table own id part.2) → db'.row? part = db.row? part
  given : ∀ {place}, db.Bears table own id place → db'.Bears table column n place

private theorem Database.appended_comm (db : Database) {first second : String}
    (apart : first ≠ second)
    (row row' : Row) :
    (db.appended first row).appended second row' =
      (db.appended second row').appended first row := by
  unfold appended
  congr 1
  funext name
  by_cases here : name = first
  · subst here
    simp [apart]
  · simp [here]

private theorem Database.rows_appended_of_ne (db : Database) {table other : String}
    (differ : other ≠ table)
    (row : Row) : (db.appended table row).rows other = db.rows other :=
  if_neg differ

namespace Record

variable {r r' o o' : Record} {db db' between : Database} {column : String}

/-! ## New records -/

/-- What is left when a record is saved if it is new. A new row has the number that is given to the
record, which no other one has, and the numbers of its foreign keys. -/
inductive SavedNew (r : Record) (db : Database) : Record → Database → Prop where
  | old (persisted : 0 < r.id) : SavedNew r db r db
  | new (unsaved : ¬0 < r.id) (row : Row) (id : Int64) (positive : 0 < id)
      (number : (row.read r.model.primaryKey).number? = some id)
      (fresh : ∀ other ∈ db.rows r.table, (other.read r.model.primaryKey).number? ≠ some id)
      (given : ∀ column n, r.model.Links column → r.get? column = some (.int n) →
        (row.read column).number? = some n) :
      SavedNew r db { r with id, dirty := false } (db.appended r.table row)

/-- The row of a saved record. A record without changes remembers the number that the row holds in a
column. -/
structure Kept (r : Record) (column : String) (db : Database) (place : Nat) : Prop where
  number : db.Bears r.table r.model.primaryKey r.id place
  recalls : r.dirty = false → ∀ {n}, r.get? column = some (.int n) → db.Bears r.table column n place

namespace SavedNew

variable (saved : r.SavedNew db r' db')

section

include saved

theorem model : r'.model = r.model := by
  cases saved <;> rfl

theorem positive : 0 < r'.id := by
  cases saved with
  | old persisted => exact persisted
  | new _ _ _ positive => exact positive

theorem eq_of_persisted (persisted : 0 < r.id) : r' = r ∧ db' = db := by
  cases saved with
  | old => exact ⟨rfl, rfl⟩
  | new unsaved => exact absurd persisted unsaved

theorem elsewhere {part : String × Nat} (other : part.1 ≠ r.table) :
    db'.row? part = db.row? part := by
  cases saved with
  | old => rfl
  | new _ row => exact (Database.puts_appended db r.table row).other_table other

theorem keyed (keyed : db.Keyed r.table r.model.primaryKey) :
    db'.Keyed r.table r.model.primaryKey := by
  cases saved with
  | old => exact keyed
  | new _ row id _ number fresh =>
      exact keyed.puts (Database.puts_appended db r.table row) number fun _ present =>
        fresh _ (List.mem_of_getElem? present)

theorem keyed_elsewhere {table own : String} (keyed : db.Keyed table own) (other : table ≠ r.table) :
    db'.Keyed table own := by
  cases saved with
  | old => exact keyed
  | new _ row => exact keyed.puts_elsewhere (Database.puts_appended db r.table row) other.symm

theorem owners {n : Int64} {owner : Nat} (bears : db'.Bears r.table r.model.primaryKey n owner) :
    n = r'.id ∨ db.Bears r.table r.model.primaryKey n owner := by
  cases saved with
  | old => exact .inr bears
  | new _ row id _ number =>
      have put := Database.puts_appended db r.table row
      by_cases last : owner = (db.rows r.table).length
      · subst last
        exact .inl (bears.number_eq ⟨row, put.present, number⟩)
      · refine .inr (bears.congr (put.others fun same => last ?_).symm)
        exact (Prod.mk.inj same).2

theorem owner
    (there : 0 < r.id → ∃ place, db.Bears r.table r.model.primaryKey r.id place) :
    ∃ owner, db'.Bears r.table r.model.primaryKey r'.id owner := by
  cases saved with
  | old persisted => exact there persisted
  | new _ row _ _ number =>
      exact ⟨_, row, (Database.puts_appended db r.table row).present, number⟩

/-- A record has one row, which nothing else is changed by. -/
theorem exists_home (keyed : db.Keyed r.table r.model.primaryKey) (links : r.model.Links column) :
    ∃ home, (∀ {place}, place ≠ home → db'.row? (r.table, place) = db.row? (r.table, place)) ∧
      (∀ {place}, db'.Bears r.table r.model.primaryKey r'.id place → place = home) ∧
      (r' = r ∧ 0 < r.id ∧ db' = db ∨
        ¬0 < r.id ∧ db.row? (r.table, home) = none ∧ r'.Kept column db' home) := by
  have keyed' := saved.keyed keyed
  cases saved with
  | old persisted =>
      by_cases there : ∃ home, db.Bears r.table r.model.primaryKey r.id home
      · obtain ⟨home, here⟩ := there
        exact ⟨home, fun _ => rfl, fun bears => keyed.place_eq bears here, .inl ⟨rfl, persisted, rfl⟩⟩
      · exact ⟨0, fun _ => rfl, fun bears => absurd ⟨_, bears⟩ there, .inl ⟨rfl, persisted, rfl⟩⟩
  | new unsaved row id _ number _ given =>
      have put := Database.puts_appended db r.table row
      have here : (db.appended r.table row).Bears r.table r.model.primaryKey id
          (db.rows r.table).length := ⟨row, put.present, number⟩
      refine ⟨(db.rows r.table).length, ?_, fun bears => keyed'.place_eq bears here,
        .inr ⟨unsaved, List.getElem?_eq_none (le_refl _), here, ?_⟩⟩
      · intro place differ
        exact put.others fun same => differ (Prod.mk.inj same).2
      · intro _ n held
        exact ⟨row, put.present, given column n links held⟩

end

/-- Rows of two tables may be put in in either order. -/
theorem comm (apart : r.table ≠ o.table) (first : r.SavedNew db r' between)
    (second : o.SavedNew between o' db') :
    ∃ between', o.SavedNew db o' between' ∧ r.SavedNew between' r' db' := by
  cases first with
  | old persisted => exact ⟨_, second, .old persisted⟩
  | new unsaved row id positive number fresh given =>
      cases second with
      | old persisted =>
          exact ⟨_, .old persisted, .new unsaved row id positive number fresh given⟩
      | new unsaved' row' id' positive' number' fresh' given' =>
          rw [Database.rows_appended_of_ne db apart.symm] at fresh'
          rw [Database.appended_comm db apart]
          refine ⟨_, .new unsaved' row' id' positive' number' fresh' given',
            .new unsaved row id positive number ?_ given⟩
          rw [Database.rows_appended_of_ne db apart]
          exact fresh

end SavedNew

section

variable {σ : Type} [Connection σ] {engine : Engine} {output : Output} {key : String → String}
  {held : σ → Database} (law : Connection.Executes σ engine output key held) {c c' : σ}

include law

theorem savedNew_of_saveIfNew (identified : key r.table = r.model.primaryKey)
    (ran : (Linking.saveIfNew : Action (Record × σ) Unit).runOn (r, c) = (.ok (), (r', c'))) :
    r.SavedNew (held c) r' (held c') := by
  by_cases persisted : 0 < r.id
  · cases (Linking.runOn_saveIfNew_of_persisted persisted c).symm.trans ran
    exact .old persisted
  · unfold Linking.saveIfNew at ran
    rw [Action.runOn_bind_ok (Action.runOn_get (r, c))] at ran
    simp only [isPersisted, persisted, decide_false, Bool.not_false, if_true] at ran
    obtain ⟨_, _, saved, returned⟩ := Action.runOn_bind_eq_ok.mp ran
    cases returned
    obtain ⟨values, response, inserted, id, stored, executed, asked, rfl⟩ :=
      saved_eq_ok_of_new persisted (saved_of_save saved)
    have effect := law.executed _ c response inserted executed
    have report := fun row => law.reported _ c response inserted row id c' executed
    have kept := law.lastInsertId inserted
    rw [asked] at kept
    rw [show held c' = held inserted from kept]
    generalize held inserted = db' at effect report ⊢
    cases effect with
    | insert _ _ row given =>
        obtain ⟨positive, number, fresh⟩ := report row rfl asked
        rw [show key r.table = r.model.primaryKey from identified] at number fresh
        refine .new persisted row id positive number fresh fun column n links holds => ?_
        rw [given column (.int n) (stored_link links stored holds) (.inr Value.noConfusion)]
        rfl

end

/-! ## Setting a key -/

private theorem sets_of_update {engine : Engine} (numbers : engine.ComparesNumbers)
    (keyed : db.Keyed r.table r.model.primaryKey) {values : List (String × Value)}
    (distinct : (values.map Prod.fst).Nodup) {n : Int64} (member : (column, .int n) ∈ values)
    (d : Dialect) :
    db.Sets r.table r.model.primaryKey column r.id n
      (db.updated engine d (r.updateOf r.id values)) := by
  have touched (part : String × Nat) :
      part ∈ ((r.updateOf r.id values).change d).touched engine db ↔
        part.1 = r.table ∧ ∃ row, db.row? part = some row ∧
          (row.read r.model.primaryKey).number? = some r.id :=
    mem_touched_updateOf numbers keyed (List.ne_nil_of_mem member) d
  constructor
  · rintro ⟨table, place⟩ other
    have unaffected :
        (table, place) ∉ ((r.updateOf r.id values).change d).touched engine db := by
      intro inside
      obtain ⟨rfl, bears⟩ := (touched _).mp inside
      exact other ⟨rfl, bears⟩
    rw [Database.row?_updated]
    simp only [unaffected, if_false, Option.map_id']
  · rintro place ⟨row, present, number⟩
    refine ⟨row.written values, ?_, ?_⟩
    · rw [Database.row?_updated, present, Option.map_some,
        if_pos ((touched _).mpr ⟨rfl, row, present, number⟩)]
      rfl
    · rw [Row.read_written distinct, (lookup_eq_some_iff_mem distinct).mpr member]
      rfl

/-- A number that is stored in a saved record is set in its row, unless the record remembers it. -/
theorem sets_of_store {σ : Type} [Connection σ] {engine : Engine} {output : Output}
    {key : String → String} {held : σ → Database}
    (law : Connection.Executes σ engine output key held) (numbers : engine.ComparesNumbers)
    {c c' : σ} {n : Int64} (persisted : 0 < r.id) (links : r.model.Links column)
    (keyed : (held c).Keyed r.table r.model.primaryKey)
    (ran : (Linking.store column (.int n) : Action (Record × σ) Unit).runOn (r, c) =
      (.ok (), (r', c'))) :
    r'.model = r.model ∧ r'.id = r.id ∧
      (r.dirty = false ∧ r.get? column = some (.int n) ∧ held c' = held c ∨
        (held c).Sets r.table r.model.primaryKey column r.id n (held c')) := by
  obtain ⟨set, assigned, saved⟩ := of_store ran
  obtain ⟨_, assigned', model, id, holds, -, clean⟩ := assigned_link links n
  cases assigned.symm.trans assigned'
  rcases saved_eq_ok_of_persisted (id ▸ persisted) saved with
    ⟨settled, rfl, rfl⟩ | ⟨-, values, stored, rfl, sent⟩
  · obtain rfl := clean settled
    exact ⟨rfl, rfl, .inl ⟨settled, holds, rfl⟩⟩
  · refine ⟨model, id, .inr ?_⟩
    have member : (column, .int n) ∈ values := stored_link (model ▸ links) stored holds
    rcases sent with ⟨rfl, -⟩ | ⟨-, response, executed⟩
    · cases member
    · rw [updateOf_congr model id] at executed
      have effect := law.executed _ _ response _ executed
      generalize held c' = db' at effect ⊢
      cases effect
      exact sets_of_update numbers keyed (nodup_storedValues stored) member _

end Record

end RecordMapper
