import RecordMapper.Example.Store
import RecordMapper.Proofs.Record.Saved

/-!
What a save leaves of a record. A save under a positive identifier updates the row of that identifier,
and whether the row is inserted where there is none depends on the identifier that the record itself
has: one that was set by hand counts as saved.
-/

set_option autoImplicit false

namespace RecordMapper

/-- Connections that say of an update that it touched rows only if it did. -/
def Connection.CountsTouched (σ : Type) [Connection σ] (engine : Engine) (held : σ → Database) : Prop :=
  ∀ (s : Update) (c : σ) response c', (run (.update s)).runOn c = (.ok response, c') →
    0 < response.size → ∃ part, part ∈ (s.change (dialect c)).touched engine (held c)

private theorem Logged.countsTouched {σ : Type} [Connection σ] {engine : Engine}
    {held : σ → Database}
    (counts : Connection.CountsTouched σ engine held) :
    Connection.CountsTouched (Logged σ) engine fun c => held c.connection :=
  fun s c response _ ran => counts s c.connection response _ (run_eq_ok ran)

private theorem Memory.countsTouched {engine : Engine} {output : Output} {key : String → String} :
    Connection.CountsTouched (Memory engine output key) engine Memory.held := by
  intro s m response m' ran touched
  cases ran
  by_contra none
  have empty : (s.change m.dialect).touched engine m.held = [] :=
    List.eq_nil_iff_forall_not_mem.mpr fun part member => none ⟨part, member⟩
  rw [empty] at touched
  cases touched

namespace Record

variable {σ : Type} [Connection σ] {r r' : Record} {id : Int64} {values : List (String × Value)}
  {c c' : σ}

/-! ## What is stored -/

def HasRow (r : Record) (engine : Engine) (db : Database) (id : Int64) : Prop :=
  ∃ place row, db.row? (r.table, place) = some row ∧
    engine.compare .eq (row.read r.model.primaryKey) (.int id) = .true

def HasStored (r : Record) (engine : Engine) (db : Database) (id : Int64)
    (values : List (String × Value)) : Prop :=
  ∃ place row, db.row? (r.table, place) = some row ∧
    engine.compare .eq (row.read r.model.primaryKey) (.int id) = .true ∧
    ∀ column w, (column, w) ∈ values → row.read column = w.stored

/-- Values that leave the identifier as it is, where one of them is written to its column. -/
def LeavesId (r : Record) (engine : Engine) (id : Int64) (values : List (String × Value)) : Prop :=
  ∀ w, (r.model.primaryKey, w) ∈ values → engine.compare .eq w.stored (.int id) = .true

section

variable {engine : Engine} {db : Database}

theorem HasStored.leavesId (stored : r.HasStored engine db id values) : r.LeavesId engine id values := by
  obtain ⟨place, row, present, identified, holds⟩ := stored
  intro w member
  rw [← holds _ _ member]
  exact identified

private theorem satisfies_idCondition_single {place : Nat} {row : Row}
    (present : db.row? (r.table, place) = some row) :
    db.satisfies engine (some (r.idCondition id)) [(r.table, place)] = true ↔
      engine.compare .eq (row.read r.model.primaryKey) (.int id) = .true := by
  rw [Database.satisfies, Option.all_some, beq_iff_eq, idCondition, Expr.truth_eq, Expr.eval,
    Expr.eval, Database.value_single present]

theorem touched_updateOf_iff (filled : values ≠ []) (d : Dialect) {part : String × Nat} :
    part ∈ ((r.updateOf id values).change d).touched engine db ↔
      part.1 = r.table ∧ ∃ row, db.row? part = some row ∧
        engine.compare .eq (row.read r.model.primaryKey) (.int id) = .true := by
  rw [Update.mem_touched_change filled d]
  refine and_congr_right fun same => ?_
  obtain ⟨_, place⟩ := part
  obtain rfl : _ = r.table := same
  constructor
  · rintro ⟨parts, matched, member⟩
    obtain ⟨other, row, rfl, present, satisfied⟩ := Database.mem_matching_single.mp matched
    obtain rfl : place = other := congrArg Prod.snd (List.mem_singleton.mp member)
    exact ⟨row, present, (satisfies_idCondition_single present).mp satisfied⟩
  · rintro ⟨row, present, identified⟩
    have satisfied := (satisfies_idCondition_single present).mpr identified
    exact ⟨_, Database.mem_matching_single.mpr ⟨place, row, rfl, present, satisfied⟩,
      List.mem_singleton_self _⟩

/-- An update stores its values in the row with the identifier, if there is one. -/
theorem hasStored_updated_iff (filled : values ≠ []) (distinct : (values.map Prod.fst).Nodup)
    (d : Dialect) :
    r.HasStored engine (db.updated engine d (r.updateOf id values)) id values ↔
      r.HasRow engine db id ∧ r.LeavesId engine id values := by
  constructor
  · intro stored
    refine ⟨?_, stored.leavesId⟩
    obtain ⟨place, row, present, identified, -⟩ := stored
    rw [Database.row?_updated] at present
    obtain ⟨old, standing, rfl⟩ := Option.map_eq_some_iff.mp present
    refine ⟨place, old, standing, ?_⟩
    split at identified
    · rename_i touched
      obtain ⟨-, row, there, identified⟩ := (touched_updateOf_iff filled d).mp touched
      rw [Option.some.inj (standing.symm.trans there)]
      exact identified
    · exact identified
  · rintro ⟨⟨place, row, present, identified⟩, leaves⟩
    have touched := (touched_updateOf_iff filled d).mpr ⟨rfl, row, present, identified⟩
    refine ⟨place, row.written values, ?_, ?_, ?_⟩
    · rw [Database.row?_updated, present, Option.map_some, if_pos touched]
      rfl
    · rw [Row.read_written distinct]
      cases written : values.lookup r.model.primaryKey with
      | none => exact identified
      | some w => exact leaves w ((lookup_eq_some_iff_mem distinct).mp written)
    · intro column w member
      rw [Row.read_written distinct, (lookup_eq_some_iff_mem distinct).mpr member]

/-- A row that is inserted under an identifier stores its values. -/
theorem hasStored_appended_iff {row : Row}
    (identified : engine.compare .eq (row.read r.model.primaryKey) (.int id) = .true)
    (given : ∀ column w, (column, w) ∈ values → column ≠ r.model.primaryKey ∨ w ≠ .null →
      row.read column = w.stored) :
    r.HasStored engine (db.appended r.table row) id values ↔ r.LeavesId engine id values := by
  refine ⟨HasStored.leavesId, fun leaves => ?_⟩
  refine ⟨_, row, Database.row?_appended_last r.table row, identified, fun column w member => ?_⟩
  refine given column w member ?_
  by_cases key : column = r.model.primaryKey
  · right
    rintro rfl
    cases leaves .null (key ▸ member)
  · exact .inl key

end

section

variable {engine : Engine} {output : Output} {key : String → String} {held : σ → Database}
  {id' : Int64}

/-- A save stores the values that it writes, but where a record counts as saved that has no row, and
where one of the values is another identifier. -/
theorem hasStored_iff_of_saves (law : Connection.Executes σ engine output key held)
    (numbers : engine.ComparesNumbers) (counts : Connection.CountsTouched σ engine held)
    (own : key r.table = r.model.primaryKey) (distinct : (values.map Prod.fst).Nodup)
    (filled : values ≠ []) (saves : r.Saves id values c id' c') :
    r.HasStored engine (held c') id' values ↔
      (0 < id → 0 < r.id → r.HasRow engine (held c) id) ∧ r.LeavesId engine id' values := by
  have self (n : Int64) : engine.compare .eq (.int n) (.int n) = .true :=
    (Engine.compare_eq_true_iff numbers rfl rfl).mpr rfl
  cases saves with
  | unchanged _ _ empty => exact absurd empty filled
  | updated positive _ ran kept =>
      have executed := law.executed _ _ _ _ ran
      generalize after : held c' = db' at executed ⊢
      cases executed
      rw [hasStored_updated_iff filled distinct]
      refine and_congr_left fun _ => ⟨fun there _ _ => there, fun there => ?_⟩
      rcases kept with touched | persisted
      · obtain ⟨⟨_, place⟩, touched⟩ := counts _ _ _ _ ran touched
        obtain ⟨same, row, standing, identified⟩ := (touched_updateOf_iff filled _).mp touched
        obtain rfl : _ = r.table := same
        exact ⟨place, row, standing, identified⟩
      · exact there positive persisted
  | restored positive unsaved missed ran =>
      have executed := law.executed _ _ _ _ ran
      generalize after : held c' = db' at executed ⊢
      cases executed with
      | insert _ _ row given =>
          have key : row.read r.model.primaryKey = .int id :=
            given _ _ List.mem_cons_self (.inr nofun)
          rw [hasStored_appended_iff (key ▸ self id) fun column w member apart =>
            given column w (List.mem_cons_of_mem _ member)
              (apart.imp_left fun differ same => differ (same.trans own))]
          exact (and_iff_right fun _ persisted => absurd persisted unsaved).symm
  | @inserted response between _ _ new ran reported =>
      have executed := law.executed _ _ _ _ ran
      have kept := law.lastInsertId between
      rw [reported] at kept
      rw [kept]
      generalize after : held between = db' at executed ⊢
      cases executed with
      | insert _ _ row given =>
          obtain ⟨-, number, -⟩ := law.reported _ _ _ _ _ _ _ ran after reported
          rw [own] at number
          rw [hasStored_appended_iff ((Engine.compare_eq_true_iff numbers number rfl).mpr rfl)
            fun column w member apart => given column w member
              (apart.imp_left fun differ same => differ (same.trans own))]
          exact (and_iff_right fun positive => absurd positive new).symm

variable {c c' : Logged σ}

/-- Saving writes the values of the record's fields, all of them, under the identifier that it gives:
if the save sends anything, they are stored there, unless the record counts as saved and has no row, or
one of the fields is the primary key and holds another value. -/
theorem stored_iff_of_saveAs (law : Connection.Executes σ engine output key held)
    (numbers : engine.ComparesNumbers) (counts : Connection.CountsTouched σ engine held)
    (own : key r.table = r.model.primaryKey) (written : r.storedValues = .ok values)
    (filled : values ≠ []) (ran : (saveAs id).runOn (r, c) = (.ok id', (r', c')))
    (sent : c'.executed ≠ c.executed) :
    r.HasStored engine (held c'.connection) id' values ↔
      (0 < id → 0 < r.id → r.HasRow engine (held c.connection) id) ∧
        r.LeavesId engine id' values := by
  obtain ⟨saved, rfl⟩ := saved_of_saveAs ran
  rcases saved_eq_ok saved with ⟨-, -, rfl⟩ | ⟨-, values', written', -, saves⟩
  · exact absurd rfl sent
  · obtain rfl := Except.ok.inj (written.symm.trans written')
    have stored := hasStored_iff_of_saves (Logged.executes law) numbers
      (Logged.countsTouched counts) own (nodup_storedValues written) filled saves
    exact stored

end

end Record

/-! ## Saving a customer -/

open Example in
theorem Record.stored_iff_of_saveAs_ann :
    ∃ r' c',
      (saveAs (-1)).runOn (Shop.ann, ({ connection := Shop.store } : Logged _)) =
        (.ok 3, (r', c')) ∧
      c'.executed = ["INSERT INTO customer (name) VALUES ('Ann');"] ∧
      Shop.ann.HasStored numeric c'.connection.held 3 [("name", .text "Ann")] := by
  let c : Logged (Memory numeric output fun _ => "id") := { connection := Shop.store }
  have runs : ((saveAs (-1)).runOn (Shop.ann, c)).1 = .ok 3 ∧
      ((saveAs (-1)).runOn (Shop.ann, c)).2.2.executed =
        ["INSERT INTO customer (name) VALUES ('Ann');"] := by
    decide +kernel
  have written : Shop.ann.storedValues = .ok [("name", .text "Ann")] := by decide +kernel
  cases ran : (saveAs (-1)).runOn (Shop.ann, c) with
  | mk outcome state =>
      obtain ⟨r', c'⟩ := state
      rw [ran] at runs
      obtain ⟨rfl, executed⟩ := runs
      have sent : c'.executed ≠ c.executed := executed ▸ List.cons_ne_nil _ _
      have stored := stored_iff_of_saveAs Memory.executes comparesNumbers_numeric
        Memory.countsTouched rfl written (List.cons_ne_nil _ _) ran sent
      refine ⟨r', c', rfl, executed, stored.mpr ⟨fun positive => absurd positive (by decide), ?_⟩⟩
      intro w member
      have other : Shop.ann.model.primaryKey ≠ "name" := by decide
      exact absurd (Prod.mk.inj (List.mem_singleton.mp member)).1 other

open Example in
/-- A customer that was never saved is given an identifier and a name. Saving it updates no row and
inserts none, and gives the identifier. -/
theorem Record.set_identifier_is_not_stored :
    let saved := (do
      Linking.setColumn "id" (.int 42)
      Linking.setColumn "name" (.text "Ann")
      save).runOn (ofModel (Shop.model "customer"), ({ connection := Shop.store } : Logged _))
    saved.1 = .ok 42 ∧
      saved.2.2.executed = ["UPDATE customer SET name = 'Ann' WHERE customer.id = 42;"] ∧
      (saved.2.2.connection.held.rows "customer").map (fun row => row.read "id") =
        [.int 1, .int 2] := by
  decide +kernel

end RecordMapper
