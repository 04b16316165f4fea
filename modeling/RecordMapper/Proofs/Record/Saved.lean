import RecordMapper.Proofs.Database.Keyed
import RecordMapper.Proofs.Record.Stored
import RecordMapper.Record.Link

/-!
Saving a record. A record that is in step with its row stays so, and what a save changes is this one
row or a new one.
-/

set_option autoImplicit false

namespace RecordMapper

def Model.Links (m : Model) (column : String) : Prop :=
  m.fields.get? column = some .integer ∧ column ≠ m.primaryKey

def Model.reading (m : Model) (column : String) (v : Value) : Value :=
  match m.fields.get? column with
  | some type => type.fromDatabase v
  | none => v

namespace Record

/-! ## Runs of a save -/

section

variable {σ : Type} [Connection σ] {r r' : Record} {id : Int64} {values : List (String × Value)}
  {c c' : σ}

/-- What a save of values under an identifier sends, and the identifier that it gives. -/
inductive Saves (r : Record) (id : Int64) (values : List (String × Value)) (c : σ) :
    Int64 → σ → Prop where
  /-- There is nothing to write to the row. -/
  | unchanged (positive : 0 < id) (persisted : 0 < r.id) (empty : values = []) : Saves r id values c id c
  | updated {response : Response} {c' : σ} (positive : 0 < id) (filled : values ≠ [])
      (ran : (Connection.run (.update (r.updateOf id values))).runOn c = (.ok response, c'))
      (kept : 0 < response.size ∨ 0 < r.id) : Saves r id values c id c'
  /-- There is no row, and it is inserted under the identifier. -/
  | restored {response : Response} {between c' : σ} (positive : 0 < id) (unsaved : ¬0 < r.id)
      (missed : values = [] ∧ between = c ∨ values ≠ [] ∧ ∃ response,
        (Connection.run (.update (r.updateOf id values))).runOn c = (.ok response, between))
      (ran : (Connection.run (.insert
        { table := r.table, columns := (r.model.primaryKey, .int id) :: values })).runOn between =
          (.ok response, c')) : Saves r id values c id c'
  | inserted {response : Response} {between c' : σ} {given : Int64} (new : ¬0 < id)
      (ran : (Connection.run (.insert { table := r.table, columns := values })).runOn c =
        (.ok response, between))
      (reported : Connection.lastInsertId.runOn between = (.ok (some given), c')) :
      Saves r id values c given c'

private theorem insert_eq_ok_of_new {given : Int64} (new : ¬0 < id)
    (ran : (r.insert id values).runOn c = (.ok given, c')) :
    ∃ response between,
      (Connection.run (.insert { table := r.table, columns := values })).runOn c =
        (.ok response, between) ∧
      Connection.lastInsertId.runOn between = (.ok (some given), c') := by
  have plain : r.insertOf id values = { table := r.table, columns := values } := by
    simp [insertOf, new]
  unfold insert at ran
  rw [if_neg new, plain] at ran
  obtain ⟨response, between, executed, ran⟩ := Action.runOn_bind_eq_ok.mp ran
  obtain ⟨reported, _, asked, ran⟩ := Action.runOn_bind_eq_ok.mp ran
  cases reported with
  | none => cases ran
  | some id =>
      cases ran
      exact ⟨response, between, executed, asked⟩

private theorem insert_eq_ok_of_positive {given : Int64} (positive : 0 < id)
    (ran : (r.insert id values).runOn c = (.ok given, c')) :
    given = id ∧ ∃ response,
      (Connection.run (.insert
        { table := r.table, columns := (r.model.primaryKey, .int id) :: values })).runOn c =
          (.ok response, c') := by
  have whole : r.insertOf id values =
      { table := r.table, columns := (r.model.primaryKey, .int id) :: values } := by
    simp [insertOf, positive]
  unfold insert at ran
  rw [if_pos positive, whole] at ran
  obtain ⟨response, between, executed, returned⟩ := Action.runOn_bind_eq_ok.mp ran
  cases returned
  exact ⟨rfl, response, executed⟩

private theorem finish_eq_ok {updated : Bool} {between : σ}
    (ran : (do
      let id ← if updated then pure id else r.insert id values
      return { r with id, dirty := false }).runOn between = (.ok r', c')) :
    r' = { r with id := r'.id, dirty := false } ∧
      (updated = true ∧ r'.id = id ∧ c' = between ∨
        updated = false ∧ (r.insert id values).runOn between = (.ok r'.id, c')) := by
  cases updated with
  | true =>
      cases ran
      exact ⟨rfl, .inl ⟨rfl, rfl, rfl⟩⟩
  | false =>
      obtain ⟨given, _, finished, returned⟩ := Action.runOn_bind_eq_ok.mp ran
      cases returned
      exact ⟨rfl, .inr ⟨rfl, finished⟩⟩

/-- A save that succeeds either has nothing to do or writes the stored values of the record. -/
theorem saved_eq_ok (ran : (r.saved id).runOn c = (.ok r', c')) :
    (r.dirty = false ∧ id = r.id ∧ 0 < id) ∧ r' = r ∧ c' = c ∨
      ¬(r.dirty = false ∧ id = r.id ∧ 0 < id) ∧ ∃ values, r.storedValues = .ok values ∧
        r' = { r with id := r'.id, dirty := false } ∧ r.Saves id values c r'.id c' := by
  have idle : (!r.dirty && id == r.id && decide (0 < id)) = true ↔
      r.dirty = false ∧ id = r.id ∧ 0 < id := by
    simp [and_assoc]
  unfold saved at ran
  split at ran
  · rename_i nothing
    cases ran
    exact .inl ⟨idle.mp nothing, rfl, rfl⟩
  rename_i something
  refine .inr ⟨mt idle.mpr something, ?_⟩
  obtain ⟨values, _, stored, ran⟩ := Action.runOn_bind_eq_ok.mp ran
  obtain ⟨known, rfl⟩ := Prod.mk.inj ((Action.runOn_ofExcept _ _).symm.trans stored)
  refine ⟨values, known, ?_⟩
  by_cases positive : 0 < id
  · obtain ⟨updated, between, sent, ran⟩ : ∃ (updated : Bool) (between : σ),
        (values = [] ∧ between = c ∧ updated = r.isPersisted ∨ values ≠ [] ∧ ∃ response,
          (Connection.run (.update (r.updateOf id values))).runOn c = (.ok response, between) ∧
            updated = (decide (0 < response.size) || r.isPersisted)) ∧ (do
          let id ← if updated then pure id else r.insert id values
          return { r with id, dirty := false }).runOn between = (.ok r', c') := by
      cases values with
      | nil =>
          simp only [positive, if_true, pure_bind, List.isEmpty_nil] at ran
          exact ⟨_, _, .inl ⟨rfl, rfl, rfl⟩, ran⟩
      | cons first rest =>
          simp only [positive, if_true, pure_bind, List.isEmpty_cons, Bool.false_eq_true,
            if_false] at ran
          obtain ⟨response, between, executed, ran⟩ := Action.runOn_bind_eq_ok.mp ran
          exact ⟨_, between, .inr ⟨List.cons_ne_nil _ _, response, executed, rfl⟩, ran⟩
    obtain ⟨same, ⟨rfl, given, rfl⟩ | ⟨rfl, inserted⟩⟩ := finish_eq_ok ran
    · refine ⟨same, ?_⟩
      rw [given]
      rcases sent with ⟨empty, rfl, kept⟩ | ⟨filled, response, executed, kept⟩
      · exact .unchanged positive (of_decide_eq_true kept.symm) empty
      · exact .updated positive filled executed (by simpa [isPersisted] using kept.symm)
    · obtain ⟨given, response, executed⟩ := insert_eq_ok_of_positive positive inserted
      refine ⟨same, ?_⟩
      rw [given]
      rcases sent with ⟨empty, rfl, missed⟩ | ⟨filled, response, asked, missed⟩
      · exact .restored positive (of_decide_eq_false missed.symm) (.inl ⟨empty, rfl⟩) executed
      · have unsaved := (Bool.or_eq_false_iff.mp missed.symm).2
        exact .restored positive (of_decide_eq_false unsaved) (.inr ⟨filled, response, asked⟩) executed
  · simp only [positive, if_false, pure_bind] at ran
    obtain ⟨same, ⟨⟨⟩, -⟩ | ⟨-, inserted⟩⟩ := finish_eq_ok ran
    obtain ⟨response, between, ran, reported⟩ := insert_eq_ok_of_new positive inserted
    exact ⟨same, .inserted positive ran reported⟩

inductive InsertFails (r : Record) (id : Int64) (values : List (String × Value)) (c : σ) :
    Error → σ → Prop where
  | refused {e : Error} {c' : σ}
      (ran : (Connection.run (.insert (r.insertOf id values))).runOn c = (.error e, c')) :
      InsertFails r id values c e c'
  | silent {response : Response} {between c' : σ} {e : Error} (new : ¬0 < id)
      (ran : (Connection.run (.insert (r.insertOf id values))).runOn c = (.ok response, between))
      (failed : Connection.lastInsertId.runOn between = (.error e, c')) :
      InsertFails r id values c e c'
  | unreported {response : Response} {between c' : σ} (new : ¬0 < id)
      (ran : (Connection.run (.insert (r.insertOf id values))).runOn c = (.ok response, between))
      (reported : Connection.lastInsertId.runOn between = (.ok none, c')) :
      InsertFails r id values c (.of (.unknownInsertId r.table)) c'

inductive Missed (r : Record) (id : Int64) (values : List (String × Value)) (c : σ) : σ → Prop where
  | new (new : ¬0 < id) : Missed r id values c c
  | empty (positive : 0 < id) (unsaved : ¬0 < r.id) (empty : values = []) : Missed r id values c c
  | absent {response : Response} {between : σ} (positive : 0 < id) (unsaved : ¬0 < r.id)
      (ran : (Connection.run (.update (r.updateOf id values))).runOn c = (.ok response, between))
      (none : ¬0 < response.size) : Missed r id values c between

/-- How a save under an identifier fails: on a value that cannot be written, in updating the row, or
in inserting it. What it sent before stays sent. -/
inductive SaveFails (r : Record) (id : Int64) (c : σ) : Error → σ → Prop where
  | unwritable {column : String} {type : FieldType} {value : Value} {e : Error}
      (declared : r.model.fields.get? column = some type) (held : r.get? column = some value)
      (failed : type.toDatabase value = .error e) : SaveFails r id c e c
  | updating {values : List (String × Value)} {e : Error} {c' : σ}
      (stored : r.storedValues = .ok values) (positive : 0 < id)
      (failed : (Connection.run (.update (r.updateOf id values))).runOn c = (.error e, c')) :
      SaveFails r id c e c'
  | inserting {values : List (String × Value)} {between c' : σ} {e : Error}
      (stored : r.storedValues = .ok values) (missed : r.Missed id values c between)
      (failed : r.InsertFails id values between e c') : SaveFails r id c e c'

private theorem insertFails_of_insert {e : Error}
    (failed : (r.insert id values).runOn c = (.error e, c')) : r.InsertFails id values c e c' := by
  unfold insert at failed
  rcases Action.runOn_bind_eq_error.mp failed with refused | ⟨response, between, ran, failed⟩
  · exact .refused refused
  split at failed
  · cases failed
  · rename_i new
    rcases Action.runOn_bind_eq_error.mp failed with silent | ⟨reported, _, asked, failed⟩
    · exact .silent new ran silent
    · cases reported with
      | some given => cases failed
      | none =>
          cases failed
          exact .unreported new ran asked

theorem saveFails_of_saved {e : Error} (failed : (r.saved id).runOn c = (.error e, c')) :
    r.SaveFails id c e c' := by
  unfold saved at failed
  split at failed
  · cases failed
  rcases Action.runOn_bind_eq_error.mp failed with refused | ⟨values, _, stored, failed⟩
  · obtain ⟨unstored, rfl⟩ := Prod.mk.inj ((Action.runOn_ofExcept _ _).symm.trans refused)
    obtain ⟨column, type, value, declared, held, failed⟩ := exists_of_storedValues_eq_error unstored
    exact .unwritable declared held failed
  obtain ⟨known, rfl⟩ := Prod.mk.inj ((Action.runOn_ofExcept _ _).symm.trans stored)
  have finishes {updated : Bool} {between : σ} (failed : (do
      let id ← if updated then pure id else r.insert id values
      return { r with id, dirty := false }).runOn between = (.error e, c')) :
      updated = false ∧ r.InsertFails id values between e c' := by
    cases updated with
    | true => cases failed
    | false =>
        rcases Action.runOn_bind_eq_error.mp failed with inserted | ⟨_, _, _, returned⟩
        · exact ⟨rfl, insertFails_of_insert inserted⟩
        · cases returned
  by_cases positive : 0 < id
  · cases values with
    | nil =>
        simp only [positive, if_true, pure_bind, List.isEmpty_nil] at failed
        obtain ⟨unsaved, inserting⟩ := finishes failed
        exact .inserting known (.empty positive (of_decide_eq_false unsaved) rfl) inserting
    | cons first rest =>
        simp only [positive, if_true, pure_bind, List.isEmpty_cons, Bool.false_eq_true,
          if_false] at failed
        rcases Action.runOn_bind_eq_error.mp failed with refused | ⟨response, between, ran, failed⟩
        · exact .updating known positive refused
        · obtain ⟨missed, inserting⟩ := finishes failed
          obtain ⟨none, unsaved⟩ := Bool.or_eq_false_iff.mp missed
          exact .inserting known (.absent positive (of_decide_eq_false unsaved) ran
            (of_decide_eq_false none)) inserting
  · simp only [positive, if_false, pure_bind] at failed
    exact .inserting known (.new positive) (finishes failed).2

theorem saved_eq_ok_of_persisted (persisted : 0 < r.id)
    (ran : (r.saved r.id).runOn c = (.ok r', c')) :
    (r.dirty = false ∧ r' = r ∧ c' = c) ∨
      r.dirty = true ∧ ∃ values, r.storedValues = .ok values ∧ r' = { r with dirty := false } ∧
        ((values = [] ∧ c' = c) ∨ (values ≠ [] ∧ ∃ response,
          (Connection.run (.update (r.updateOf r.id values))).runOn c = (.ok response, c'))) := by
  rcases saved_eq_ok ran with ⟨⟨clean, -⟩, rfl, rfl⟩ | ⟨busy, values, stored, same, saves⟩
  · exact .inl ⟨clean, rfl, rfl⟩
  · have dirty : r.dirty = true := Bool.eq_true_of_not_eq_false fun clean =>
      busy ⟨clean, rfl, persisted⟩
    refine .inr ⟨dirty, values, stored, ?_⟩
    generalize r'.id = given at same saves
    cases saves with
    | unchanged _ _ empty => exact ⟨same, .inl ⟨empty, rfl⟩⟩
    | updated _ filled executed => exact ⟨same, .inr ⟨filled, _, executed⟩⟩
    | restored _ unsaved => exact absurd persisted unsaved
    | inserted new => exact absurd persisted new

theorem saved_eq_ok_of_new (new : ¬0 < r.id) (ran : (r.saved r.id).runOn c = (.ok r', c')) :
    ∃ values response between id, r.storedValues = .ok values ∧
      (Connection.run (.insert { table := r.table, columns := values })).runOn c =
        (.ok response, between) ∧
      Connection.lastInsertId.runOn between = (.ok (some id), c') ∧
      r' = { r with id, dirty := false } := by
  rcases saved_eq_ok ran with ⟨⟨-, -, positive⟩, -, -⟩ | ⟨-, values, stored, same, saves⟩
  · exact absurd positive new
  · generalize r'.id = given at same saves
    cases saves with
    | unchanged positive | updated positive | restored positive => exact absurd positive new
    | inserted _ executed asked => exact ⟨values, _, _, given, stored, executed, asked, same⟩

end

inductive SaveStatement (r : Record) (id : Int64) : Statement → Prop where
  | update (positive : 0 < id) (values : List (String × Value)) :
      SaveStatement r id (.update (r.updateOf id values))
  | insert (values : List (String × Value)) : SaveStatement r id (.insert (r.insertOf id values))

section

variable {σ : Type} [Connection σ] {allowed : Error → Prop} {holds : ∀ {α : Type}, Action σ α → Prop}
  (closed : Action.Closed allowed holds) (r : Record) (id : Int64)
  (runs : ∀ statement, r.SaveStatement id statement →
    holds (Connection.run statement : Action σ Response))
  (reports : holds (Connection.lastInsertId : Action σ (Option Int64)))

include closed runs reports

private theorem closed_insert (unknown : allowed (.of (.unknownInsertId r.table)))
    (values : List (String × Value)) : holds (r.insert id values : Action σ Int64) := by
  refine closed.bind (runs _ (.insert values)) fun _ => ?_
  split
  · exact closed.pure _
  · refine closed.bind reports fun reported => ?_
    cases reported with
    | none =>
        refine closed.ofExcept fun e failed => ?_
        cases failed
        exact unknown
    | some id => exact closed.pure _

/-- What holds of executing the statements of a save and of asking for identifiers holds of the
save. -/
theorem closed_saved (stored : ∀ e, r.storedValues = .error e → allowed e)
    (unknown : allowed (.of (.unknownInsertId r.table))) :
    holds (r.saved id : Action σ Record) := by
  have finishes (values : List (String × Value)) (updated : Bool) :
      holds ((do
        let id ← if updated then pure id else r.insert id values
        return { r with id, dirty := false }) : Action σ Record) := by
    cases updated with
    | true => exact closed.bind (closed.pure _) fun _ => closed.pure _
    | false =>
        exact closed.bind (closed_insert closed r id runs reports unknown _) fun _ => closed.pure _
  unfold saved
  split
  · exact closed.pure _
  · refine closed.bind (closed.ofExcept stored) fun values => ?_
    split
    · rename_i positive
      split
      · exact closed.bind (closed.pure _) fun _ =>
          closed.bind (closed.pure _) fun updated => finishes values updated
      · exact closed.bind (runs _ (.update positive values)) fun _ => closed.bind (closed.pure _)
          fun _ => closed.bind (closed.pure _) fun updated => finishes values updated
    · exact closed.bind (closed.pure _) fun updated => finishes values updated

end

/-! ## Records and their rows -/

theorem updateOf_congr {r set : Record} (model : set.model = r.model) (id : set.id = r.id)
    (values : List (String × Value)) : set.updateOf set.id values = r.updateOf r.id values := by
  rw [updateOf, updateOf, idCondition, idCondition, table, table, model, id]

/-- The rows that an update of a record is about. -/
theorem mem_touched_updateOf {engine : Engine} (numbers : engine.ComparesNumbers) {db : Database}
    {r : Record} (keyed : db.Keyed r.table r.model.primaryKey) {values : List (String × Value)}
    (assigns : values ≠ []) (d : Dialect) {part : String × Nat} :
    part ∈ ((r.updateOf r.id values).change d).touched engine db ↔
      part.1 = r.table ∧ ∃ row, db.row? part = some row ∧
        (row.read r.model.primaryKey).number? = some r.id :=
  (Update.mem_touched_change assigns d).trans (Database.mem_parts_key_iff numbers keyed)

/-- A record that is saved as a row and holds what the row holds. In some columns it may hold keys
that are still to be saved. -/
structure Stands (r : Record) (columns : List String) (db : Database) (place : Nat) (row : Row) :
    Prop where
  present : db.row? (r.table, place) = some row
  number : (row.read r.model.primaryKey).number? = some r.id
  positive : 0 < r.id
  own : ∀ {type v w}, r.model.fields.get? r.model.primaryKey = some type →
    r.get? r.model.primaryKey = some v → type.toDatabase v = .ok w → w.stored.number? = some r.id
  others : ∀ {column type v w}, column ∉ columns → r.model.fields.get? column = some type →
    r.get? column = some v → type.toDatabase v = .ok w →
      type.fromDatabase w.stored = type.fromDatabase (row.read column)
  settled : r.dirty = false → ∀ {column n}, column ∈ columns → r.get? column = some (.int n) →
    (row.read column).number? = some n

inductive Known (r : Record) (columns : List String) (db : Database) : Prop where
  | new (unsaved : ¬0 < r.id) (own : r.get? r.model.primaryKey ≠ some .null)
  | standing (place : Nat) (row : Row) (stands : r.Stands columns db place row)

/-- A record that linking can write keys into: its primary key is the key of its table, and the
columns for the keys are fields of their own. -/
structure Ready (r : Record) (key : String → String) (columns : List String) (db : Database) :
    Prop where
  identified : key r.table = r.model.primaryKey
  keyed : db.Keyed r.table r.model.primaryKey
  links : ∀ column ∈ columns, r.model.Links column
  known : r.Known columns db

section

variable {r r' : Record} {columns : List String} {db db' : Database} {place : Nat} {row : Row}

private theorem Stands.congr (stands : r.Stands columns db place row)
    (same : db'.row? (r.table, place) = db.row? (r.table, place)) :
    r.Stands columns db' place row :=
  { stands with present := same.trans stands.present }

/-- Only changes of its own table are about a record. -/
theorem Known.puts_elsewhere (known : r.Known columns db) {part : String × Nat} {row : Row}
    (put : db.Puts part row db') (elsewhere : part.1 ≠ r.table) : r.Known columns db' := by
  cases known with
  | new unsaved own => exact .new unsaved own
  | standing place row stands =>
      exact .standing place row (stands.congr (put.other_table elsewhere.symm))

theorem Ready.puts_elsewhere {key : String → String} (ready : r.Ready key columns db)
    {part : String × Nat} {row : Row} (put : db.Puts part row db') (elsewhere : part.1 ≠ r.table) :
    r.Ready key columns db' :=
  { ready with
    keyed := ready.keyed.puts_elsewhere put elsewhere
    known := ready.known.puts_elsewhere put elsewhere }

/-- A record that is as its row has it is in step with it, if the row reads the same once it is
written back. -/
theorem stands_of_hydrated (present : db.row? (r.table, place) = some row)
    (hydrated : r.hydrated row = .ok r) (positive : 0 < r.id)
    (keyed : db.Keyed r.table r.model.primaryKey)
    (own : ∀ type w, r.model.fields.get? r.model.primaryKey = some type →
      type.toDatabase (type.fromDatabase (row.read r.model.primaryKey)) = .ok w →
        w.stored.number? = some r.id)
    (links : ∀ column ∈ columns, r.model.Links column)
    (integral : ∀ column ∈ columns, row.read column = .null ∨
      ∃ n, (row.read column).number? = some n)
    (survives : ∀ column type, column ∉ columns → r.model.fields.get? column = some type →
      type.Survives (row.read column)) : r.Stands columns db place row := by
  obtain ⟨value, id, given, read, same⟩ := hydrated_eq_ok_iff.mp hydrated
  have clean : r.dirty = false := by rw [same]
  have identity : r.id = id := by rw [same]
  have fields (column : String) : r.get? column =
      (r.model.fields.get? column).bind fun type => (row.get? column).map type.fromDatabase := by
    rw [← get?_fieldsOf, get?]
    exact congrArg (fun fields => OrderedMap.get? fields column) (congrArg Record.fields same)
  have held {column : String} {type : FieldType} {v : Value}
      (field : r.model.fields.get? column = some type) (holds : r.get? column = some v) :
      v = type.fromDatabase (row.read column) := by
    rw [fields, field, Option.bind_some] at holds
    obtain ⟨x, found, rfl⟩ := Option.map_eq_some_iff.mp holds
    rw [Row.read, found]
    rfl
  have number : (row.read r.model.primaryKey).number? = some r.id := by
    obtain ⟨n, number⟩ := keyed.number present
    have value : row.read r.model.primaryKey = value := by rw [Row.read, given]; rfl
    rw [value] at number ⊢
    rw [number, identity]
    exact congrArg some (Except.ok.inj ((Value.toInt64_of_number? number).symm.trans read))
  refine ⟨present, number, positive, ?_, ?_, ?_⟩
  · intro type v w field holds written
    rw [held field holds] at written
    exact own type w field written
  · intro column type v w outside field holds written
    rw [held field holds] at written
    exact survives column type outside field w written
  · intro _ column n inside holds
    exact FieldType.number?_of_fromDatabase (integral column inside)
      (held (links column inside).1 holds).symm

/-! ## Setting a key -/

theorem eq_of_same {v w : Value} (exact' : ∀ x, w ≠ .float x) (same : v.same w = true) : v = w := by
  cases w with
  | float x => exact absurd rfl (exact' x)
  | _ =>
      cases v with
      | float x => cases same
      | _ => exact beq_iff_eq.mp same

theorem assigned_of_ne {r r' : Record} {column : String} {value : Value}
    (other : column ≠ r.model.primaryKey) (set : r.assigned column value = .ok r') :
    r'.model = r.model ∧ r'.id = r.id := by
  unfold assigned at set
  rw [if_neg other] at set
  split at set
  · cases set
  · rw [← Except.ok.inj set]
    exact ⟨(apply_ite Record.model _ _ _).trans (ite_self _),
      (apply_ite Record.id _ _ _).trans (ite_self _)⟩

theorem model_of_assigned {r r' : Record} {column : String} {value : Value}
    (set : r.assigned column value = .ok r') : r'.model = r.model := by
  by_cases key : column = r.model.primaryKey
  · unfold assigned at set
    rw [if_pos key] at set
    obtain ⟨id, _, returned⟩ := bind_eq_ok.mp set
    split at returned <;> cases returned <;> rfl
  · exact (assigned_of_ne key set).1

theorem assigned_link {column : String} (links : r.model.Links column) (n : Int64) :
    ∃ r', r.assigned column (.int n) = .ok r' ∧ r'.model = r.model ∧ r'.id = r.id ∧
      r'.get? column = some (.int n) ∧ (∀ other, other ≠ column → r'.get? other = r.get? other) ∧
      (r'.dirty = false → r' = r) := by
  obtain ⟨integer, differ⟩ := links
  unfold assigned
  rw [if_neg differ, integer]
  dsimp only
  rw [FieldType.fromDatabase_integer rfl]
  have changed {r' : Record} (fields : r' = { r with
      fields := r.fields.insert column (.int n), dirty := true }) :
      r'.model = r.model ∧ r'.id = r.id ∧ r'.get? column = some (.int n) ∧
        (∀ other, other ≠ column → r'.get? other = r.get? other) ∧ (r'.dirty = false → r' = r) := by
    subst fields
    refine ⟨rfl, rfl, OrderedMap.get?_insert_self _, ?_, fun clean => by cases clean⟩
    intro other elsewhere
    exact OrderedMap.get?_insert_of_ne elsewhere _
  cases held : r.get? column with
  | none => exact ⟨_, rfl, changed rfl⟩
  | some present =>
      dsimp only
      split
      · rename_i unchanged
        refine ⟨r, rfl, rfl, rfl, ?_, fun _ _ => rfl, fun _ => rfl⟩
        rw [held, eq_of_same (fun x => by rintro ⟨⟩) unchanged]
      · exact ⟨_, rfl, changed rfl⟩

/-- A record that is given a key stays in step with its row. -/
theorem Known.assigned {column : String} (known : r.Known columns db) (member : column ∈ columns)
    (links : r.model.Links column) {n : Int64} (set : r.assigned column (.int n) = .ok r') :
    r'.Known columns db ∧ r'.model = r.model ∧ r'.get? column = some (.int n) ∧
      ∀ other, other ≠ column → r'.get? other = r.get? other := by
  obtain ⟨_, set', model, id, held, same, clean⟩ := assigned_link links n
  rw [set] at set'
  cases set'
  refine ⟨?_, model, held, same⟩
  have own : r'.get? r.model.primaryKey = r.get? r.model.primaryKey := same _ links.2.symm
  cases known with
  | new unsaved filled =>
      refine .new (id ▸ unsaved) ?_
      rw [model, own]
      exact filled
  | standing place row stands =>
      refine .standing place row ⟨?_, ?_, ?_, ?_, ?_, ?_⟩
      · rw [table, model]
        exact stands.present
      · rw [model, id]
        exact stands.number
      · rw [id]
        exact stands.positive
      · rw [model, id, own]
        exact stands.own
      · intro other type v w outside
        rw [model, same other fun equal => outside (equal ▸ member)]
        exact stands.others outside
      · intro settled
        rw [clean settled]
        exact stands.settled (clean settled ▸ settled)

/-! ## Saving -/

private theorem reading_of_field {m : Model} {column : String} {type : FieldType}
    (field : m.fields.get? column = some type) (v : Value) :
    m.reading column v = type.fromDatabase v := by
  unfold Model.reading
  rw [field]

/-- A row reads the same when the fields of its record are written over it. -/
theorem Stands.reading_written (stands : r.Stands columns db place row)
    {values : List (String × Value)} (stored : r.storedValues = .ok values) {column : String}
    (outside : column ∉ columns) :
    r.model.reading column ((row.written values).read column) =
      r.model.reading column (row.read column) := by
  rw [Row.read_written (nodup_storedValues stored)]
  cases found : values.lookup column with
  | none => rfl
  | some w =>
      have member := (lookup_eq_some_iff_mem (nodup_storedValues stored)).mp found
      obtain ⟨type, v, field, held, written⟩ := (mem_storedValues stored).mp member
      rw [reading_of_field field, reading_of_field field]
      exact stands.others outside field held written

theorem stored_link {column : String} (links : r.model.Links column)
    {values : List (String × Value)} (stored : r.storedValues = .ok values) {n : Int64}
    (held : r.get? column = some (.int n)) : (column, .int n) ∈ values :=
  (mem_storedValues stored).mpr ⟨_, _, links.1, held, rfl⟩

end

section

variable {σ : Type} [Connection σ] {engine : Engine} {output : Output} {key : String → String}
  {held : σ → Database} (law : Connection.Executes σ engine output key held)
  {r r' : Record} {columns : List String} {c c' : σ}

include law in
/-- A save of a record that has a row changes this row alone, and the record is in step with it. -/
theorem Stands.saved (numbers : engine.ComparesNumbers)
    (links : ∀ column ∈ columns, r.model.Links column) {place : Nat} {row : Row}
    (stands : r.Stands columns (held c) place row)
    (keyed : (held c).Keyed r.table r.model.primaryKey)
    (ran : (r.saved r.id).runOn c = (.ok r', c')) :
    ∃ row', (held c).Puts (r.table, place) row' (held c') ∧
      r'.Stands columns (held c') place row' ∧ r' = { r with dirty := false } ∧
      ∀ column ∉ columns,
        r.model.reading column (row'.read column) = r.model.reading column (row.read column) := by
  rcases saved_eq_ok_of_persisted stands.positive ran with
    ⟨clean, rfl, rfl⟩ | ⟨-, values, stored, rfl, ⟨rfl, rfl⟩ | ⟨filled, response, executed⟩⟩
  · refine ⟨row, Database.puts_self stands.present, stands, ?_, fun _ _ => rfl⟩
    cases r'
    cases clean
    rfl
  · refine ⟨row, Database.puts_self stands.present, ?_, rfl, fun _ _ => rfl⟩
    refine ⟨stands.present, stands.number, stands.positive, stands.own, stands.others, ?_⟩
    intro _ column n member holds
    cases stored_link (links column member) stored holds
  · have effect := law.executed _ c response c' executed
    generalize held c' = db' at effect ⊢
    cases effect
    have put : (held c).Puts (r.table, place) (row.written values)
        ((held c).updated engine (Connection.dialect c) (r.updateOf r.id values)) := by
      refine Database.puts_updated (s := r.updateOf r.id values) stands.present fun part => ?_
      exact (mem_touched_updateOf numbers keyed filled _).trans
        (keyed.part_eq_iff stands.present stands.number)
    have written {column : String} {w : Value} (member : (column, w) ∈ values) :
        (row.written values).read column = w.stored := by
      rw [Row.read_written (nodup_storedValues stored),
        (lookup_eq_some_iff_mem (nodup_storedValues stored)).mpr member]
    refine ⟨row.written values, put, ⟨put.present, ?_, stands.positive, stands.own, ?_, ?_⟩, rfl,
      fun column => stands.reading_written stored⟩
    · change ((row.written values).read r.model.primaryKey).number? = some r.id
      rw [Row.read_written (nodup_storedValues stored)]
      cases found : values.lookup r.model.primaryKey with
      | none => exact stands.number
      | some w =>
          have member := (lookup_eq_some_iff_mem (nodup_storedValues stored)).mp found
          obtain ⟨type, v, field, holds, converted⟩ := (mem_storedValues stored).mp member
          exact stands.own field holds converted
    · intro column type v w _ field holds converted
      rw [written ((mem_storedValues stored).mpr ⟨type, v, field, holds, converted⟩)]
    · intro _ column n member holds
      rw [written (stored_link (links column member) stored holds)]
      rfl

include law in
/-- A save of a new record inserts a row, with which the record is in step. -/
theorem saved_of_unsaved (identified : key r.table = r.model.primaryKey)
    (links : ∀ column ∈ columns, r.model.Links column) (unsaved : ¬0 < r.id)
    (own : r.get? r.model.primaryKey ≠ some .null) (ran : (r.saved r.id).runOn c = (.ok r', c')) :
    ∃ row, (held c).Puts (r.table, ((held c).rows r.table).length) row (held c') ∧
      r'.Stands columns (held c') ((held c).rows r.table).length row ∧
      r' = { r with id := r'.id, dirty := false } ∧
      ∀ other ∈ (held c).rows r.table, (other.read r.model.primaryKey).number? ≠ some r'.id := by
  obtain ⟨values, response, between, id, stored, executed, asked, rfl⟩ :=
    saved_eq_ok_of_new unsaved ran
  have effect := law.executed _ c response between executed
  have report := fun row => law.reported _ c response between row id c' executed
  have kept : held c' = held between := by
    have kept := law.lastInsertId between
    rw [asked] at kept
    exact kept
  rw [kept]
  generalize held between = db' at effect report ⊢
  cases effect with
  | insert _ _ row given =>
      obtain ⟨positive, number, fresh⟩ := report row rfl asked
      rw [show key r.table = r.model.primaryKey from identified] at number fresh
      have put := Database.puts_appended (held c) r.table row
      have written {column : String} {w : Value} (member : (column, w) ∈ values)
          (filled : column ≠ r.model.primaryKey ∨ w ≠ .null) : row.read column = w.stored := by
        rw [← identified] at filled
        exact given column w member filled
      have written' {column : String} {type : FieldType} {v w : Value}
          (field : r.model.fields.get? column = some type) (holds : r.get? column = some v)
          (converted : type.toDatabase v = .ok w) : row.read column = w.stored := by
        refine written ((mem_storedValues stored).mpr ⟨type, v, field, holds, converted⟩) ?_
        by_cases key : column = r.model.primaryKey
        · right
          rintro rfl
          rw [FieldType.toDatabase_eq_null converted, key] at holds
          exact own holds
        · exact .inl key
      refine ⟨row, put, ⟨put.present, number, positive, ?_, ?_, ?_⟩, rfl, fresh⟩
      · intro type v w field holds converted
        rw [← written' field holds converted]
        exact number
      · intro column type v w _ field holds converted
        rw [written' field holds converted]
      · intro _ column n member holds
        rw [written' (links column member).1 holds rfl]
        rfl

/-- A record is saved: its row was changed, or is new, and everything else in the database stays. -/
structure SavedAs (r : Record) (columns : List String) (db : Database) (r' : Record) (db' : Database)
    (place : Nat) (row : Row) : Prop where
  model : r'.model = r.model
  put : db.Puts (r.table, place) row db'
  stands : r'.Stands columns db' place row
  reads : ∀ {old}, db.row? (r.table, place) = some old → ∀ column ∉ columns,
    r.model.reading column (row.read column) = r.model.reading column (old.read column)
  keyed : db'.Keyed r.table r.model.primaryKey

omit [Connection σ] in
theorem SavedAs.readsAs {db db' : Database} {place : Nat} {row : Row}
    (saved : r.SavedAs columns db r' db' place row) {view : String → String → Value → Value}
    {except : String → List String} (views : view r.table = r.model.reading)
    (within : columns ⊆ except r.table) : db.ReadsAs view except db' := by
  refine saved.put.readsAs fun present column outside => ?_
  rw [views]
  exact saved.reads present column fun inside => outside (within inside)

omit [Connection σ] in
theorem SavedAs.of_model {set : Record} {db db' : Database} {place : Nat} {row : Row}
    (saved : set.SavedAs columns db r' db' place row) (same : set.model = r.model) :
    r.SavedAs columns db r' db' place row := by
  have tables : set.table = r.table := congrArg Model.table same
  obtain ⟨model, put, stands, reads, keyed⟩ := saved
  rw [tables] at put reads keyed
  rw [same] at reads keyed
  exact ⟨model.trans same, put, stands, reads, keyed⟩

omit [Connection σ] in
theorem SavedAs.ready {db db' : Database} {place : Nat} {row : Row}
    (saved : r.SavedAs columns db r' db' place row) (ready : r.Ready key columns db) :
    r'.Ready key columns db' := by
  obtain ⟨identified, -, links, -⟩ := ready
  obtain ⟨model, -, stands, -, keyed⟩ := saved
  have tables : r'.table = r.table := congrArg Model.table model
  refine ⟨?_, ?_, ?_, .standing place row stands⟩
  · rw [tables, model]
    exact identified
  · rw [tables, model]
    exact keyed
  · rw [model]
    exact links

include law in
theorem Ready.saved (numbers : engine.ComparesNumbers) (ready : r.Ready key columns (held c))
    (ran : (r.saved r.id).runOn c = (.ok r', c')) :
    r'.dirty = false ∧ r'.fields = r.fields ∧
      ∃ place row, r.SavedAs columns (held c) r' (held c') place row := by
  obtain ⟨identified, keyed, links, known⟩ := ready
  cases known with
  | new unsaved own =>
      obtain ⟨row, put, stands, same, fresh⟩ :=
        saved_of_unsaved law identified links unsaved own ran
      have absent : (held c).row? (r.table, ((held c).rows r.table).length) = none :=
        List.getElem?_eq_none (le_refl _)
      refine ⟨by rw [same], by rw [same], _, row, by rw [same], put, stands, ?_, ?_⟩
      · intro old present
        rw [absent] at present
        cases present
      · have number := stands.number
        rw [show r'.model = r.model by rw [same]] at number
        refine keyed.puts put number fun _ present => ?_
        exact fresh _ (List.mem_of_getElem? present)
  | standing place row stands =>
      obtain ⟨row', put, stands', same, reads⟩ := stands.saved law numbers links keyed ran
      refine ⟨by rw [same], by rw [same], place, row', by rw [same], put, stands', ?_, ?_⟩
      · intro old present
        rw [stands.present] at present
        cases present
        exact reads
      · have number := stands'.number
        rw [show r'.model = r.model by rw [same], show r'.id = r.id by rw [same]] at number
        refine keyed.puts put number fun differ present => ?_
        exact fun again => differ (keyed.unique present stands.present again stands.number)

omit [Connection σ] in
theorem Ready.assigned {column : String} {n : Int64} {db : Database}
    (ready : r.Ready key columns db) (member : column ∈ columns)
    (set : r.assigned column (.int n) = .ok r') :
    r'.Ready key columns db ∧ r'.model = r.model ∧ r'.get? column = some (.int n) ∧
      ∀ other, other ≠ column → r'.get? other = r.get? other := by
  obtain ⟨known, model, holds, same⟩ :=
    ready.known.assigned member (ready.links column member) set
  refine ⟨⟨?_, ?_, ?_, known⟩, model, holds, same⟩
  · rw [table, model]
    exact ready.identified
  · rw [table, model]
    exact ready.keyed
  · rw [model]
    exact ready.links

/-! ## Steps of linking -/

open Linking

theorem saved_of_saveAs {id given : Int64}
    (ran : (saveAs id : Action (Record × σ) Int64).runOn (r, c) = (.ok given, (r', c'))) :
    (r.saved id).runOn c = (.ok r', c') ∧ r'.id = given := by
  unfold saveAs at ran
  rw [Action.runOn_tracked, Action.runOn_bind] at ran
  cases saved : (r.saved id).runOn c with
  | mk outcome c'' =>
      rw [saved] at ran
      cases outcome <;> cases ran
      exact ⟨rfl, rfl⟩

theorem saved_of_failed_saveAs {id : Int64} {e : Error}
    (ran : (saveAs id : Action (Record × σ) Int64).runOn (r, c) = (.error e, (r', c'))) :
    (r.saved id).runOn c = (.error e, c') ∧ r' = { r with lastError := some e } := by
  unfold saveAs at ran
  rw [Action.runOn_tracked, Action.runOn_bind] at ran
  cases saved : (r.saved id).runOn c with
  | mk outcome c'' =>
      rw [saved] at ran
      cases outcome <;> cases ran
      exact ⟨rfl, rfl⟩

theorem runOn_save (r : Record) (c : σ) :
    (save : Action (Record × σ) Int64).runOn (r, c) = (saveAs r.id).runOn (r, c) := by
  unfold save
  rw [Action.runOn_bind_ok (Action.runOn_get (r, c))]

theorem saved_of_save {id : Int64} (ran : (save : Action (Record × σ) Int64).runOn (r, c) =
    (.ok id, (r', c'))) : (r.saved r.id).runOn c = (.ok r', c') := by
  rw [runOn_save] at ran
  exact (saved_of_saveAs ran).1

omit [Connection σ] in
theorem assigned_of_setColumn {column : String} {value : Value}
    (ran : (setColumn column value : Action (Record × σ) Unit).runOn (r, c) = (.ok (), (r', c'))) :
    r.assigned column value = .ok r' ∧ c' = c := by
  have ran : (((r.set column value).1, ((r.set column value).2, c)) : Except Error Unit × Record × σ)
      = (.ok (), (r', c')) := ran
  unfold set at ran
  cases assigned : r.assigned column value with
  | error e =>
      rw [assigned] at ran
      cases ran
  | ok r'' =>
      rw [assigned] at ran
      cases ran
      exact ⟨rfl, rfl⟩

theorem of_store {column : String} {value : Value}
    (ran : (store column value : Action (Record × σ) Unit).runOn (r, c) = (.ok (), (r', c'))) :
    ∃ set, r.assigned column value = .ok set ∧ (set.saved set.id).runOn c = (.ok r', c') := by
  unfold store at ran
  obtain ⟨_, ⟨set, between⟩, first, rest⟩ := Action.runOn_bind_eq_ok.mp ran
  obtain ⟨assigned, rfl⟩ := assigned_of_setColumn first
  obtain ⟨id, _, saved, returned⟩ := Action.runOn_bind_eq_ok.mp rest
  cases returned
  exact ⟨set, assigned, saved_of_save saved⟩

section

variable (numbers : engine.ComparesNumbers) (ready : r.Ready key columns (held c))

include law numbers ready

/-- Linking saves a record that is new, and leaves any other as it is. -/
theorem savedAs_of_saveIfNew
    (ran : (saveIfNew : Action (Record × σ) Unit).runOn (r, c) = (.ok (), (r', c'))) :
    ∃ place row, r.SavedAs columns (held c) r' (held c') place row := by
  unfold saveIfNew at ran
  rw [Action.runOn_bind_ok (Action.runOn_get (r, c))] at ran
  dsimp only at ran
  split at ran
  · obtain ⟨id, _, saved, returned⟩ := Action.runOn_bind_eq_ok.mp ran
    cases returned
    exact (ready.saved law numbers (saved_of_save saved)).2.2
  · rename_i old
    cases ran
    cases ready.known with
    | new unsaved =>
        refine absurd ?_ unsaved
        simpa [isPersisted] using old
    | standing place row stands =>
        refine ⟨place, row, rfl, Database.puts_self stands.present, stands, ?_, ready.keyed⟩
        intro same present
        rw [stands.present] at present
        cases present
        exact fun _ _ => rfl

/-- A key that is stored in a record is in its row afterwards. -/
theorem savedAs_of_store {column : String} (member : column ∈ columns) {n : Int64}
    (ran : (store column (.int n) : Action (Record × σ) Unit).runOn (r, c) = (.ok (), (r', c'))) :
    ∃ place row, r.SavedAs columns (held c) r' (held c') place row ∧
      (row.read column).number? = some n ∧
      ∀ other ∈ columns, other ≠ column → ∀ m, r.get? other = some (.int m) →
        (row.read other).number? = some m := by
  obtain ⟨set, assigned, saved⟩ := of_store ran
  obtain ⟨ready', model, holds, same⟩ := ready.assigned member assigned
  obtain ⟨clean, fields, place, row, savedAs⟩ := ready'.saved law numbers saved
  have settled {other : String} (inside : other ∈ columns) {m : Int64}
      (held : set.get? other = some (.int m)) : (row.read other).number? = some m := by
    refine savedAs.stands.settled clean inside ?_
    rw [get?, fields]
    exact held
  refine ⟨place, row, savedAs.of_model model, settled member holds, ?_⟩
  intro other inside differ m held
  exact settled inside ((same other differ).trans held)

end

end

end Record

end RecordMapper
