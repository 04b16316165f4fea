import RecordMapper.Example.Store
import RecordMapper.Proofs.Record.Saving
import RecordMapper.Proofs.Sql.Written

/-!
Records read back from what a save writes of them. On its way a field is converted for the database,
written as a literal of the dialect, handed out as text and converted again.
-/

set_option autoImplicit false

namespace RecordMapper

open Sql

/-! ## Values -/

/-- A value as it is handed out by a protocol that has text only. -/
def Value.received : Value → Value
  | .null => .null
  | v => .text v.toText

/-- The values that a field of a type is set to, where floating numbers are left out. -/
inductive FieldType.Holds : FieldType → Value → Prop where
  | null (type : FieldType) : Holds type .null
  | integer (n : Int64) : Holds .integer (.int n)
  | boolean (b : Bool) : Holds .boolean (.bool b)
  | text {type : FieldType} (s : String) (textual : type ∉ [.integer, .boolean, .float]) :
      Holds type (.text s)

theorem FieldType.Holds.exists_written {type : FieldType} {v : Value} (holds : type.Holds v) :
    ∃ w, type.toDatabase v = .ok w ∧ IsPlain w ∧ type.fromDatabase w.received = v := by
  cases holds with
  | null => exact ⟨.null, by cases type <;> rfl, .null, type.fromDatabase_null⟩
  | integer n =>
      have read := Value.toInt64_text_toString n
      exact ⟨.int n, rfl, .int n, fromDatabase_integer read⟩
  | boolean b => exact ⟨_, rfl, .text _, by cases b <;> decide⟩
  | text s textual =>
      refine ⟨.text s, ?_, .text s, ?_⟩
      · cases type <;> simp at textual <;> rfl
      · cases type <;> simp at textual <;> rfl

/-! ## Rows -/

def Row.received (columns : List (String × Value)) : Row :=
  .ofList (columns.map fun (column, v) => (column, v.received))

private theorem Row.get?_received_eq_some_iff {columns : List (String × Value)} {column : String}
    (agree : ∀ {v w}, (column, v) ∈ columns → (column, w) ∈ columns → v = w) {x : Value} :
    (Row.received columns).get? column = some x ↔ ∃ v, (column, v) ∈ columns ∧ v.received = x := by
  have mem_received {y : Value} :
      (column, y) ∈ columns.map (fun (column, v) => (column, v.received)) ↔
        ∃ v, (column, v) ∈ columns ∧ v.received = y := by
    simp
  rw [Row.received, OrderedMap.get?_ofList_eq_some_iff, mem_received]
  intro y z first second
  obtain ⟨v, here, rfl⟩ := mem_received.mp first
  obtain ⟨w, there, rfl⟩ := mem_received.mp second
  rw [agree here there]

namespace Record

variable {r : Record} {id : Int64} {values : List (String × Value)}

def Typed (r : Record) : Prop :=
  ∀ column v, r.get? column = some v → ∃ type, r.model.fields.get? column = some type ∧ type.Holds v

/-- A text from which the record is read back under an identifier: the columns that it writes and the
identifier make a row, and the row gives a new record the same fields. -/
def ReadsBack (r : Record) (d : Dialect) (id : Int64) (sql : String) : Prop :=
  ∃ written restored, readWritten d r.table sql = some written ∧
    (ofModel r.model).bulkSet (Row.received ((r.model.primaryKey, .int id) :: written)) =
      (.ok (), restored) ∧
    restored.id = id ∧ restored.dirty = false ∧ ∀ column, restored.get? column = r.get? column

theorem Typed.isPlain (typed : r.Typed) (stored : r.storedValues = .ok values) :
    ∀ cell ∈ values, IsPlain cell.2 := by
  rintro ⟨column, w⟩ member
  obtain ⟨type, v, field, held, written⟩ := (mem_storedValues stored).mp member
  obtain ⟨type', declared, holds⟩ := typed column v held
  obtain rfl := Option.some.inj (field.symm.trans declared)
  obtain ⟨w', written', plain, -⟩ := holds.exists_written
  obtain rfl := Except.ok.inj (written.symm.trans written')
  exact plain

theorem Typed.exists_stored (typed : r.Typed) (stored : r.storedValues = .ok values) {column : String}
    {v : Value} (held : r.get? column = some v) :
    ∃ type w, r.model.fields.get? column = some type ∧ (column, w) ∈ values ∧
      type.fromDatabase w.received = v := by
  obtain ⟨type, declared, holds⟩ := typed column v held
  obtain ⟨w, written, -, back⟩ := holds.exists_written
  exact ⟨type, w, declared, (mem_storedValues stored).mpr ⟨type, v, declared, held, written⟩, back⟩

section

variable (keyless : r.model.fields.get? r.model.primaryKey = none)
  (stored : r.storedValues = .ok values)

include keyless stored

private theorem primaryKey_notMem_storedValues {w : Value} : (r.model.primaryKey, w) ∉ values := by
  intro member
  obtain ⟨type, v, field, -⟩ := (mem_storedValues stored).mp member
  rw [keyless] at field
  cases field

/-- A row of an identifier and the stored values holds these and nothing else, in whatever order they
are written and however often the identifier is. -/
theorem get?_received_iff {written : List (String × Value)}
    (within : written ⊆ (r.model.primaryKey, .int id) :: values) (whole : values ⊆ written)
    (column : String) (x : Value) :
    (Row.received ((r.model.primaryKey, .int id) :: written)).get? column = some x ↔
      (column = r.model.primaryKey ∧ .text (toString id.toInt) = x) ∨
        ∃ w, (column, w) ∈ values ∧ w.received = x := by
  have absent {w : Value} : (r.model.primaryKey, w) ∉ values :=
    primaryKey_notMem_storedValues keyless stored
  have sorts {w : Value} : (column, w) ∈ (r.model.primaryKey, .int id) :: written ↔
      (column = r.model.primaryKey ∧ w = .int id) ∨ (column, w) ∈ values := by
    rw [← Prod.mk.injEq]
    constructor
    · intro member
      exact List.mem_cons.mp (List.cons_subset.mpr ⟨List.mem_cons_self, within⟩ member)
    · intro sorted
      exact List.mem_cons.mpr (sorted.imp_right fun member => whole member)
  rw [Row.get?_received_eq_some_iff]
  · constructor
    · rintro ⟨w, member, rfl⟩
      rcases sorts.mp member with ⟨same, rfl⟩ | member
      · exact .inl ⟨same, rfl⟩
      · exact .inr ⟨w, member, rfl⟩
    · rintro (⟨same, rfl⟩ | ⟨w, member, rfl⟩)
      · exact ⟨.int id, sorts.mpr (.inl ⟨same, rfl⟩), rfl⟩
      · exact ⟨w, sorts.mpr (.inr member), rfl⟩
  · intro v w first second
    rcases sorts.mp first with ⟨rfl, rfl⟩ | first
    · rcases sorts.mp second with ⟨-, rfl⟩ | second
      · rfl
      · exact absurd second absent
    · rcases sorts.mp second with ⟨rfl, rfl⟩ | second
      · exact absurd first absent
      · have distinct := nodup_storedValues stored
        have found := (lookup_eq_some_iff_mem distinct).mpr first
        exact Option.some.inj (found.symm.trans ((lookup_eq_some_iff_mem distinct).mpr second))

variable (typed : r.Typed)

include typed

private theorem get?_fieldsOf_received {written : List (String × Value)}
    (within : written ⊆ (r.model.primaryKey, .int id) :: values) (whole : values ⊆ written)
    (column : String) :
    (fieldsOf r.model (Row.received ((r.model.primaryKey, .int id) :: written))).get? column =
      r.get? column := by
  have received := get?_received_iff keyless stored within whole column
  rw [get?_fieldsOf]
  cases held : r.get? column with
  | some v =>
      obtain ⟨type, w, declared, member, back⟩ := typed.exists_stored stored held
      rw [declared, (received _).mpr (.inr ⟨w, member, rfl⟩)]
      exact congrArg some back
  | none =>
      cases declared : r.model.fields.get? column with
      | none => rfl
      | some type =>
          have absent : (Row.received ((r.model.primaryKey, .int id) :: written)).get? column =
              none := by
            rw [Option.eq_none_iff_forall_ne_some]
            intro x read
            rcases (received x).mp read with ⟨rfl, -⟩ | ⟨w, member, -⟩
            · rw [keyless] at declared
              cases declared
            · obtain ⟨_, v, -, present, -⟩ := (mem_storedValues stored).mp member
              rw [held] at present
              cases present
          rw [absent]
          rfl

theorem readsBack_of_readWritten {d : Dialect} {sql : String} {written : List (String × Value)}
    (read : readWritten d r.table sql = some written)
    (within : written ⊆ (r.model.primaryKey, .int id) :: values) (whole : values ⊆ written) :
    r.ReadsBack d id sql := by
  let row := Row.received ((r.model.primaryKey, .int id) :: written)
  have key : row.get? r.model.primaryKey = some (.text (toString id.toInt)) :=
    (get?_received_iff keyless stored within whole _ _).mpr (.inl ⟨rfl, rfl⟩)
  let restored := { ofModel r.model with id, fields := fieldsOf r.model row }
  have hydrated : (ofModel r.model).hydrated row = .ok restored :=
    hydrated_eq_ok_iff.mpr ⟨_, id, key, Value.toInt64_text_toString id, rfl⟩
  have fields := get?_fieldsOf_received keyless stored typed within whole
  refine ⟨written, restored, read, ?_, rfl, rfl, fields⟩
  rw [bulkSet, hydrated]
  rfl

private theorem readsBack_update (id : Int64) (d : Dialect) :
    r.ReadsBack d id ((Statement.update (r.updateOf id values)).render d) := by
  refine readsBack_of_readWritten keyless stored typed
    (Update.readWritten_render rfl rfl rfl (typed.isPlain stored) (.int id)) ?_ ?_
  · intro cell member
    exact List.mem_cons.mpr ((List.mem_append.mp member).symm.imp_left List.mem_singleton.mp)
  · exact List.subset_append_left _ _

private theorem readsBack_insert (id : Int64) (d : Dialect) :
    r.ReadsBack d id
      ((Statement.insert { table := r.table, columns := values }).render d) :=
  readsBack_of_readWritten keyless stored typed
    (Insert.readWritten_render rfl (typed.isPlain stored)) (List.subset_cons_self _ _)
    (List.Subset.refl _)

private theorem readsBack_insert_identified (id : Int64) (d : Dialect) :
    r.ReadsBack d id ((Statement.insert
      { table := r.table, columns := (r.model.primaryKey, .int id) :: values }).render d) := by
  refine readsBack_of_readWritten keyless stored typed
    (Insert.readWritten_render rfl ?_) (List.Subset.refl _) (List.subset_cons_self _ _)
  exact List.forall_mem_cons.mpr ⟨.int id, typed.isPlain stored⟩

end

/-! ## Saving -/

variable {σ : Type} [Connection σ] {c c' : Logged σ} {r' : Record} {id' : Int64}

/-- What a save of a record writes gives back the record when it is read: each text that is sent, an
insertion or an update, has the fields and the identifier that are saved. A save sends one unless
there is nothing to save. -/
theorem readsBack_of_saveAs
    (steady : ∀ statement, (Connection.run statement : Action σ Response).Keeps Connection.dialect)
    (keyless : r.model.fields.get? r.model.primaryKey = none) (typed : r.Typed)
    (ran : (saveAs id).runOn (r, c) = (.ok id', (r', c'))) :
    ∃ sent, c'.executed = sent ++ c.executed ∧
      (sent = [] → r.dirty = false ∨ ∀ column, r.get? column = none) ∧
      ∀ sql ∈ sent, r.ReadsBack (Connection.dialect c) id' sql := by
  obtain ⟨saved, rfl⟩ := saved_of_saveAs ran
  rcases saved_eq_ok saved with ⟨⟨clean, -⟩, -, rfl⟩ | ⟨-, values, stored, -, saves⟩
  · exact ⟨[], rfl, fun _ => .inl clean, nofun⟩
  generalize r'.id = id' at saves ⊢
  have updates := readsBack_update keyless stored typed id (Connection.dialect c)
  cases saves with
  | unchanged positive persisted empty =>
      refine ⟨[], rfl, fun _ => .inr fun column => ?_, nofun⟩
      rw [Option.eq_none_iff_forall_ne_some]
      intro v held
      obtain ⟨type, w, -, member, -⟩ := typed.exists_stored stored held
      rw [empty] at member
      cases member
  | updated _ _ executed =>
      have sent := Logged.executed_of_run executed
      exact ⟨[_], sent, nofun, List.forall_mem_singleton.mpr updates⟩
  | restored _ _ missed executed =>
      have inserts := readsBack_insert_identified keyless stored typed id (Connection.dialect c)
      have sent := Logged.executed_of_run executed
      rcases missed with ⟨-, rfl⟩ | ⟨-, response, missed⟩
      · exact ⟨[_], sent, nofun, List.forall_mem_singleton.mpr inserts⟩
      · rw [Logged.executed_of_run missed, Logged.dialect_of_run (steady _) missed] at sent
        refine ⟨[_, _], sent, nofun, List.forall_mem_cons.mpr ⟨inserts, ?_⟩⟩
        exact List.forall_mem_singleton.mpr updates
  | inserted _ executed reported =>
      have inserts := readsBack_insert keyless stored typed id' (Connection.dialect c)
      have sent := Logged.executed_of_lastInsertId reported
      rw [Logged.executed_of_run executed] at sent
      exact ⟨[_], sent, nofun, List.forall_mem_singleton.mpr inserts⟩

end Record

/-! ## Saving a note -/

def Example.note : Record where
  model := { table := "note", fields := .ofList [("title", .text), ("rank", .integer),
    ("seen", .boolean), ("seen_at", .timestamp)] }
  id := -1
  fields := .ofList [("title", .text "it's\\ \"\n"), ("rank", .int Int64.minValue),
    ("seen", .bool true), ("seen_at", .null)]
  dirty := true
  lastError := none

private theorem Example.typed_note : note.Typed := by
  intro column v held
  have entries : note.fields.entries = [("title", .text "it's\\ \"\n"), ("rank", .int Int64.minValue),
      ("seen", .bool true), ("seen_at", .null)] := by
    decide
  have member := OrderedMap.get?_eq_some_iff_mem.mp held
  simp only [entries, List.mem_cons, Prod.mk.injEq, List.not_mem_nil, or_false] at member
  rcases member with ⟨rfl, rfl⟩ | ⟨rfl, rfl⟩ | ⟨rfl, rfl⟩ | ⟨rfl, rfl⟩
  · exact ⟨.text, by decide, .text _ (by decide)⟩
  · exact ⟨.integer, by decide, .integer _⟩
  · exact ⟨.boolean, by decide, .boolean _⟩
  · exact ⟨.timestamp, by decide, .null _⟩

open Example in
theorem Record.readsBack_of_saveAs_note :
    let c : Logged (Memory numeric output fun _ => "id") :=
      { connection := { Shop.store with dialect := .mysql } }
    ∃ r' c', (saveAs 5).runOn (note, c) = (.ok 5, (r', c')) ∧
      c'.executed = [
        "INSERT INTO note (id, title, \x60rank\x60, seen, seen_at) VALUES " ++
          "(5, 'it\\'s\\\\ \\\"\\n', -9223372036854775808, '1', NULL);",
        "UPDATE note SET note.title = 'it\\'s\\\\ \\\"\\n', " ++
          "note.\x60rank\x60 = -9223372036854775808, note.seen = '1', note.seen_at = NULL " ++
          "WHERE note.id = 5;"] ∧
      ∀ sql ∈ c'.executed, note.ReadsBack .mysql 5 sql := by
  intro c
  have runs : ((saveAs 5).runOn (note, c)).1 = .ok 5 ∧
      ((saveAs 5).runOn (note, c)).2.2.executed = [
        "INSERT INTO note (id, title, \x60rank\x60, seen, seen_at) VALUES " ++
          "(5, 'it\\'s\\\\ \\\"\\n', -9223372036854775808, '1', NULL);",
        "UPDATE note SET note.title = 'it\\'s\\\\ \\\"\\n', " ++
          "note.\x60rank\x60 = -9223372036854775808, note.seen = '1', note.seen_at = NULL " ++
          "WHERE note.id = 5;"] := by
    decide +kernel
  cases ran : (saveAs 5).runOn (note, c) with
  | mk outcome state =>
      obtain ⟨r', c'⟩ := state
      rw [ran] at runs
      obtain ⟨rfl, executed⟩ := runs
      obtain ⟨sent, whole, -, back⟩ :=
        readsBack_of_saveAs Memory.keeps_dialect (by decide) Example.typed_note ran
      rw [List.append_nil] at whole
      exact ⟨r', c', rfl, executed, whole ▸ back⟩

end RecordMapper
