import RecordMapper.Proofs.Database.Executing

/-!
The fields of a record next to the columns of its row: what is read from a row, what a save writes
of it, and which values read the same when they have been written back.
-/

set_option autoImplicit false

namespace RecordMapper

/-! ## Values -/

namespace FieldType

theorem fromDatabase_null (type : FieldType) : type.fromDatabase .null = .null := by
  cases type <;> rfl

theorem toDatabase_eq_null {type : FieldType} {v : Value} (written : type.toDatabase v = .ok .null) :
    v = .null := by
  unfold toDatabase at written
  split at written
  · rfl
  · cases written
  · dsimp only at written
    split at written <;> cases written
  · exact Except.ok.inj written

theorem fromDatabase_integer {x : Value} {n : Int64} (read : x.toInt64 = .ok n) :
    FieldType.integer.fromDatabase x = .int n := by
  cases x with
  | null => cases read
  | _ =>
      unfold fromDatabase
      simp only [read]

theorem fromDatabase_unreadable_integer {x : Value} {e : Error} (read : x.toInt64 = .error e) :
    FieldType.integer.fromDatabase x = x := by
  cases x with
  | null => rfl
  | _ =>
      unfold fromDatabase
      simp only [read]

theorem fromDatabase_float {x : Value} {y : Binary64} (read : x.toBinary64 = .ok y) :
    FieldType.float.fromDatabase x = .float y := by
  cases x with
  | null => cases read
  | _ =>
      unfold fromDatabase
      simp only [read]

theorem fromDatabase_unreadable_float {x : Value} {e : Error} (read : x.toBinary64 = .error e) :
    FieldType.float.fromDatabase x = x := by
  cases x with
  | null => rfl
  | _ =>
      unfold fromDatabase
      simp only [read]

theorem number?_of_fromDatabase {x : Value} {n : Int64}
    (readable : x = .null ∨ ∃ m, x.number? = some m)
    (integer : FieldType.integer.fromDatabase x = .int n) : x.number? = some n := by
  rcases readable with rfl | ⟨m, number⟩
  · cases integer
  · rw [fromDatabase_integer (Value.toInt64_of_number? number)] at integer
    cases integer
    exact number

private theorem fromDatabase_fromDatabase (type : FieldType) (x : Value) :
    type.fromDatabase (type.fromDatabase x) = type.fromDatabase x := by
  cases type with
  | boolean => cases x <;> rfl
  | integer =>
      cases read : x.toInt64 with
      | ok n => rw [fromDatabase_integer read, fromDatabase_integer rfl]
      | error e => rw [fromDatabase_unreadable_integer read, fromDatabase_unreadable_integer read]
  | float =>
      cases read : x.toBinary64 with
      | ok y => rw [fromDatabase_float read, fromDatabase_float rfl]
      | error e => rw [fromDatabase_unreadable_float read, fromDatabase_unreadable_float read]
  | _ => cases x <;> rfl

/-- A value that reads the same from its column when the field has been written back. -/
def Survives (type : FieldType) (x : Value) : Prop :=
  ∀ w, type.toDatabase (type.fromDatabase x) = .ok w → type.fromDatabase w.stored = type.fromDatabase x

theorem survives_null (type : FieldType) : type.Survives .null := by
  intro w written
  rw [fromDatabase_null] at written ⊢
  cases written
  exact type.fromDatabase_null

theorem survives_boolean (x : Value) : FieldType.boolean.Survives x := by
  intro w written
  have flag (b : Bool) : FieldType.boolean.fromDatabase (.text (if b then "1" else "0")) = .bool b := by
    cases b <;> decide
  cases x with
  | null =>
      cases written
      rfl
  | _ =>
      cases written
      exact flag _

private theorem fromDatabase_text_ne_bool {type : FieldType} (other : type ≠ .boolean) (s : String)
    (b : Bool) : type.fromDatabase (.text s) ≠ .bool b := by
  cases type with
  | boolean => exact absurd rfl other
  | integer =>
      cases read : (Value.text s).toInt64 with
      | ok n =>
          rw [fromDatabase_integer read]
          rintro ⟨⟩
      | error e =>
          rw [fromDatabase_unreadable_integer read]
          rintro ⟨⟩
  | float =>
      cases read : (Value.text s).toBinary64 with
      | ok x =>
          rw [fromDatabase_float read]
          rintro ⟨⟩
      | error e =>
          rw [fromDatabase_unreadable_float read]
          rintro ⟨⟩
  | _ => rintro ⟨⟩

/-- A field that is no boolean is read again from what is held of it only if that is the field. -/
theorem fromDatabase_stored_iff {type : FieldType} (other : type ≠ .boolean) {y : Value}
    (field : type.fromDatabase y = y) : type.fromDatabase y.stored = y ↔ y.stored = y := by
  constructor
  · intro same
    cases y with
    | bool b => exact absurd same (fromDatabase_text_ne_bool other _ b)
    | float x =>
        unfold Value.stored at same ⊢
        dsimp only at same ⊢
        split at same
        · rfl
        · rw [fromDatabase_null] at same
          cases same
    | _ => rfl
  · intro same
    rw [same, field]

private theorem toDatabase_of_ne {type : FieldType} (other : type ≠ .boolean) {v : Value}
    (timeless : ∀ seconds, type = .timestamp → v ≠ .int seconds) : type.toDatabase v = .ok v := by
  unfold toDatabase
  split
  · rfl
  · exact absurd rfl other
  · exact absurd rfl (timeless _ rfl)
  · rfl

/-- Beside booleans, the values that survive are those that are held as they are read, but for the
seconds of a moment: they are written as a text. -/
theorem survives_iff {type : FieldType} (other : type ≠ .boolean) {x : Value} :
    type.Survives x ↔ (type.fromDatabase x).stored = type.fromDatabase x ∧
      ∀ seconds : Int64, type = .timestamp → x = .int seconds →
        ¬(Time.firstSecond ≤ seconds.toInt ∧ seconds.toInt ≤ Time.lastSecond) := by
  by_cases moment : ∃ seconds, type = .timestamp ∧ x = .int seconds
  · obtain ⟨seconds, rfl, rfl⟩ := moment
    have written : FieldType.timestamp.toDatabase (.int seconds) =
        if Time.firstSecond ≤ seconds.toInt ∧ seconds.toInt ≤ Time.lastSecond then
          .ok (.text (Time.momentText seconds.toInt))
        else .error (.of .momentOutOfRange) := rfl
    by_cases inside : Time.firstSecond ≤ seconds.toInt ∧ seconds.toInt ≤ Time.lastSecond
    · rw [if_pos inside] at written
      constructor
      · intro survives
        cases survives _ written
      · rintro ⟨-, outside⟩
        exact absurd inside (outside seconds rfl rfl)
    · rw [if_neg inside] at written
      constructor
      · intro _
        refine ⟨rfl, ?_⟩
        rintro _ _ ⟨⟩
        exact inside
      · intro _ w converted
        cases written.symm.trans converted
  · have timeless (seconds : Int64) (timestamp : type = .timestamp) :
        type.fromDatabase x ≠ .int seconds := by
      subst timestamp
      intro same
      refine moment ⟨seconds, rfl, ?_⟩
      rw [← same]
      cases x <;> rfl
    rw [← fromDatabase_stored_iff other (fromDatabase_fromDatabase type x), Survives,
      toDatabase_of_ne other timeless]
    constructor
    · intro survives
      exact ⟨survives _ rfl, fun seconds timestamp same => absurd ⟨seconds, timestamp, same⟩ moment⟩
    · rintro ⟨same, -⟩ w ⟨⟩
      exact same

end FieldType

/-! ## Records -/

namespace Record

theorem hydrated_eq_ok_iff {record record' : Record} {row : Row} :
    record.hydrated row = .ok record' ↔
      ∃ value id, row.get? record.model.primaryKey = some value ∧ value.toInt64 = .ok id ∧
        record' = { record with id, fields := fieldsOf record.model row, dirty := false } := by
  unfold hydrated
  cases held : row.get? record.model.primaryKey with
  | none => simp
  | some value =>
      constructor
      · intro hydrated
        obtain ⟨id, number, returned⟩ := bind_eq_ok.mp hydrated
        exact ⟨value, id, rfl, number, (Except.ok.inj returned).symm⟩
      · rintro ⟨_, id, ⟨⟩, number, rfl⟩
        exact bind_eq_ok.mpr ⟨id, number, rfl⟩

/-- The identifier that is read from a row is the number of its key, if that is one. -/
theorem number?_of_hydrated {record record' : Record} {row : Row}
    (hydrated : record.hydrated row = .ok record') {n : Int64}
    (number : (row.read record.model.primaryKey).number? = some n) :
    record'.model = record.model ∧ record'.id = n := by
  obtain ⟨value, id, held, read, rfl⟩ := hydrated_eq_ok_iff.mp hydrated
  rw [Row.read, held] at number
  exact ⟨rfl, Except.ok.inj (read.symm.trans (Value.toInt64_of_number? number))⟩

private theorem get?_foldl_fields (row : Row) {entries : List (String × FieldType)}
    (distinct : (entries.map Prod.fst).Nodup) (fields : OrderedMap Value) (column : String) :
    (entries.foldl (fun fields (column, type) =>
        match row.get? column with
        | some value => fields.insert column (type.fromDatabase value)
        | none => fields) fields).get? column =
      match (entries.lookup column).bind fun type => (row.get? column).map type.fromDatabase with
      | some value => some value
      | none => fields.get? column := by
  induction entries generalizing fields with
  | nil => rfl
  | cons first rest ih =>
      obtain ⟨name, type⟩ := first
      obtain ⟨fresh, others⟩ := List.nodup_cons.mp distinct
      rw [List.foldl_cons, ih others, List.lookup_cons]
      by_cases same : column = name
      · subst same
        rw [lookup_eq_none_of_not_mem fresh, beq_self_eq_true]
        cases held : row.get? column with
        | none => simp [held]
        | some value => simp [held, OrderedMap.get?_insert_self]
      · rw [beq_eq_false_iff_ne.mpr same]
        cases held : row.get? name with
        | none => simp [held]
        | some value => simp [held, OrderedMap.get?_insert_of_ne same]

/-- The fields of a row are its columns, read as the model says. -/
theorem get?_fieldsOf (model : Model) (row : Row) (column : String) :
    (fieldsOf model row).get? column =
      (model.fields.get? column).bind fun type => (row.get? column).map type.fromDatabase := by
  refine (get?_foldl_fields row model.fields.distinct ∅ column).trans ?_
  unfold OrderedMap.get?
  cases (model.fields.entries.lookup column).bind fun type =>
    (row.entries.lookup column).map type.fromDatabase <;> rfl

/-- The values of a list of fields, as a save writes them. -/
theorem storedFields {get? : String → Option Value} {entries : List (String × FieldType)}
    {values : List (String × Value)}
    (stored : (entries.filterMap fun (column, type) =>
        (get? column).map fun value => (column, type, value)).mapM
          (fun (column, type, value) => do return (column, ← type.toDatabase value)) =
        (.ok values : Except Error _)) :
    (values.map Prod.fst).Sublist (entries.map Prod.fst) ∧
      ∀ column w, (column, w) ∈ values ↔ ∃ type v, (column, type) ∈ entries ∧
        get? column = some v ∧ type.toDatabase v = .ok w := by
  induction entries generalizing values with
  | nil =>
      cases stored
      simp
  | cons first rest ih =>
      obtain ⟨name, type⟩ := first
      rw [List.filterMap_cons] at stored
      cases present : get? name with
      | none =>
          simp only [present, Option.map_none] at stored
          obtain ⟨sublist, members⟩ := ih stored
          refine ⟨sublist.cons _, fun column w => (members column w).trans ?_⟩
          constructor
          · rintro ⟨type', v, member, rest⟩
            exact ⟨type', v, List.mem_cons_of_mem _ member, rest⟩
          · rintro ⟨type', v, member, held, written⟩
            rcases List.mem_cons.mp member with same | member
            · cases same
              rw [present] at held
              cases held
            · exact ⟨type', v, member, held, written⟩
      | some value =>
          simp only [present, Option.map_some, List.mapM_cons] at stored
          obtain ⟨_, here, stored⟩ := bind_eq_ok.mp stored
          obtain ⟨written, converted, returned⟩ := bind_eq_ok.mp here
          obtain rfl := Except.ok.inj returned
          obtain ⟨others, later, returned⟩ := bind_eq_ok.mp stored
          obtain rfl := Except.ok.inj returned
          obtain ⟨sublist, members⟩ := ih later
          refine ⟨sublist.cons_cons _, fun column w => ?_⟩
          rw [List.mem_cons, members column w]
          constructor
          · rintro (same | ⟨type', v, member, rest⟩)
            · cases same
              exact ⟨type, value, List.mem_cons_self, present, converted⟩
            · exact ⟨type', v, List.mem_cons_of_mem _ member, rest⟩
          · rintro ⟨type', v, member, held, written'⟩
            rcases List.mem_cons.mp member with same | member
            · cases same
              rw [present] at held
              cases held
              rw [converted] at written'
              cases written'
              exact .inl rfl
            · exact .inr ⟨type', v, member, held, written'⟩

variable {r : Record} {values : List (String × Value)}

theorem nodup_storedValues (stored : r.storedValues = .ok values) :
    (values.map Prod.fst).Nodup :=
  r.model.fields.distinct.sublist (storedFields stored).1

/-- A save writes the fields of the model that have a value. -/
theorem mem_storedValues (stored : r.storedValues = .ok values) {column : String} {w : Value} :
    (column, w) ∈ values ↔ ∃ type v, r.model.fields.get? column = some type ∧
      r.get? column = some v ∧ type.toDatabase v = .ok w := by
  rw [(storedFields stored).2]
  simp only [← OrderedMap.get?_eq_some_iff_mem]

/-- The values of a record cannot be written only because one of them cannot. -/
theorem exists_of_storedValues_eq_error {e : Error} (failed : r.storedValues = .error e) :
    ∃ column type v, r.model.fields.get? column = some type ∧ r.get? column = some v ∧
      type.toDatabase v = .error e := by
  obtain ⟨⟨column, type, v⟩, member, failed⟩ := exists_of_mapM_eq_error failed
  obtain ⟨⟨_, _⟩, declared, held⟩ := List.mem_filterMap.mp member
  obtain ⟨_, held, same⟩ := Option.map_eq_some_iff.mp held
  cases same
  rcases bind_eq_error.mp failed with failed | ⟨_, _, returned⟩
  · exact ⟨column, type, v, OrderedMap.get?_eq_some_iff_mem.mpr declared, held, failed⟩
  · cases returned

theorem exists_error_of_storedValues {column : String} {type : FieldType} {v : Value} {e : Error}
    (declared : r.model.fields.get? column = some type) (held : r.get? column = some v)
    (failed : type.toDatabase v = .error e) : ∃ e', r.storedValues = .error e' := by
  cases stored : r.storedValues with
  | error e' => exact ⟨e', rfl⟩
  | ok values =>
      have member : (column, type, v) ∈ r.model.fields.entries.filterMap fun (column, type) =>
          (r.get? column).map fun value => (column, type, value) :=
        List.mem_filterMap.mpr ⟨_, OrderedMap.get?_eq_some_iff_mem.mp declared, by simp [held]⟩
      obtain ⟨_, _, written⟩ := exists_result_of_mapM_eq_ok stored member
      obtain ⟨w, converted, _⟩ := bind_eq_ok.mp written
      rw [failed] at converted
      cases converted

end Record

end RecordMapper
