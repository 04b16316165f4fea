import RecordMapper.Proofs.Query.Session
import RecordMapper.Proofs.Record.Saved

/-!
Operations of a record that fail. Each fails before it changes the record, wherever it fails, so that
the record only remembers the error.
-/

set_option autoImplicit false

namespace RecordMapper.Record

inductive Operation where
  | set (column : String) (value : Value)
  | bulkSet (row : Row)
  | restore (id : Int64)
  | save
  | saveAs (id : Int64)
  | destroy
  | destroyId (id : Int64)

section

variable {σ : Type} [Connection σ]

def Operation.perform : Operation → Action (Record × σ) Unit
  | .set column value => Linking.setColumn column value
  | .bulkSet row => ExceptT.mk fun (r, connection) =>
    let (outcome, r) := r.bulkSet row
    (outcome, (r, connection))
  | .restore id => do let _ ← Record.restore id
  | .save => do let _ ← Record.save
  | .saveAs id => do let _ ← Record.saveAs id
  | .destroy => do let _ ← Record.destroy
  | .destroyId id => do let _ ← Record.destroyId id

inductive Unassignable (r : Record) (column : String) (value : Value) : Error → Prop where
  | identifier {e : Error} (key : column = r.model.primaryKey) (unread : value.toInt64 = .error e) :
      Unassignable r column value e
  | undeclared (other : column ≠ r.model.primaryKey)
      (unknown : r.model.fields.get? column = none) :
      Unassignable r column value (.of (.unknownColumn (r.table ++ "." ++ column)))

inductive Unreadable (r : Record) (row : Row) : Error → Prop where
  | keyless (missing : row.get? r.model.primaryKey = none) :
      Unreadable r row (.of (.invalidStatement
        ("row for \x60" ++ r.table ++ "\x60 has no \x60" ++ r.model.primaryKey ++ "\x60 column")))
  | identifier {value : Value} {e : Error} (given : row.get? r.model.primaryKey = some value)
      (unread : value.toInt64 = .error e) : Unreadable r row e

def restoredId (r : Record) (id : Int64) : Int64 := if 0 < id then id else r.id

inductive RestoreFails (r : Record) (id : Int64) (c : σ) : Error → σ → Prop where
  | unsaved (none : r.restoredId id ≤ 0) :
      RestoreFails r id c (.of (.recordNotFound ("table=" ++ r.table ++ "; no id to restore"))) c
  | reading {e : Error} {c' : σ} (some : ¬r.restoredId id ≤ 0)
      (failed : (Connection.runQuery (r.rowQuery (r.restoredId id))).runOn c = (.error e, c')) :
      RestoreFails r id c e c'
  | missing {c' : σ} (some : ¬r.restoredId id ≤ 0)
      (ran : (Connection.runQuery (r.rowQuery (r.restoredId id))).runOn c = (.ok [], c')) :
      RestoreFails r id c (.of (.recordNotFound
        ("table=" ++ r.table ++ "; id=" ++ toString (r.restoredId id).toInt))) c'
  | unreadable {row : Row} {rows : List Row} {e : Error} {c' : σ} (some : ¬r.restoredId id ≤ 0)
      (ran : (Connection.runQuery (r.rowQuery (r.restoredId id))).runOn c = (.ok (row :: rows), c'))
      (unread : r.Unreadable row e) : RestoreFails r id c e c'

inductive DestroyFails (r : Record) (id : Int64) (c : σ) : Error → σ → Prop where
  | deleting {e : Error} {c' : σ} (positive : ¬id ≤ 0)
      (failed : (Connection.run
        (.delete { table := r.table, filter := some (r.idCondition id) })).runOn c = (.error e, c')) :
      DestroyFails r id c e c'

/-- The ways for each operation to fail, with what it has sent by then. -/
inductive Operation.Fails (r : Record) (c : σ) : Operation → Error → σ → Prop where
  | set {column : String} {value : Value} {e : Error} (fails : r.Unassignable column value e) :
      Fails r c (.set column value) e c
  | bulkSet {row : Row} {e : Error} (fails : r.Unreadable row e) : Fails r c (.bulkSet row) e c
  | restore {id : Int64} {e : Error} {c' : σ} (fails : r.RestoreFails id c e c') :
      Fails r c (.restore id) e c'
  | save {e : Error} {c' : σ} (fails : r.SaveFails r.id c e c') : Fails r c .save e c'
  | saveAs {id : Int64} {e : Error} {c' : σ} (fails : r.SaveFails id c e c') :
      Fails r c (.saveAs id) e c'
  | destroy {e : Error} {c' : σ} (fails : r.DestroyFails r.id c e c') : Fails r c .destroy e c'
  | destroyId {id : Int64} {e : Error} {c' : σ} (fails : r.DestroyFails id c e c') :
      Fails r c (.destroyId id) e c'

variable {r r' : Record} {c c' : σ} {e : Error} {id : Int64}

omit [Connection σ] in
private theorem unassignable_of_assigned {column : String} {value : Value}
    (failed : r.assigned column value = .error e) : r.Unassignable column value e := by
  unfold assigned at failed
  split at failed
  · rename_i key
    rcases bind_eq_error.mp failed with unread | ⟨_, _, returned⟩
    · exact .identifier key unread
    · cases returned
  · rename_i other
    split at failed
    · rename_i unknown
      cases failed
      exact .undeclared other unknown
    · cases failed

omit [Connection σ] in
theorem unreadable_of_hydrated {row : Row} (failed : r.hydrated row = .error e) :
    r.Unreadable row e := by
  unfold hydrated at failed
  split at failed
  · rename_i missing
    cases failed
    exact .keyless missing
  · rename_i value given
    rcases bind_eq_error.mp failed with unread | ⟨_, _, returned⟩
    · exact .identifier given unread
    · cases returned

private theorem restoreFails_of_restored (failed : (r.restored id).runOn c = (.error e, c')) :
    r.RestoreFails id c e c' := by
  unfold restored at failed
  rw [← restoredId] at failed
  dsimp only at failed
  split at failed
  · rename_i none
    cases failed
    exact .unsaved none
  · rename_i positive
    rcases Action.runOn_bind_eq_error.mp failed with refused | ⟨rows, between, ran, failed⟩
    · exact .reading positive refused
    · cases rows with
      | nil =>
          cases failed
          exact .missing positive ran
      | cons row rows =>
          obtain ⟨unread, rfl⟩ := Prod.mk.inj ((Action.runOn_ofExcept _ _).symm.trans failed)
          exact .unreadable positive ran (unreadable_of_hydrated unread)

private theorem destroyFails_of_destroyed (failed : (r.destroyed id).runOn c = (.error e, c')) :
    r.DestroyFails id c e c' := by
  unfold destroyed at failed
  split at failed
  · cases failed
  · rename_i positive
    rcases Action.runOn_bind_eq_error.mp failed with refused | ⟨_, _, _, returned⟩
    · exact .deleting positive refused
    · cases returned

omit [Connection σ] in
/-- An operation on a record that is tracked fails as it does on the record, which remembers the
error and is otherwise the same. -/
theorem of_tracked_eq_error {α : Type} {operation : Record → Action σ (α × Record)}
    {state : Record × σ}
    (failed : (do let _ ← Action.tracked operation : Action (Record × σ) Unit).runOn (r, c) =
      (.error e, state)) :
    ∃ c', (operation r).runOn c = (.error e, c') ∧ state = ({ r with lastError := some e }, c') := by
  rcases Action.runOn_bind_eq_error.mp failed with failed | ⟨_, _, _, returned⟩
  · rw [Action.runOn_tracked] at failed
    cases ran : (operation r).runOn c with
    | mk outcome c' =>
        rw [ran] at failed
        cases outcome with
        | ok answer => cases failed
        | error e' =>
            cases failed
            exact ⟨c', rfl, rfl⟩
  · cases returned

omit [Connection σ] in
/-- An operation that answers with the record it makes fails as making it does. -/
theorem of_tracked_record_eq_error {α : Type} {made : Record → Action σ Record}
    {answer : Record → α × Record} {state : Record × σ}
    (failed : (do
        let _ ← Action.tracked fun r => do return answer (← made r)
        : Action (Record × σ) Unit).runOn (r, c) = (.error e, state)) :
    ∃ c', (made r).runOn c = (.error e, c') ∧ state = ({ r with lastError := some e }, c') := by
  obtain ⟨c', failed, same⟩ := of_tracked_eq_error failed
  rcases Action.runOn_bind_eq_error.mp failed with failed | ⟨_, _, _, returned⟩
  · exact ⟨c', failed, same⟩
  · cases returned

theorem runOn_perform_save (r : Record) (c : σ) :
    (Operation.save.perform).runOn (r, c) = ((Operation.saveAs r.id).perform).runOn (r, c) := by
  unfold Operation.perform
  rw [Action.runOn_bind, Action.runOn_bind, runOn_save]

private theorem runOn_destroy (r : Record) (c : σ) :
    (destroy : Action (Record × σ) Bool).runOn (r, c) = (destroyId r.id).runOn (r, c) := by
  unfold destroy
  rw [Action.runOn_bind_ok (Action.runOn_get (r, c))]

private theorem runOn_perform_destroy (r : Record) (c : σ) :
    (Operation.destroy.perform).runOn (r, c) = ((Operation.destroyId r.id).perform).runOn (r, c) := by
  unfold Operation.perform
  rw [Action.runOn_bind, Action.runOn_bind, runOn_destroy]

/-- An operation that fails leaves the record as it was, but for the error that it remembers. -/
theorem Operation.fails_of_perform {op : Operation} {state : Record × σ}
    (failed : op.perform.runOn (r, c) = (.error e, state)) :
    ∃ c', Operation.Fails r c op e c' ∧ state = ({ r with lastError := some e }, c') := by
  cases op with
  | set column value =>
      change (((r.set column value).1, ((r.set column value).2, c)) : Except Error Unit × _) = _
        at failed
      unfold Record.set at failed
      cases assigned : r.assigned column value with
      | ok set =>
          rw [assigned] at failed
          cases failed
      | error e' =>
          rw [assigned] at failed
          cases failed
          exact ⟨c, .set (unassignable_of_assigned assigned), rfl⟩
  | bulkSet row =>
      change (((r.bulkSet row).1, ((r.bulkSet row).2, c)) : Except Error Unit × _) = _ at failed
      unfold Record.bulkSet at failed
      cases read : r.hydrated row with
      | ok read' =>
          rw [read] at failed
          cases failed
      | error e' =>
          rw [read] at failed
          cases failed
          exact ⟨c, .bulkSet (unreadable_of_hydrated read), rfl⟩
  | restore id =>
      obtain ⟨c', failed, same⟩ := of_tracked_record_eq_error failed
      exact ⟨c', .restore (restoreFails_of_restored failed), same⟩
  | save =>
      obtain ⟨c', failed, same⟩ :=
        of_tracked_record_eq_error ((runOn_perform_save r c).symm.trans failed)
      exact ⟨c', .save (saveFails_of_saved failed), same⟩
  | saveAs id =>
      obtain ⟨c', failed, same⟩ := of_tracked_record_eq_error failed
      exact ⟨c', .saveAs (saveFails_of_saved failed), same⟩
  | destroy =>
      obtain ⟨c', failed, same⟩ :=
        of_tracked_eq_error ((runOn_perform_destroy r c).symm.trans failed)
      exact ⟨c', .destroy (destroyFails_of_destroyed failed), same⟩
  | destroyId id =>
      obtain ⟨c', failed, same⟩ := of_tracked_eq_error failed
      exact ⟨c', .destroyId (destroyFails_of_destroyed failed), same⟩

/-! ## Values that cannot be written -/

/-- A save has nothing to do: the record is saved under the identifier, without changes. -/
def Idle (r : Record) (id : Int64) : Prop := r.dirty = false ∧ id = r.id ∧ 0 < id

private theorem saved_of_idle (idle : r.Idle id) (c : σ) : (r.saved id).runOn c = (.ok r, c) := by
  obtain ⟨clean, same, positive⟩ := idle
  have nothing : (!r.dirty && id == r.id && decide (0 < id)) = true := by
    simp [clean, same, same ▸ positive]
  unfold saved
  rw [if_pos nothing]
  rfl

private theorem saved_of_unwritten (busy : ¬r.Idle id) (unwritten : r.storedValues = .error e)
    (c : σ) :
    (r.saved id).runOn c = (.error e, c) := by
  have something : ¬(!r.dirty && id == r.id && decide (0 < id)) = true := by
    simpa [Idle, and_assoc] using busy
  unfold saved
  rw [if_neg something]
  exact Action.runOn_bind_error (by rw [unwritten]; rfl)

/-- A save of a record with a value that cannot be written sends nothing: it has nothing to do, or
fails on the conversion. -/
theorem perform_saveAs_of_unwritten (unwritten : r.storedValues = .error e) (id : Int64) (c : σ) :
    (r.Idle id ∧ ((Operation.saveAs id).perform).runOn (r, c) = (.ok (), (r, c))) ∨
      (¬r.Idle id ∧ ((Operation.saveAs id).perform).runOn (r, c) =
        (.error e, ({ r with lastError := some e }, c))) := by
  unfold Operation.perform saveAs
  by_cases idle : r.Idle id
  · refine .inl ⟨idle, ?_⟩
    rw [Action.runOn_bind, Action.runOn_tracked, Action.runOn_bind_ok (saved_of_idle idle c)]
    rfl
  · refine .inr ⟨idle, ?_⟩
    rw [Action.runOn_bind, Action.runOn_tracked,
      Action.runOn_bind_error (saved_of_unwritten idle unwritten c)]
    rfl

end

end RecordMapper.Record
