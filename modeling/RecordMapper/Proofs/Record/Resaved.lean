import RecordMapper.Connection.ScriptedBackend
import RecordMapper.Example.Store
import RecordMapper.Proofs.Database.Watched
import RecordMapper.Proofs.Record.Saved

/-!
Saving a record again. Once a save has succeeded, the next one sends nothing, and what is changed
later only updates the row. A row is inserted a second time only if the identifier of the first one
was not reported.
-/

set_option autoImplicit false

namespace RecordMapper

namespace Record

variable {σ : Type} [Connection σ] {r r' : Record} {id given : Int64}
  {values : List (String × Value)} {c c' : Noted σ}

/-! ## What a save notes -/

theorem surplus_of_run {statement : Statement} {outcome : Except Error Response}
    (ran : (Connection.run statement).runOn c = (outcome, c')) :
    c'.surplus = c.surplus +
      if (Note.executed (.statement statement) outcome.isOk).inserts then 1 else 0 := by
  rw [Noted.surplus_eq_of_notes (Noted.notes_of_note ran)]
  simp [Note.withholds]

theorem surplus_of_update {u : Update} {outcome : Except Error Response}
    (ran : (Connection.run (.update u)).runOn c = (outcome, c')) : c'.surplus = c.surplus := by
  simpa [Note.inserts] using surplus_of_run ran

theorem surplus_of_insert {i : Insert} {response : Response}
    (ran : (Connection.run (.insert i)).runOn c = (.ok response, c')) :
    c'.surplus = c.surplus + 1 := by
  simpa [Note.inserts, Except.isOk, Except.toBool] using surplus_of_run ran

theorem surplus_of_lastInsertId {outcome : Except Error (Option Int64)}
    (ran : Connection.lastInsertId.runOn c = (outcome, c')) :
    c'.surplus = c.surplus - if (Note.reported outcome.toOption.join).withholds then 1 else 0 := by
  rw [Noted.surplus_eq_of_notes (Noted.notes_of_note ran)]
  simp [Note.inserts]

private theorem InsertFails.surplus_eq {e : Error} (fails : r.InsertFails id values c e c') :
    c'.surplus = c.surplus := by
  cases fails with
  | refused ran => simpa [Note.inserts, Except.isOk, Except.toBool] using surplus_of_run ran
  | silent _ ran failed =>
      have inserted := surplus_of_insert ran
      have unreported := surplus_of_lastInsertId failed
      simp [Note.withholds, Except.toOption] at unreported
      omega
  | unreported _ ran reported =>
      have inserted := surplus_of_insert ran
      have unreported := surplus_of_lastInsertId reported
      simp [Note.withholds, Except.toOption] at unreported
      omega

private theorem surplus_of_failed_save {e : Error}
    (failed : (r.saved id).runOn c = (.error e, c')) :
    c'.surplus = c.surplus := by
  cases saveFails_of_saved failed with
  | unwritable => rfl
  | updating _ _ failed => exact surplus_of_update failed
  | inserting _ missed failed =>
      rw [failed.surplus_eq]
      cases missed with
      | new | empty => rfl
      | absent _ _ ran => exact surplus_of_update ran

private theorem Saves.surplus_le (saves : r.Saves id values c given c') :
    c'.surplus ≤ c.surplus + 1 := by
  cases saves with
  | unchanged => omega
  | updated _ _ ran =>
      have updated := surplus_of_update ran
      omega
  | restored _ _ missed ran =>
      have inserted := surplus_of_insert ran
      rcases missed with ⟨-, rfl⟩ | ⟨-, response, ran⟩
      · omega
      · have updated := surplus_of_update ran
        omega
  | inserted _ ran reported =>
      have inserted := surplus_of_insert ran
      have known := surplus_of_lastInsertId reported
      simp [Note.withholds, Except.toOption] at known
      omega

/-- A record that is saved already is not inserted. -/
theorem Saves.surplus_eq (saves : r.Saves id values c given c') (positive : 0 < id)
    (persisted : 0 < r.id) : c'.surplus = c.surplus := by
  cases saves with
  | unchanged => rfl
  | updated _ _ ran => exact surplus_of_update ran
  | restored _ unsaved => exact absurd persisted unsaved
  | inserted new => exact absurd positive new

/-- What is given an identifier was not refused one. -/
theorem Saves.withheld_eq (saves : r.Saves id values c given c') : c'.withheld = c.withheld := by
  have kept {statement : Statement} {outcome : Except Error Response} {c c' : Noted σ}
      (ran : (Connection.run statement).runOn c = (outcome, c')) : c'.withheld = c.withheld :=
    Noted.withheld_eq_of_notes (Noted.notes_of_note ran) rfl
  cases saves with
  | unchanged => rfl
  | updated _ _ ran => exact kept ran
  | restored _ _ missed ran =>
      rw [kept ran]
      rcases missed with ⟨-, rfl⟩ | ⟨-, response, ran⟩
      · rfl
      · exact kept ran
  | inserted _ ran reported =>
      rw [Noted.withheld_eq_of_notes (Noted.notes_of_note reported) rfl, kept ran]

private theorem Saves.positive (saves : r.Saves id values c given c')
    (fair : c'.misreported = false) :
    0 < given := by
  cases saves with
  | unchanged positive | updated positive | restored positive => exact positive
  | inserted _ _ reported =>
      unfold Noted.misreported at fair
      rw [Noted.notes_of_note reported, List.any_cons] at fair
      simpa [Note.misreports, Except.toOption] using (Bool.or_eq_false_iff.mp fair).1

/-- A save that succeeds leaves the record clean, under the identifier that it gives. -/
theorem settled_of_saved (ran : (r.saved id).runOn c = (.ok r', c'))
    (fair : c'.misreported = false) :
    0 < r'.id ∧ r'.dirty = false ∧ c'.withheld = c.withheld := by
  rcases saved_eq_ok ran with ⟨⟨clean, same, positive⟩, rfl, rfl⟩ | ⟨-, values, -, same, saves⟩
  · exact ⟨same ▸ positive, clean, rfl⟩
  · exact ⟨saves.positive fair, by rw [same], saves.withheld_eq⟩

private theorem runOn_save_of_clean {c : σ} (persisted : 0 < r.id) (clean : r.dirty = false) :
    (save : Action (Record × σ) Int64).runOn (r, c) = (.ok r.id, (r, c)) := by
  have idle : (!r.dirty && r.id == r.id && decide (0 < r.id)) = true := by
    simp [clean, persisted]
  rw [runOn_save, saveAs, Action.runOn_tracked, saved, if_pos idle]
  rfl

/-! ## Runs of changes and saves -/

inductive Edit where
  | set (column : String) (value : Value)
  | save
  | saveAs (id : Int64)

namespace Edit

/-- A change that does not give the record another identifier by hand, and that does not ask for a
new row. -/
def KeepsIdentity (m : Model) : Edit → Prop
  | .set column _ => column ≠ m.primaryKey
  | .save => True
  | .saveAs id => 0 < id

instance (m : Model) : DecidablePred (KeepsIdentity m)
  | .set _ _ => inferInstanceAs (Decidable (_ ≠ _))
  | .save => .isTrue trivial
  | .saveAs _ => inferInstanceAs (Decidable (0 < _))

def apply (edit : Edit) (state : Record × σ) : Record × σ :=
  match edit with
  | .set column value => ((Linking.setColumn column value).runOn state).2
  | .save => (Record.save.runOn state).2
  | .saveAs id => ((Record.saveAs id).runOn state).2

def applyAll (edits : List Edit) (state : Record × σ) : Record × σ :=
  edits.foldl (fun state edit => edit.apply state) state

end Edit

/-- All rows inserted for a record are without a known identifier, but for one if it is saved. -/
def Accounted (m : Model) (state : Record × Noted σ) : Prop :=
  state.1.model = m ∧ state.2.surplus ≤ if 0 < state.1.id then 1 else 0

section

variable {m : Model}

omit [Connection σ] in
private theorem Accounted.set {column : String} {value : Value} (accounted : Accounted m (r, c))
    (other : column ≠ m.primaryKey) :
    Accounted m ((Linking.setColumn column value).runOn (r, c)).2 := by
  obtain ⟨rfl, accounted⟩ := accounted
  change Accounted r.model ((r.set column value).2, c)
  unfold Record.set
  cases set : r.assigned column value with
  | error e => exact ⟨rfl, accounted⟩
  | ok r' =>
      obtain ⟨model, id⟩ := assigned_of_ne other set
      refine ⟨model, ?_⟩
      change c.surplus ≤ if 0 < r'.id then 1 else 0
      rw [id]
      exact accounted

private theorem Accounted.saveAs (accounted : Accounted m (r, c)) (known : 0 < r.id → 0 < id)
    (fair : ((Record.saveAs id).runOn (r, c)).2.2.misreported = false) :
    Accounted m ((Record.saveAs id).runOn (r, c)).2 := by
  obtain ⟨rfl, accounted⟩ := accounted
  cases ran : (Record.saveAs id).runOn (r, c) with
  | mk outcome state =>
      obtain ⟨r', c'⟩ := state
      rw [ran] at fair
      cases outcome with
      | error e =>
          obtain ⟨failed, rfl⟩ := saved_of_failed_saveAs ran
          rw [← surplus_of_failed_save failed] at accounted
          exact ⟨rfl, accounted⟩
      | ok given =>
          obtain ⟨saved, rfl⟩ := saved_of_saveAs ran
          obtain ⟨positive, -⟩ := settled_of_saved saved fair
          rcases saved_eq_ok saved with ⟨-, rfl, rfl⟩ | ⟨-, values, -, same, saves⟩
          · exact ⟨rfl, accounted⟩
          · refine ⟨by rw [same], ?_⟩
            change c'.surplus ≤ if 0 < r'.id then 1 else 0
            rw [if_pos positive]
            by_cases persisted : 0 < r.id
            · rw [saves.surplus_eq (known persisted) persisted]
              simpa [persisted] using accounted
            · have below := saves.surplus_le
              simp only [persisted, if_false] at accounted
              omega

private theorem Edit.fair_of_apply {edit : Edit} {state : Record × Noted σ}
    (fair : (edit.apply state).2.misreported = false) : state.2.misreported = false := by
  have saves (id : Int64) : (Record.saveAs id : Action (Record × Noted σ) Int64).FailsOnly
      (fun state => state.2.misreported) fun _ => True :=
    .tracked fun r => .bind (closed_saved (Action.FailsOnly.closed _ _) r id
      (fun _ _ => Noted.failsOnly_note _ _) (Noted.failsOnly_note _ _) (fun _ _ => trivial) trivial)
        fun _ => .pure _
  cases edit with
  | set column value => exact fair
  | save =>
      obtain ⟨r, c⟩ := state
      rw [Edit.apply, runOn_save] at fair
      exact (saves r.id (r, c) fair).1
  | saveAs id => exact (saves id state fair).1

private theorem Accounted.apply {edit : Edit} {state : Record × Noted σ}
    (accounted : Accounted m state)
    (keeps : edit.KeepsIdentity m) (fair : (edit.apply state).2.misreported = false) :
    Accounted m (edit.apply state) := by
  obtain ⟨r, c⟩ := state
  cases edit with
  | set column value => exact accounted.set keeps
  | save =>
      rw [Edit.apply, runOn_save] at fair ⊢
      exact accounted.saveAs (fun persisted => persisted) fair
  | saveAs id => exact accounted.saveAs (fun _ => keeps) fair

omit m in
private theorem Edit.fair_of_applyAll {edits : List Edit} {state : Record × Noted σ}
    (fair : (Edit.applyAll edits state).2.misreported = false) : state.2.misreported = false := by
  induction edits generalizing state with
  | nil => exact fair
  | cons edit edits ih => exact fair_of_apply (ih fair)

private theorem Accounted.applyAll {edits : List Edit} {state : Record × Noted σ}
    (accounted : Accounted m state) (keep : ∀ edit ∈ edits, edit.KeepsIdentity m)
    (fair : (Edit.applyAll edits state).2.misreported = false) :
    Accounted m (Edit.applyAll edits state) := by
  induction edits generalizing state with
  | nil => exact accounted
  | cons edit edits ih =>
      obtain ⟨keeps, keep⟩ := List.forall_mem_cons.mp keep
      exact ih (accounted.apply keeps (Edit.fair_of_applyAll fair)) keep fair

end

/-- A save that gives an identifier, which then was not withheld, leaves the record clean and saved
under it, so that saving it once more sends nothing. However often a record is changed and saved,
for all of its insertions but one the identifier was withheld. -/
theorem save_settles_and_inserts_once :
    (∀ call : Action (Record × Noted σ) Int64, (call = save ∨ ∃ id, call = saveAs id) →
      ∀ (r r' : Record) (c : σ) (c' : Noted σ) (id : Int64),
        call.runOn (r, { connection := c }) = (.ok id, (r', c')) → c'.misreported = false →
          r'.isPersisted = true ∧ r'.dirty = false ∧ r'.id = id ∧ c'.withheld = 0 ∧
            save.runOn (r', c') = (.ok id, (r', c'))) ∧
    ∀ (r : Record) (c : σ) (edits : List Edit), (∀ edit ∈ edits, edit.KeepsIdentity r.model) →
      (Edit.applyAll edits (r, ({ connection := c } : Noted σ))).2.misreported = false →
        (Edit.applyAll edits (r, ({ connection := c } : Noted σ))).2.insertions ≤
          (Edit.applyAll edits (r, ({ connection := c } : Noted σ))).2.withheld + 1 := by
  constructor
  · intro call saves r r' c c' id ran fair
    obtain ⟨asked, ran⟩ : ∃ asked, (saveAs asked).runOn (r, ({ connection := c } : Noted σ)) =
        (.ok id, (r', c')) := by
      rcases saves with rfl | ⟨asked, rfl⟩
      · exact ⟨r.id, (runOn_save r _).symm.trans ran⟩
      · exact ⟨asked, ran⟩
    obtain ⟨saved, rfl⟩ := saved_of_saveAs ran
    obtain ⟨positive, clean, reported⟩ := settled_of_saved saved fair
    exact ⟨decide_eq_true positive, clean, rfl, reported, runOn_save_of_clean positive clean⟩
  · intro r c edits keep fair
    have accounted : Accounted r.model (r, ({ connection := c } : Noted σ)) := by
      refine ⟨rfl, ?_⟩
      change (0 : Int) ≤ _
      split <;> decide
    obtain ⟨-, bounded⟩ := accounted.applyAll keep fair
    have most : (Edit.applyAll edits (r, ({ connection := c } : Noted σ))).2.surplus ≤ 1 :=
      bounded.trans (by split <;> decide)
    unfold Noted.surplus at most
    omega

end Record

/-! ## Saving a customer twice -/

namespace Record

open Example

def editing : List Edit := [.save, .set "name" (.text "Bea"), .save, .save]

theorem save_settles_and_inserts_once_ann :
    (∃ r' c', (save : Action (Record × Noted (Memory numeric output fun _ => "id")) Int64).runOn
        (Shop.ann, { connection := Shop.store }) = (.ok 3, (r', c')) ∧
      r'.isPersisted = true ∧ save.runOn (r', c') = (.ok 3, (r', c'))) ∧
    (Edit.applyAll editing (Shop.ann, ({ connection := Shop.store } : Noted _))).2.insertions ≤ 1 := by
  let c : Noted (Memory numeric output fun _ => "id") := { connection := Shop.store }
  have runs : (save.runOn (Shop.ann, c)).1 = .ok 3 ∧
      (save.runOn (Shop.ann, c)).2.2.misreported = false := by
    decide +kernel
  have fair : (Edit.applyAll editing (Shop.ann, c)).2.misreported = false ∧
      (Edit.applyAll editing (Shop.ann, c)).2.withheld = 0 := by
    decide +kernel
  obtain ⟨once, run⟩ :=
    @save_settles_and_inserts_once (Memory numeric output fun _ => "id") _
  have bounded := run Shop.ann Shop.store editing (by decide) fair.1
  rw [show Noted.withheld _ = 0 from fair.2] at bounded
  refine ⟨?_, bounded⟩
  cases ran : save.runOn (Shop.ann, c) with
  | mk outcome state =>
      obtain ⟨r', c'⟩ := state
      rw [ran] at runs
      obtain ⟨rfl, honest⟩ := runs
      obtain ⟨persisted, -, -, -, again⟩ := once _ (.inl rfl) _ _ _ _ _ ran honest
      exact ⟨r', c', rfl, persisted, again⟩

/-- A connection that reports no identifiers lets a record be inserted by every save, and so does
one whose identifiers are not positive. -/
theorem ann_is_inserted_twice :
    (let silent : Scripted :=
        { dialect := .postgresql, database := "shop", reportsInsertIds := false }
      let twice := Edit.applyAll [.save, .save] (Shop.ann, ({ connection := silent } : Noted _))
      twice.2.insertions = 2 ∧ twice.1.lastError = some (.of (.unknownInsertId "customer"))) ∧
    let falling : Scripted := { dialect := .postgresql, database := "shop", nextInsertId := -5 }
    let saved := save.runOn (Shop.ann, ({ connection := falling } : Noted _))
    saved.1 = .ok (-5) ∧ saved.2.1.isPersisted = false ∧
      (save.runOn saved.2).1 = .ok (-4) ∧ (save.runOn saved.2).2.2.insertions = 2 := by
  decide +kernel

end Record

end RecordMapper
