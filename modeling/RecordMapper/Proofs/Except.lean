import Mathlib.Data.List.Forall2

/-!
Steps that may fail, one after the other.
-/

set_option autoImplicit false

namespace RecordMapper

variable {ε α β : Type}

theorem bind_eq_ok {step : Except ε α} {next : α → Except ε β} {result : β} :
    step >>= next = .ok result ↔ ∃ value, step = .ok value ∧ next value = .ok result := by
  cases step with
  | error e => simp [bind, Except.bind]
  | ok value => simp [bind, Except.bind]

theorem bind_eq_error {step : Except ε α} {next : α → Except ε β} {e : ε} :
    step >>= next = .error e ↔
      step = .error e ∨ ∃ value, step = .ok value ∧ next value = .error e := by
  cases step with
  | error e' => simp [bind, Except.bind]
  | ok value => simp [bind, Except.bind]

theorem toOption_eq_some {outcome : Except ε α} {value : α} :
    outcome.toOption = some value ↔ outcome = .ok value := by
  cases outcome <;> simp [Except.toOption]

theorem forall₂_of_mapM_eq_ok {f : α → Except ε β} {items : List α} {results : List β}
    (ran : items.mapM f = .ok results) :
    List.Forall₂ (fun item result => f item = .ok result) items results := by
  induction items generalizing results with
  | nil =>
      cases ran
      exact .nil
  | cons item items ih =>
      rw [List.mapM_cons] at ran
      obtain ⟨first, done, ran⟩ := bind_eq_ok.mp ran
      obtain ⟨others, rest, returned⟩ := bind_eq_ok.mp ran
      cases returned
      exact .cons done (ih rest)

theorem exists_of_forall₂ {R : α → β → Prop} {items : List α} {results : List β}
    (each : List.Forall₂ R items results) {result : β} (member : result ∈ results) :
    ∃ item ∈ items, R item result := by
  induction each with
  | nil => cases member
  | @cons item _ _ _ done _ ih =>
      rcases List.mem_cons.mp member with rfl | later
      · exact ⟨item, List.mem_cons_self, done⟩
      · obtain ⟨found, inside, done⟩ := ih later
        exact ⟨found, List.mem_cons_of_mem _ inside, done⟩

theorem exists_of_mapM_eq_ok {f : α → Except ε β} {items : List α} {results : List β}
    (ran : items.mapM f = .ok results) {result : β} (member : result ∈ results) :
    ∃ item ∈ items, f item = .ok result :=
  exists_of_forall₂ (forall₂_of_mapM_eq_ok ran) member

theorem exists_result_of_mapM_eq_ok {f : α → Except ε β} {items : List α} {results : List β}
    (ran : items.mapM f = .ok results) {item : α} (member : item ∈ items) :
    ∃ result ∈ results, f item = .ok result :=
  exists_of_forall₂ (forall₂_of_mapM_eq_ok ran).flip member

theorem exists_of_mapM_eq_error {f : α → Except ε β} {items : List α} {e : ε}
    (failed : items.mapM f = .error e) : ∃ item ∈ items, f item = .error e := by
  induction items with
  | nil => cases failed
  | cons item items ih =>
      rw [List.mapM_cons] at failed
      rcases bind_eq_error.mp failed with first | ⟨_, -, failed⟩
      · exact ⟨item, List.mem_cons_self, first⟩
      · rcases bind_eq_error.mp failed with others | ⟨_, -, returned⟩
        · obtain ⟨found, inside, done⟩ := ih others
          exact ⟨found, List.mem_cons_of_mem _ inside, done⟩
        · cases returned

/-- Steps that succeed or fail whatever came before them succeed together when each does. -/
theorem exists_foldlM_eq_ok {f : β → α → Except ε β} {Succeeds : α → Prop}
    (steps : ∀ state item, (∃ state', f state item = .ok state') ↔ Succeeds item) (items : List α)
    (state : β) :
    (∃ state', items.foldlM f state = .ok state') ↔ ∀ item ∈ items, Succeeds item := by
  induction items generalizing state with
  | nil =>
      constructor
      · intro _ item member
        cases member
      · intro _
        exact ⟨state, rfl⟩
  | cons item items ih =>
      rw [List.forall_mem_cons, ← steps state item]
      constructor
      · rintro ⟨state', ran⟩
        rw [List.foldlM_cons] at ran
        obtain ⟨next, first, rest⟩ := bind_eq_ok.mp ran
        exact ⟨⟨next, first⟩, (ih next).mp ⟨state', rest⟩⟩
      · rintro ⟨⟨next, first⟩, others⟩
        obtain ⟨state', rest⟩ := (ih next).mpr others
        exact ⟨state', by rw [List.foldlM_cons]; exact bind_eq_ok.mpr ⟨next, first, rest⟩⟩

end RecordMapper
