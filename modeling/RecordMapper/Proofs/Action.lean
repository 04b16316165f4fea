import RecordMapper.Connection.Basic

/-!
Running operations step by step.
-/

set_option autoImplicit false

namespace RecordMapper.Action

variable {σ α β : Type}

@[simp] theorem runOn_ofExcept (outcome : Except Error α) (s : σ) :
    (ofExcept outcome).runOn s = (outcome, s) := rfl

theorem runOn_get (s : σ) : (get : Action σ σ).runOn s = (.ok s, s) := rfl

theorem runOn_bind (step : Action σ α) (next : α → Action σ β) (s : σ) :
    (step >>= next).runOn s =
      match step.runOn s with
      | (.ok a, s) => (next a).runOn s
      | (.error e, s) => (.error e, s) := by
  unfold runOn
  change (do let outcome ← step.run; ExceptT.bindCont next outcome).run s = _
  simp only [StateT.run, bind, StateT.bind]
  cases step.run s with
  | mk outcome s => cases outcome <;> rfl

theorem runOn_bind_ok {step : Action σ α} {next : α → Action σ β} {s s' : σ} {a : α}
    (ran : step.runOn s = (.ok a, s')) : (step >>= next).runOn s = (next a).runOn s' := by
  rw [runOn_bind, ran]

theorem runOn_bind_error {step : Action σ α} {next : α → Action σ β} {s s' : σ} {e : Error}
    (ran : step.runOn s = (.error e, s')) : (step >>= next).runOn s = (.error e, s') := by
  rw [runOn_bind, ran]

theorem runOn_bind_eq_ok {step : Action σ α} {next : α → Action σ β} {s s'' : σ} {b : β} :
    (step >>= next).runOn s = (.ok b, s'') ↔
      ∃ a s', step.runOn s = (.ok a, s') ∧ (next a).runOn s' = (.ok b, s'') := by
  rw [runOn_bind]
  constructor
  · intro ran
    split at ran
    · rename_i a s' first
      exact ⟨a, s', first, ran⟩
    · cases ran
  · rintro ⟨a, s', first, second⟩
    rw [first]
    exact second

theorem runOn_bind_eq_error {step : Action σ α} {next : α → Action σ β} {s s'' : σ} {e : Error} :
    (step >>= next).runOn s = (.error e, s'') ↔
      step.runOn s = (.error e, s'') ∨
        ∃ a s', step.runOn s = (.ok a, s') ∧ (next a).runOn s' = (.error e, s'') := by
  rw [runOn_bind]
  constructor
  · intro ran
    split at ran
    · rename_i a s' first
      exact .inr ⟨a, s', first, ran⟩
    · rename_i e' s' first
      cases ran
      exact .inl first
  · rintro (first | ⟨a, s', first, second⟩)
    · rw [first]
    · rw [first]
      exact second

/-- The state is the same when the answer is dropped. -/
theorem runOn_dropped_snd (action : Action σ α) (s : σ) :
    ((do let _ ← action : Action σ Unit).runOn s).2 = (action.runOn s).2 := by
  rw [runOn_bind]
  cases action.runOn s with
  | mk outcome s' => cases outcome <;> rfl

/-- An operation on a given state gives what can be read off its result. -/
theorem exists_of_map_toOption {action : Action σ α} {s : σ} {view : α → β} {b : β}
    (read : (action.runOn s).1.toOption.map view = some b) :
    ∃ a s', action.runOn s = (.ok a, s') ∧ view a = b := by
  cases ran : action.runOn s with
  | mk outcome s' =>
      rw [ran] at read
      cases outcome with
      | error e => cases read
      | ok a => exact ⟨a, s', rfl, Option.some.inj read⟩

/-! ## Operations on a thing -/

section

variable {τ : Type} [Remembers τ]

theorem runOn_tracked (operation : τ → Action σ (α × τ)) (thing : τ) (s : σ) :
    (tracked operation).runOn (thing, s) =
      ((Remembers.settle thing ((operation thing).runOn s).1).1,
        (Remembers.settle thing ((operation thing).runOn s).1).2, ((operation thing).runOn s).2) :=
  rfl

theorem runOn_observed (operation : τ → Action σ α) (thing : τ) (s : σ) :
    (observed operation).runOn (thing, s) =
      match (operation thing).runOn s with
      | (.ok a, s) => (.ok a, (thing, s))
      | (.error e, s) => (.error e, (Remembers.remember e thing, s)) := by
  rw [observed, runOn_tracked, runOn_bind]
  cases (operation thing).runOn s with
  | mk outcome s => cases outcome <;> rfl

theorem runOn_observed_fst (operation : τ → Action σ α) (thing : τ) (s : σ) :
    ((observed operation).runOn (thing, s)).1 = ((operation thing).runOn s).1 := by
  rw [runOn_observed]
  cases (operation thing).runOn s with
  | mk outcome s => cases outcome <;> rfl

theorem runOn_observed_snd (operation : τ → Action σ α) (thing : τ) (s : σ) :
    ((observed operation).runOn (thing, s)).2.2 = ((operation thing).runOn s).2 := by
  rw [runOn_observed]
  cases (operation thing).runOn s with
  | mk outcome s => cases outcome <;> rfl

end

/-! ## What operations leave as it is -/

def Keeps {τ : Type} (view : σ → τ) (action : Action σ α) : Prop := ∀ s, view (action.runOn s).2 = view s

variable {τ : Type} {view : σ → τ}

theorem Keeps.pure (a : α) : Keeps view (pure a : Action σ α) := fun _ => rfl

theorem Keeps.ofExcept (outcome : Except Error α) : Keeps view (ofExcept outcome : Action σ α) :=
  fun _ => rfl

theorem Keeps.throw (e : Error) : Keeps view (throw e : Action σ α) := fun _ => rfl

theorem Keeps.bind {step : Action σ α} {next : α → Action σ β} (first : Keeps view step)
    (rest : ∀ a, Keeps view (next a)) : Keeps view (step >>= next) := by
  intro s
  have kept := first s
  rw [runOn_bind]
  cases ran : step.runOn s with
  | mk outcome s' =>
      rw [ran] at kept
      cases outcome with
      | ok a => exact (rest a s').trans kept
      | error e => exact kept

/-! ## Properties that sequencing keeps -/

/-- A property of operations that plain outcomes have, unless they are errors of another kind, and
that is kept by doing one operation after the other. -/
structure Closed (allowed : Error → Prop) (holds : ∀ {α : Type}, Action σ α → Prop) : Prop where
  ofExcept : ∀ {α : Type} {outcome : Except Error α}, (∀ e, outcome = .error e → allowed e) →
    holds (ofExcept outcome : Action σ α)
  bind : ∀ {α β : Type} {step : Action σ α} {next : α → Action σ β}, holds step →
    (∀ a, holds (next a)) → holds (step >>= next)

theorem Closed.pure {allowed : Error → Prop} {holds : ∀ {α : Type}, Action σ α → Prop}
    (closed : Closed allowed holds) (a : α) : holds (pure a : Action σ α) := by
  have sound : ∀ e, (.ok a : Except Error α) = .error e → allowed e := nofun
  exact closed.ofExcept sound

theorem Closed.foldlM {allowed : Error → Prop} {holds : ∀ {α : Type}, Action σ α → Prop}
    (closed : Closed allowed holds) {step : β → α → Action σ β} (each : ∀ b a, holds (step b a))
    (items : List α) (b : β) : holds (items.foldlM step b) := by
  induction items generalizing b with
  | nil => exact closed.pure b
  | cons a items ih =>
      rw [List.foldlM_cons]
      exact closed.bind (each b a) ih

theorem Keeps.closed (view : σ → τ) :
    Closed (fun _ => True) fun {α} (action : Action σ α) => action.Keeps view where
  ofExcept _ := .ofExcept _
  bind := .bind

/-! ## What the outcome of an operation depends on -/

def ReadsOnly {τ : Type} (view : σ → τ) (action : Action σ α) : Prop :=
  ∀ ⦃s s'⦄, view s = view s' → (action.runOn s).1 = (action.runOn s').1

theorem ReadsOnly.pure (a : α) : ReadsOnly view (pure a : Action σ α) := fun _ _ _ => rfl

theorem ReadsOnly.ofExcept (outcome : Except Error α) :
    ReadsOnly view (ofExcept outcome : Action σ α) :=
  fun _ _ _ => rfl

theorem ReadsOnly.throw (e : Error) : ReadsOnly view (throw e : Action σ α) := fun _ _ _ => rfl

theorem ReadsOnly.bind {step : Action σ α} {next : α → Action σ β} (first : ReadsOnly view step)
    (kept : Keeps view step) (rest : ∀ a, ReadsOnly view (next a)) :
    ReadsOnly view (step >>= next) := by
  intro s s' same
  have outcomes := first same
  have views : view (step.runOn s).2 = view (step.runOn s').2 :=
    (kept s).trans (same.trans (kept s').symm)
  rw [runOn_bind, runOn_bind]
  cases ran : step.runOn s with
  | mk outcome t =>
      cases ran' : step.runOn s' with
      | mk outcome' t' =>
          rw [ran, ran'] at outcomes views
          cases outcomes
          cases outcome with
          | ok a => exact rest a views
          | error e => rfl

/-- An operation whose answer, if it gives one, is decided by a part of the state, and so is that
part afterwards. -/
def DecidedBy {τ : Type} (view : σ → τ) (action : Action σ α) : Prop :=
  ∀ ⦃s s' t t' : σ⦄ ⦃a a' : α⦄, view s = view s' → action.runOn s = (.ok a, t) →
    action.runOn s' = (.ok a', t') → a = a' ∧ view t = view t'

theorem DecidedBy.closed (view : σ → τ) :
    Closed (fun _ => True) fun {α} (action : Action σ α) => action.DecidedBy view where
  ofExcept := by
    intro α outcome _ s s' t t' a a' same ran ran'
    obtain ⟨answer, rfl⟩ := Prod.mk.inj ran
    obtain ⟨answer', rfl⟩ := Prod.mk.inj ran'
    exact ⟨Except.ok.inj (answer.symm.trans answer'), same⟩
  bind := by
    intro α β step next first rest s s' t t' b b' same ran ran'
    obtain ⟨a, middle, begun, ended⟩ := runOn_bind_eq_ok.mp ran
    obtain ⟨a', middle', begun', ended'⟩ := runOn_bind_eq_ok.mp ran'
    obtain ⟨rfl, views⟩ := first same begun begun'
    exact rest a views ended ended'

/-! ## Where operations lead -/

def Carries (starts ends : σ → Prop) (action : Action σ α) : Prop :=
  ∀ s, starts s → ends (action.runOn s).2

variable {starts ends : σ → Prop}

theorem Carries.ofExcept (outcome : Except Error α) (weaker : ∀ s, starts s → ends s) :
    Carries starts ends (ofExcept outcome : Action σ α) := weaker

/-- The next operation may count on what is known of the answer of the first. -/
theorem Carries.bind {gives : α → Prop} {step : Action σ α} {next : α → Action σ β}
    (first : Carries starts starts step)
    (given : ∀ s a s', starts s → step.runOn s = (.ok a, s') → gives a)
    (rest : ∀ a, gives a → Carries starts ends (next a)) (weaker : ∀ s, starts s → ends s) :
    Carries starts ends (step >>= next) := by
  intro s start
  have reached := first s start
  rw [runOn_bind]
  cases ran : step.runOn s with
  | mk outcome s' =>
      rw [ran] at reached
      cases outcome with
      | ok a => exact rest a (given s a s' start ran) s' reached
      | error e => exact weaker s' reached

theorem Carries.bind_get {next : σ → Action σ β}
    (rest : ∀ s, starts s → Carries starts ends (next s)) :
    Carries starts ends (get >>= next) :=
  fun s start => rest s start s start

theorem Carries.bind_ofExcept {outcome : Except Error α} {next : α → Action σ β}
    (rest : ∀ a, outcome = .ok a → Carries starts ends (next a))
    (weaker : ∀ s, starts s → ends s) :
    Carries starts ends (Action.ofExcept outcome >>= next) :=
  .bind (.ofExcept outcome fun _ start => start) (fun _ _ _ _ found => (Prod.mk.inj found).1) rest
    weaker

theorem Carries.then {step : Action σ α} {next : α → Action σ β}
    (first : Carries starts starts step) (rest : ∀ a, Carries starts ends (next a))
    (weaker : ∀ s, starts s → ends s) : Carries starts ends (step >>= next) := by
  refine first.bind (fun _ _ _ _ _ => trivial) (fun a _ => rest a) weaker

end RecordMapper.Action
