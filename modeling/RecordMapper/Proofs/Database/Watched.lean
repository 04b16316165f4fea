import RecordMapper.Proofs.Action
import RecordMapper.Schema.Registry

/-!
Connections that are watched: what was put to them and whether they have failed. An operation that
fails on a connection which did not has failed by itself, with one of the errors of its own.
-/

set_option autoImplicit false

namespace RecordMapper

namespace Action

variable {σ α β : Type}

/-- Unless there was trouble, an operation fails with certain errors only. What was in trouble stays
in trouble. -/
def FailsOnly (trouble : σ → Bool) (allowed : Error → Prop) (action : Action σ α) : Prop :=
  ∀ s, trouble (action.runOn s).2 = false →
    trouble s = false ∧ ∀ e, (action.runOn s).1 = .error e → allowed e

namespace FailsOnly

variable {trouble : σ → Bool} {allowed : Error → Prop}

theorem pure (a : α) : FailsOnly trouble allowed (pure a : Action σ α) :=
  fun _ calm => ⟨calm, nofun⟩

theorem get : FailsOnly trouble allowed (get : Action σ σ) :=
  fun _ calm => ⟨calm, nofun⟩

theorem ofExcept {outcome : Except Error α} (own : ∀ e, outcome = .error e → allowed e) :
    FailsOnly trouble allowed (ofExcept outcome : Action σ α) :=
  fun _ calm => ⟨calm, own⟩

theorem fail {cause : Cause} (own : allowed (.of cause)) :
    FailsOnly trouble allowed (fail cause : Action σ α) := by
  refine .ofExcept fun e same => ?_
  cases same
  exact own

private theorem throw {e : Error} (own : allowed e) :
    FailsOnly trouble allowed (throw e : Action σ α) := by
  refine fun _ calm => ⟨calm, fun e' same => ?_⟩
  cases same
  exact own

theorem bind {step : Action σ α} {next : α → Action σ β} (first : FailsOnly trouble allowed step)
    (rest : ∀ a, FailsOnly trouble allowed (next a)) : FailsOnly trouble allowed (step >>= next) := by
  intro s calm
  rw [runOn_bind] at calm ⊢
  have stepped := first s
  cases ran : step.runOn s with
  | mk outcome s' =>
      rw [ran] at calm stepped
      cases outcome with
      | error e =>
          refine ⟨(stepped calm).1, fun e' same => (stepped calm).2 e' ?_⟩
          cases same
          rfl
      | ok a =>
          obtain ⟨calm, own⟩ := rest a s' calm
          exact ⟨(stepped calm).1, own⟩

theorem closed (trouble : σ → Bool) (allowed : Error → Prop) :
    Closed allowed fun {α} (action : Action σ α) => action.FailsOnly trouble allowed where
  ofExcept := .ofExcept
  bind := .bind

theorem mono {allowed' : Error → Prop} {action : Action σ α}
    (only : FailsOnly trouble allowed action) (weaker : ∀ e, allowed e → allowed' e) :
    FailsOnly trouble allowed' action :=
  fun s calm => ⟨(only s calm).1, fun e failed => weaker e ((only s calm).2 e failed)⟩

theorem zoom {τ : Type} {trouble' : τ → Bool} {part : σ → τ} {put : τ → σ → σ} {action : Action τ α}
    (only : FailsOnly trouble' allowed action) (reads : ∀ s t, trouble (put t s) = trouble' t)
    (writes : ∀ s, trouble' (part s) = trouble s) :
    FailsOnly trouble allowed (action.zoom part put) := by
  intro s calm
  have calm : trouble (put (action.runOn (part s)).2 s) = false := calm
  rw [reads] at calm
  rw [← writes]
  exact only (part s) calm

theorem tracked {τ : Type} [Remembers τ] {operation : τ → Action σ (α × τ)}
    (only : ∀ thing, FailsOnly trouble allowed (operation thing)) :
    FailsOnly (fun state : τ × σ => trouble state.2) allowed (tracked operation) := by
  rintro ⟨thing, s⟩ calm
  rw [runOn_tracked] at calm ⊢
  refine ⟨(only thing s calm).1, fun e failed => (only thing s calm).2 e ?_⟩
  cases outcome : ((operation thing).runOn s).1 with
  | ok answer =>
      rw [outcome] at failed
      cases failed
  | error e' =>
      rw [outcome] at failed
      cases failed
      rfl

end FailsOnly

end Action

/-! ## Watched connections -/

inductive Sent where
  | statement (s : Statement)
  | text (sql : String)

def Sent.isWrite : Sent → Bool
  | .statement s => s.isWrite
  | .text _ => true

/-- A connection with what was put to it, the latest first, and whether one of its operations has
failed. -/
structure Watched (σ : Type) where
  connection : σ
  sent : List Sent := []
  failed : Bool := false

namespace Watched

variable {σ α : Type} [Connection σ]

def ask (action : Action σ α) : Action (Watched σ) α :=
  ExceptT.mk fun c =>
    let (outcome, connection) := action.runOn c.connection
    (outcome, { c with connection, failed := c.failed || !outcome.isOk })

def send (sent : Sent) (action : Action σ α) : Action (Watched σ) α := do
  modify fun c => { c with sent := sent :: c.sent }
  ask action

instance : Connection (Watched σ) where
  dialect c := Connection.dialect c.connection
  exec sql := send (.text sql) (Connection.exec sql)
  run statement := send (.statement statement) (Connection.run statement)
  lastInsertId := ask Connection.lastInsertId
  affectedRows c := Connection.affectedRows c.connection
  tableExists table := ask (Connection.tableExists table)
  columnsOfTable table := ask (Connection.columnsOfTable table)
  currentDatabase := ask Connection.currentDatabase

omit [Connection σ] in
theorem keeps_ask (action : Action σ α) : (ask action).Keeps sent := fun _ => rfl

omit [Connection σ] in
theorem failsOnly_ask (allowed : Error → Prop) (action : Action σ α) :
    (ask action).FailsOnly failed allowed := by
  intro c calm
  have calm : (c.failed || !(action.runOn c.connection).1.isOk) = false := calm
  obtain ⟨before, fine⟩ := Bool.or_eq_false_iff.mp calm
  refine ⟨before, fun e outcome => ?_⟩
  have outcome : (action.runOn c.connection).1 = .error e := outcome
  rw [outcome] at fine
  cases fine

theorem failsOnly_run (allowed : Error → Prop) (statement : Statement) :
    (Connection.run statement : Action (Watched σ) Response).FailsOnly failed allowed :=
  .bind (fun _ calm => ⟨calm, nofun⟩) fun _ => failsOnly_ask allowed _

theorem sent_run (statement : Statement) (c : Watched σ) :
    ((Connection.run statement).runOn c).2.sent = .statement statement :: c.sent := rfl

theorem sent_runCount (s : Select) (c : Watched σ) :
    ((Connection.runCount s).runOn c).2.sent = .statement (.select s) :: c.sent := by
  have read : ((Connection.runQuery s : Action (Watched σ) (List Row)).runOn c).2.sent =
      .statement (.select s) :: c.sent := by
    rw [← sent_run, Connection.runQuery, Action.runOn_bind]
    cases (Connection.run (.select s)).runOn c with
    | mk outcome c' => cases outcome <;> rfl
  rw [← read, Connection.runCount, Action.runOn_bind]
  cases (Connection.runQuery s).runOn c with
  | mk outcome c' =>
      cases outcome with
      | error e => rfl
      | ok rows =>
          dsimp only
          split
          · rfl
          · exact (Action.Keeps.bind (.ofExcept _) fun _ => .pure _) c'

/-! ## Writes -/

def Wrote (allowed : Statement → Prop) (c c' : Watched σ) : Prop :=
  ∃ sent, c'.sent = sent ++ c.sent ∧
    ∀ x ∈ sent, x.isWrite = true → ∃ s, x = .statement s ∧ allowed s

section

variable {allowed : Statement → Prop} {c c' c'' : Watched σ}

omit [Connection σ]

theorem Wrote.of_same (same : c'.sent = c.sent) : Wrote allowed c c' := ⟨[], same, nofun⟩

theorem Wrote.trans (first : Wrote allowed c c') (second : Wrote allowed c' c'') :
    Wrote allowed c c'' := by
  obtain ⟨sent, grown, fine⟩ := first
  obtain ⟨sent', grown', fine'⟩ := second
  refine ⟨sent' ++ sent, by rw [grown', grown, List.append_assoc], fun x member => ?_⟩
  rcases List.mem_append.mp member with later | earlier
  · exact fine' x later
  · exact fine x earlier

theorem Wrote.mono {allowed' : Statement → Prop} (wrote : Wrote allowed c c')
    (weaker : ∀ s, allowed s → allowed' s) : Wrote allowed' c c' := by
  obtain ⟨sent, grown, fine⟩ := wrote
  refine ⟨sent, grown, fun x member write => ?_⟩
  obtain ⟨s, same, allows⟩ := fine x member write
  exact ⟨s, same, weaker s allows⟩

def Writes (allowed : Statement → Prop) (action : Action (Watched σ) α) : Prop :=
  ∀ c, Wrote allowed c (action.runOn c).2

theorem Writes.closed (allowed : Statement → Prop) :
    Action.Closed (fun _ => True)
      fun {α} (action : Action (Watched σ) α) => Writes allowed action where
  ofExcept _ := fun _ => .of_same rfl
  bind := by
    intro α β step next first rest c
    have wrote := first c
    rw [Action.runOn_bind]
    cases ran : step.runOn c with
    | mk outcome c' =>
        rw [ran] at wrote
        cases outcome with
        | ok a => exact wrote.trans (rest a c')
        | error e => exact wrote

theorem writes_ask (allowed : Statement → Prop) (action : Action σ α) :
    Writes allowed (ask action) :=
  fun _ => .of_same rfl

end

theorem writes_run {allowed : Statement → Prop} {s : Statement}
    (fine : s.isWrite = true → allowed s) :
    Writes allowed (Connection.run s : Action (Watched σ) Response) := by
  refine fun c => ⟨[.statement s], sent_run s c, fun x member write => ?_⟩
  obtain rfl := List.mem_singleton.mp member
  exact ⟨s, rfl, fine write⟩

end Watched

/-- The causes by which linking refuses to link. -/
def Cause.refuses : Cause → Bool
  | .relationNotDeclared .. | .ambiguousRelation .. | .relationMismatch _ | .invalidStatement _
  | .tooManyRecords _ => true
  | _ => false

def Error.Fails (e : Error) : Prop := e.cause.refuses = false

theorem Value.fails_of_toInt64 {v : Value} {e : Error} (failed : v.toInt64 = .error e) : e.Fails := by
  cases v with
  | int n => cases failed
  | bool b => cases failed
  | float x =>
      unfold toInt64 at failed
      dsimp only at failed
      split at failed <;> cases failed
      rfl
  | text s =>
      unfold toInt64 at failed
      dsimp only at failed
      cases read : Number.readInt64 (Text.trimBoth Text.isBlank s.toList) with
      | ok n =>
          rw [read] at failed
          cases failed
      | error fault =>
          rw [read] at failed
          cases failed
          rfl
  | _ =>
      cases failed
      rfl

theorem FieldType.fails_of_toDatabase {type : FieldType} {v : Value} {e : Error}
    (failed : type.toDatabase v = .error e) : e.Fails := by
  unfold toDatabase at failed
  split at failed
  · cases failed
  · cases failed
  · dsimp only at failed
    split at failed <;> cases failed
    rfl
  · cases failed

section

variable {σ : Type} [Connection σ]

theorem Registry.failsOnly_load (registry : Registry) (table : String) :
    (registry.load table : Action (Watched σ) Model).FailsOnly Watched.failed Error.Fails := by
  have exists' (name : String) :
      (Connection.hasTable name : Action (Watched σ) Bool).FailsOnly Watched.failed Error.Fails := by
    unfold Connection.hasTable
    dsimp only
    split
    · exact Watched.failsOnly_ask _ _
    · exact .pure _
  refine .bind (.ofExcept fun e missing => ?_) fun model => .bind (exists' _) fun present => ?_
  · unfold resolve at missing
    split at missing <;> cases missing
    rfl
  · split
    · split
      · exact .bind (Watched.failsOnly_ask _ _) fun _ => .pure _
      · exact .pure _
    · exact .throw rfl

theorem Connection.failsOnly_runCount (s : Select) :
    (runCount s : Action (Watched σ) UInt64).FailsOnly Watched.failed Error.Fails := by
  refine .bind (.bind (Watched.failsOnly_run _ _) fun _ => .pure _) fun rows => ?_
  split
  · exact .pure _
  · exact .bind (.ofExcept fun e failed => Value.fails_of_toInt64 failed) fun _ => .pure _

end

/-!
## Noted connections

Connections that note what came of what was put to them: which statements they executed, and which
identifiers of inserted rows they reported.
-/

inductive Note where
  | executed (sent : Sent) (succeeded : Bool)
  /-- The answer to the question for the identifier of a new row. A failure is no identifier. -/
  | reported (id : Option Int64)

namespace Note

def inserts : Note → Bool
  | .executed (.statement (.insert _)) true => true
  | .executed (.text sql) true => Connection.verb sql == "INSERT"
  | _ => false

def withholds : Note → Bool
  | .reported none => true
  | _ => false

/-- The reported identifier is none that a saved record has. -/
def misreports : Note → Bool
  | .reported (some id) => !decide (0 < id)
  | _ => false

end Note

/-- A connection with its notes, the latest first. -/
structure Noted (σ : Type) where
  connection : σ
  notes : List Note := []

namespace Noted

variable {σ α : Type}

def ask (action : Action σ α) : Action (Noted σ) α :=
  action.zoom connection fun connection c => { c with connection }

def note (describe : Except Error α → Note) (action : Action σ α) : Action (Noted σ) α :=
  ExceptT.mk fun c =>
    let (outcome, connection) := action.runOn c.connection
    (outcome, { connection, notes := describe outcome :: c.notes })

instance [Connection σ] : Connection (Noted σ) where
  dialect c := Connection.dialect c.connection
  exec sql := note (fun outcome => .executed (.text sql) outcome.isOk) (Connection.exec sql)
  run statement :=
    note (fun outcome => .executed (.statement statement) outcome.isOk) (Connection.run statement)
  lastInsertId := note (fun outcome => .reported outcome.toOption.join) Connection.lastInsertId
  affectedRows c := Connection.affectedRows c.connection
  tableExists table := ask (Connection.tableExists table)
  columnsOfTable table := ask (Connection.columnsOfTable table)
  currentDatabase := ask Connection.currentDatabase

def insertions (c : Noted σ) : Nat := c.notes.countP Note.inserts

def withheld (c : Noted σ) : Nat := c.notes.countP Note.withholds

def misreported (c : Noted σ) : Bool := c.notes.any Note.misreports

/-- The number of rows inserted whose identifiers are known. -/
def surplus (c : Noted σ) : Int := c.insertions - c.withheld

theorem notes_of_note {describe : Except Error α → Note} {action : Action σ α} {c c' : Noted σ}
    {outcome : Except Error α} (ran : (note describe action).runOn c = (outcome, c')) :
    c'.notes = describe outcome :: c.notes := by
  obtain ⟨rfl, rfl⟩ := Prod.mk.inj ran
  rfl

theorem surplus_eq_of_notes {c c' : Noted σ} {n : Note} (noted : c'.notes = n :: c.notes) :
    c'.surplus = c.surplus + (if n.inserts then 1 else 0) - if n.withholds then 1 else 0 := by
  simp only [surplus, insertions, withheld, noted, List.countP_cons]
  split <;> split <;> omega

theorem withheld_eq_of_notes {c c' : Noted σ} {n : Note} (noted : c'.notes = n :: c.notes)
    (kept : n.withholds = false) : c'.withheld = c.withheld := by
  simp [withheld, noted, kept]

theorem failsOnly_note (describe : Except Error α → Note) (action : Action σ α) :
    (note describe action).FailsOnly misreported fun _ => True := by
  intro c fair
  refine ⟨?_, fun _ _ => trivial⟩
  have fair : ((describe (action.runOn c.connection).1).misreports || c.misreported) = false := fair
  exact (Bool.or_eq_false_iff.mp fair).2

end Noted

end RecordMapper
