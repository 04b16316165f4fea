import RecordMapper.Connection.ScriptedBackend
import RecordMapper.Proofs.Connection.Session
import RecordMapper.Proofs.Except

/-!
What a connection to a PostgreSQL server reports of the past. The identifier it reports is that of
the latest write. The row count is not always that of the latest statement: a question about the
schema that reaches the server is counted like a statement.
-/

set_option autoImplicit false

namespace RecordMapper

section

variable {α γ : Type} {items front back : List α} {a : α}

theorem latest_eq_some_iff {f : α → Option γ} {c : γ} :
    (items.filterMap f).getLast? = some c ↔
      ∃ front a back, items = front ++ a :: back ∧ f a = some c ∧
        ∀ other ∈ back, f other = none := by
  rw [List.getLast?_filterMap, List.findSome?_eq_some_iff]
  constructor
  · rintro ⟨back, a, front, split, found, none⟩
    refine ⟨front.reverse, a, back.reverse, ?_, found, ?_⟩
    · rw [← items.reverse_reverse, split]
      simp
    · simpa using none
  · rintro ⟨front, a, back, rfl, found, none⟩
    exact ⟨back.reverse, a, front.reverse, by simp, found, by simpa using none⟩

def latestCount (answer? : α → Option (List Message)) (items : List α) : UInt64 :=
  ((items.filterMap answer?).getLast?.map Message.count).getD 0

variable {answer? : α → Option (List Message)}

private theorem latestCount_eq {messages : List Message} (answered : answer? a = some messages)
    (later : ∀ other ∈ back, answer? other = none) :
    latestCount answer? (front ++ a :: back) = Message.count messages := by
  have latest := latest_eq_some_iff.mpr ⟨front, a, back, rfl, answered, later⟩
  rw [latestCount, latest]
  rfl

private theorem latestCount_eq_zero (unanswered : ∀ a ∈ items, answer? a = none) :
    latestCount answer? items = 0 := by
  rw [latestCount, List.filterMap_eq_nil_iff.mpr unanswered]
  rfl

end

namespace Message

def integer? (m : Message) : Option Int64 :=
  match m with
  | .row ((_, some text) :: _) => (Number.readInt64 text.toList).toOption
  | _ => none

def Reads (m : Message) (n : Int64) : Prop :=
  ∃ name text rest, m = .row ((name, some text) :: rest) ∧ Number.readInt64 text.toList = .ok n

def FirstReads (messages : List Message) (n : Int64) : Prop :=
  ∃ front m back, messages = front ++ m :: back ∧ m.Reads n ∧
    ∀ other ∈ front, ∀ k, ¬ other.Reads k

theorem integer?_eq_some_iff {m : Message} {n : Int64} : m.integer? = some n ↔ m.Reads n := by
  unfold integer? Reads
  split
  · simp [toOption_eq_some]
  · rename_i other
    constructor
    · intro read
      cases read
    · rintro ⟨name, text, rest, rfl, -⟩
      exact absurd rfl (other name text rest)

private theorem integer?_eq_none_iff {m : Message} : m.integer? = none ↔ ∀ n, ¬ m.Reads n := by
  rw [Option.eq_none_iff_forall_ne_some]
  simp only [ne_eq, integer?_eq_some_iff]

private theorem firstInteger?_eq_some_iff {messages : List Message} {n : Int64} :
    firstInteger? messages = some n ↔ FirstReads messages n := by
  have same : firstInteger? messages = messages.findSome? integer? := rfl
  rw [same, List.findSome?_eq_some_iff]
  simp only [integer?_eq_some_iff, integer?_eq_none_iff]
  rfl

end Message

namespace Postgres

variable {β : Type} [Backend β]

/-! ## Inserted identifiers -/

def Writes (sql : String) : Prop :=
  ∃ word rest, Text.words sql = word :: rest ∧
    Text.asciiUpper word ∈ ["INSERT", "UPDATE", "DELETE", "REPLACE"]

private theorem isWrite_iff {sql : String} : isWrite sql = true ↔ Writes sql := by
  unfold isWrite Writes Connection.verb Text.firstWord
  cases Text.words sql with
  | nil => exact iff_of_false (by decide) nofun
  | cons word rest => simp

namespace Event

def Wrote (e : Event β) (sql : String) : Prop :=
  e.call = .exec sql ∧ Writes sql ∧ e.outcome.isOk = true

def written? (e : Event β) : Option (Option Int64) :=
  match e.call with
  | .exec sql =>
    if isWrite sql && (exchange sql e.before.backend).1.isOk then
      some (toldValue (exchange sql e.before.backend).2)
    else none
  | _ => none

theorem written?_eq_some_iff {e : Event β} {id : Option Int64} :
    e.written? = some id ↔
      ∃ sql, e.Wrote sql ∧ toldValue (exchange sql e.before.backend).2 = id := by
  obtain ⟨call, c⟩ := e
  cases call with
  | exec sql => simp [written?, Wrote, isOk_outcome_exec, isWrite_iff, and_assoc]
  | lookup l => simp [written?, Wrote]
  | lastInsertId => simp [written?, Wrote]

private theorem written?_eq_none_iff {e : Event β} : e.written? = none ↔ ∀ sql, ¬ e.Wrote sql := by
  rw [Option.eq_none_iff_forall_ne_some]
  simp [written?_eq_some_iff]

private theorem lastInsertId_after (e : Event β) :
    e.after.lastInsertId = e.written?.getD e.before.lastInsertId := by
  obtain ⟨call, c⟩ := e
  cases call with
  | exec sql =>
      rw [after_exec, written?]
      dsimp only
      split <;> rfl
  | lookup l =>
      rw [after_lookup]
      split <;> rfl
  | lastInsertId => rfl

end Event

private theorem toldValue_eq_some_iff {server : β} {n : Int64} :
    toldValue server = some n ↔
      ∃ messages, (exchange lastValueQuery server).1 = .ok messages ∧
        Message.FirstReads messages n := by
  simp [toldValue, Option.bind_eq_some_iff, toOption_eq_some, Message.firstInteger?_eq_some_iff]

/-- The reported identifier is what the server told right after the latest write. Where it told
none, none is reported, and no other call changes what is reported. -/
theorem lastInsertId_latest_write (server : β) (calls : List Call) :
    (∃ id, (Connection.lastInsertId.runOn (afterCalls { backend := server } calls)).1 = .ok id ∧
      ∀ n, id = some n ↔
        ∃ front e back sql messages,
          session { backend := server } calls = front ++ e :: back ∧ e.Wrote sql ∧
          (∀ later ∈ back, ∀ sql, ¬ later.Wrote sql) ∧
          (exchange lastValueQuery (exchange sql e.before.backend).2).1 = .ok messages ∧
          Message.FirstReads messages n) ∧
    ∀ e : Event β, (∀ sql, ¬ e.Wrote sql) → e.after.lastInsertId = e.before.lastInsertId := by
  have latest := afterCalls_eq_latest Postgres.lastInsertId Event.written?
    Event.lastInsertId_after calls { backend := server }
  refine ⟨⟨_, rfl, fun n => ?_⟩, fun e unwritten => ?_⟩
  · have known : (afterCalls { backend := server } calls).lastInsertId = some n ↔
        ((session { backend := server } calls).filterMap Event.written?).getLast? =
          some (some n) := by
      rw [latest]
      cases ((session { backend := server } calls).filterMap Event.written?).getLast? <;> simp
    rw [known, latest_eq_some_iff]
    constructor
    · rintro ⟨front, e, back, split, written, later⟩
      obtain ⟨sql, wrote, told⟩ := Event.written?_eq_some_iff.mp written
      obtain ⟨messages, answered, reads⟩ := toldValue_eq_some_iff.mp told
      exact ⟨front, e, back, sql, messages, split, wrote,
        fun other member => Event.written?_eq_none_iff.mp (later other member), answered, reads⟩
    · rintro ⟨front, e, back, sql, messages, split, wrote, later, answered, reads⟩
      have told := toldValue_eq_some_iff.mpr ⟨messages, answered, reads⟩
      exact ⟨front, e, back, split, Event.written?_eq_some_iff.mpr ⟨sql, wrote, told⟩,
        fun other member => Event.written?_eq_none_iff.mpr (later other member)⟩
  · rw [Event.lastInsertId_after, Event.written?_eq_none_iff.mpr unwritten]
    rfl

/-- A later write whose sequence value is refused leaves no identifier. -/
example :
    let server : ScriptedBackend :=
      { script :=
          [("lastval", [{ columns := some ["lastval"], rows := [[some "7"]] }]),
            ("lastval", [{ ending := .failed "lastval is not yet defined" }])] }
    let insert := Call.exec "INSERT INTO customer (name) VALUES ('Ann')"
    let read := Call.exec "SELECT 1"
    let delete := Call.exec "delete FROM customer"
    (afterCalls { backend := server } [insert, read]).lastInsertId = some 7 ∧
      (afterCalls { backend := server } [insert, read, delete]).lastInsertId = none := by
  decide +kernel

/-! ## Row counts -/

namespace Event

def executed? (e : Event β) : Option (List Message) :=
  match e.call with
  | .exec sql => (exchange sql e.before.backend).1.toOption
  | _ => none

def Asked (e : Event β) (messages : List Message) : Prop :=
  ∃ l, e.call = .lookup l ∧ l.known e.before.schema = none ∧
    (exchange l.sql e.before.backend).1 = .ok messages

/-- The answer whose count the connection reports after the call. -/
def counted? (e : Event β) : Option (List Message) :=
  match e.call with
  | .exec sql => (exchange sql e.before.backend).1.toOption
  | .lookup l =>
    match l.known e.before.schema with
    | some _ => none
    | none => (exchange l.sql e.before.backend).1.toOption
  | .lastInsertId => none

theorem counted?_eq_some_iff {e : Event β} {messages : List Message} :
    e.counted? = some messages ↔ e.executed? = some messages ∨ e.Asked messages := by
  obtain ⟨call, c⟩ := e
  cases call with
  | exec sql => simp [counted?, executed?, Asked]
  | lookup l => cases known : l.known c.schema <;>
      simp [counted?, executed?, Asked, known, toOption_eq_some]
  | lastInsertId => simp [counted?, executed?, Asked]

private theorem executed?_eq_none {e : Event β} (uncounted : e.counted? = none) :
    e.executed? = none := by
  rw [Option.eq_none_iff_forall_ne_some] at uncounted ⊢
  exact fun messages executed => uncounted messages (counted?_eq_some_iff.mpr (.inl executed))

private theorem affectedRows_after (e : Event β) :
    e.after.affectedRows = (e.counted?.map Message.count).getD e.before.affectedRows := by
  obtain ⟨call, c⟩ := e
  cases call with
  | exec sql => rw [after_exec, counted?]
  | lookup l =>
      rw [after_lookup, counted?]
      dsimp only
      cases l.known c.schema <;> rfl
  | lastInsertId => rfl

end Event

/-- The reported row count is that of the latest answer, be it to a statement or to a question about
the schema. So it is that of the latest executed statement exactly where no question with another
count was answered after it. -/
theorem affectedRows_latest_answer (server : β) (calls : List Call) :
    let events := session { backend := server } calls
    let reported := Connection.affectedRows (afterCalls { backend := server } calls)
    reported = latestCount Event.counted? events ∧
      (reported = latestCount Event.executed? events ↔
        ∀ front e back messages, events = front ++ e :: back → e.Asked messages →
          (∀ later ∈ back, later.counted? = none) →
          Message.count messages = latestCount Event.executed? events) := by
  intro events reported
  have latest : reported = latestCount Event.counted? events := by
    have counted := afterCalls_eq_latest Postgres.affectedRows
      (fun e => e.counted?.map Message.count) Event.affectedRows_after calls { backend := server }
    rw [← List.map_filterMap, List.getLast?_map] at counted
    exact counted
  refine ⟨latest, ?_⟩
  rw [latest]
  constructor
  · intro same front e back messages split asked later
    rw [← same, split, latestCount_eq (Event.counted?_eq_some_iff.mpr (.inr asked)) later]
  · intro same
    cases found : (events.filterMap Event.counted?).getLast? with
    | none =>
        have uncounted := List.filterMap_eq_nil_iff.mp (List.getLast?_eq_none_iff.mp found)
        rw [latestCount_eq_zero uncounted,
          latestCount_eq_zero fun e member => Event.executed?_eq_none (uncounted e member)]
    | some messages =>
        obtain ⟨front, e, back, split, counted, later⟩ := latest_eq_some_iff.mp found
        rcases Event.counted?_eq_some_iff.mp counted with executed | asked
        · rw [split, latestCount_eq counted later, latestCount_eq executed fun other member =>
            Event.executed?_eq_none (later other member)]
        · rw [← same front e back messages split asked later, split, latestCount_eq counted later]

def updating : ScriptedBackend where
  script :=
    [("UPDATE", [{ ending := .completed "UPDATE 3" }]),
      ("information_schema.tables",
        [{ columns := some ["table_name"], rows := [[some "customer"], [some "purchase"]],
           ending := .completed "SELECT 2" }])]

/-- Asking for a table changes the count of an update that was executed before, unless the list of
tables is known already. -/
theorem updates_counted_as_tables :
    let c : Postgres ScriptedBackend := { backend := updating }
    let update := Call.exec "UPDATE customer SET name = 'Ann'"
    let ask := Call.lookup (.tableExists "customer")
    latestCount Event.executed? (session c [update, ask]) = 3 ∧
      Connection.affectedRows (afterCalls c [update, ask]) = 2 ∧
      Connection.affectedRows (afterCalls c [ask, update, ask]) = 3 := by
  decide +kernel

end Postgres

end RecordMapper
