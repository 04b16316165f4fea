import RecordMapper.Connection.Postgres
import RecordMapper.Proofs.Action

/-!
Calls on a connection to a PostgreSQL server, one after the other. Each call is taken apart into
what it exchanges with the server and what it leaves of the connection; the three questions about
the schema are one question that is asked with different words.
-/

set_option autoImplicit false

namespace RecordMapper

private theorem Message.rows_eq_nil {messages : List Message}
    (silent : tellsRows messages = false) :
    rows messages = [] := by
  rw [rows, List.filterMap_eq_nil_iff]
  intro m member
  have quiet := List.any_eq_false.mp silent m member
  cases m with
  | row cells => exact absurd rfl quiet
  | _ => rfl

namespace Postgres

variable {β : Type} [Backend β]

/-! ## Exchanges -/

/-- What the server answers to a text, and the server afterwards. A text with a null character does
not reach it. -/
def exchange (sql : String) (server : β) : Except Error (List Message) × β :=
  let (outcome, c) := (send sql).runOn { backend := server }
  (outcome, c.backend)

/-- A text reaches the server unless it has a null character. -/
theorem exchange_refused_or_sent (sql : String) (server : β) :
    (∃ e, exchange sql server = (.error e, server)) ∨
      exchange sql server = (Backend.query sql).runOn server := by
  unfold exchange send
  by_cases null : (sql.toList.any fun c => c.toNat == 0) = true
  · rw [if_pos null]
    exact .inl ⟨_, rfl⟩
  · rw [if_neg null]
    exact .inr rfl

theorem runOn_send (sql : String) (c : Postgres β) :
    (send sql).runOn c =
      ((exchange sql c.backend).1, { c with backend := (exchange sql c.backend).2 }) := by
  unfold exchange send
  split <;> rfl

def answerOf (messages : List Message) : Response :=
  if Message.tellsRows messages then .rows (Message.rows messages)
  else .count (Message.count messages)

private theorem toRows_answerOf (messages : List Message) :
    (answerOf messages).toRows = Message.rows messages := by
  unfold answerOf
  split
  · rfl
  · rename_i silent
    exact (Message.rows_eq_nil (Bool.eq_false_iff.mpr silent)).symm

theorem runOn_query (sql : String) (c : Postgres β) :
    (query sql).runOn c =
      match exchange sql c.backend with
      | (.ok messages, backend) =>
        (.ok (answerOf messages), { c with backend, affectedRows := Message.count messages })
      | (.error e, backend) => (.error e, { c with backend }) := by
  unfold query
  rw [Action.runOn_bind, runOn_send]
  cases exchange sql c.backend with
  | mk outcome backend => cases outcome <;> rfl

def toldValue (server : β) : Option Int64 :=
  (exchange lastValueQuery server).1.toOption.bind Message.firstInteger?

private theorem runOn_lastValue (c : Postgres β) :
    lastValue.runOn c =
      (.ok (toldValue c.backend), { c with backend := (exchange lastValueQuery c.backend).2 }) := by
  have tried : lastValue.runOn c =
      match (send lastValueQuery).runOn c with
      | (.ok messages, c) => (.ok (Message.firstInteger? messages), c)
      | (.error _, c) => (.ok none, c) := by
    unfold lastValue Action.runOn ExceptT.run StateT.run
    simp only [tryCatch, tryCatchThe, MonadExceptOf.tryCatch, ExceptT.tryCatch, bind, ExceptT.bind,
      ExceptT.bindCont, StateT.bind, ExceptT.mk]
    generalize (send lastValueQuery : Action (Postgres β) _) = sending
    cases sending c with
    | mk outcome c => cases outcome <;> rfl
  rw [tried, runOn_send, toldValue]
  cases (exchange lastValueQuery c.backend).1 <;> rfl

theorem runOn_exec (sql : String) (c : Postgres β) :
    (exec sql).runOn c =
      match exchange sql c.backend with
      | (.ok messages, backend) =>
        let c := { c with
          backend, schema := c.schema.observe sql, affectedRows := Message.count messages }
        (.ok (answerOf messages),
          if isWrite sql then { c with
            backend := (exchange lastValueQuery backend).2, lastInsertId := toldValue backend }
          else c)
      | (.error e, backend) => (.error e, { c with backend, schema := c.schema.observe sql }) := by
  unfold exec
  rw [Action.runOn_bind]
  change ((query sql >>= _).runOn { c with schema := c.schema.observe sql }) = _
  rw [Action.runOn_bind, runOn_query]
  cases exchange sql c.backend with
  | mk outcome backend =>
      cases outcome with
      | error e => rfl
      | ok messages =>
          dsimp only
          split
          · rw [Action.runOn_bind, runOn_lastValue]
            rfl
          · rfl

/-! ## Questions about the schema -/

inductive Answer where
  | response (response : Response)
  | tableExists (found : Bool)
  | columns (columns : OrderedMap String)
  | database (name : String)
  | insertId (id : Option Int64)

/-- Asks for what is not known yet, and keeps what is told. -/
def ask {α : Type} (known : SchemaCache → Option α) (sql : String) (read : List Row → α)
    (keep : α → SchemaCache → SchemaCache) : Action (Postgres β) α := do
  match known (← get).schema with
  | some a => return a
  | none =>
    let found := read (← query sql).toRows
    modify fun c => { c with schema := keep found c.schema }
    return found

/-- What comes of a question on a connection: nothing is exchanged if the answer is known, and what
is told is learnt. -/
def answered {α : Type} (known : Option α) (sql : String) (read : List Row → α)
    (learn : List Row → SchemaCache → SchemaCache) (c : Postgres β) : Except Error α × Postgres β :=
  match known with
  | some answer => (.ok answer, c)
  | none =>
    match exchange sql c.backend with
    | (.ok messages, backend) =>
      (.ok (read (Message.rows messages)),
        { c with
          backend, schema := learn (Message.rows messages) c.schema,
          affectedRows := Message.count messages })
    | (.error e, backend) => (.error e, { c with backend })

private theorem runOn_ask {α : Type} (known : SchemaCache → Option α) (sql : String)
    (read : List Row → α)
    (keep : α → SchemaCache → SchemaCache) (tell : α → Answer) (c : Postgres β) :
    (do return tell (← ask known sql read keep)).runOn c =
      answered ((known c.schema).map tell) sql (fun rows => tell (read rows))
        (fun rows => keep (read rows)) c := by
  unfold ask answered
  rw [Action.runOn_bind, Action.runOn_bind, Action.runOn_get]
  dsimp only
  cases known c.schema with
  | some a => rfl
  | none =>
      dsimp only [Option.map_none]
      rw [Action.runOn_bind, runOn_query]
      cases exchange sql c.backend with
      | mk outcome backend =>
          cases outcome with
          | error e => rfl
          | ok messages =>
              dsimp only
              rw [toRows_answerOf]
              rfl

private theorem tables_eq_ask :
    (tables : Action (Postgres β) (List String)) =
      ask SchemaCache.tables tablesQuery firstTexts fun found s => s.setTables found := by
  unfold tables ask
  refine bind_congr fun c => ?_
  cases c.schema.tables <;> rfl

private theorem columnsOfTable_eq_ask (table : String) :
    (columnsOfTable table : Action (Postgres β) (OrderedMap String)) =
      ask (fun s => s.columns.get? table) (columnsQuery table) describedColumns
        fun found s => s.setColumns table found := by
  unfold columnsOfTable ask
  refine bind_congr fun c => ?_
  dsimp only
  cases c.schema.columns.get? table <;> rfl

private theorem currentDatabase_eq_ask :
    (currentDatabase : Action (Postgres β) String) =
      ask SchemaCache.database databaseQuery (fun rows => (firstTexts rows).headD "")
        fun found s => s.setDatabase found := by
  unfold currentDatabase ask
  refine bind_congr fun c => ?_
  cases c.schema.database <;> rfl

inductive Lookup where
  | tableExists (table : String)
  | columnsOfTable (table : String)
  | currentDatabase
  deriving DecidableEq, Repr

namespace Lookup

def perform : Lookup → Action (Postgres β) Answer
  | .tableExists table => do return .tableExists (← Connection.tableExists table)
  | .columnsOfTable table => do return .columns (← Connection.columnsOfTable table)
  | .currentDatabase => do return .database (← Connection.currentDatabase)

def sql : Lookup → String
  | .tableExists _ => tablesQuery
  | .columnsOfTable table => columnsQuery table
  | .currentDatabase => databaseQuery

def known : Lookup → SchemaCache → Option Answer
  | .tableExists table, s => s.tables.map fun tables => .tableExists (tables.contains table)
  | .columnsOfTable table, s => (s.columns.get? table).map .columns
  | .currentDatabase, s => s.database.map .database

def read : Lookup → List Row → Answer
  | .tableExists table, rows => .tableExists ((firstTexts rows).contains table)
  | .columnsOfTable _, rows => .columns (describedColumns rows)
  | .currentDatabase, rows => .database ((firstTexts rows).headD "")

def learn : Lookup → List Row → SchemaCache → SchemaCache
  | .tableExists _, rows, s => s.setTables (firstTexts rows)
  | .columnsOfTable table, rows, s => s.setColumns table (describedColumns rows)
  | .currentDatabase, rows, s => s.setDatabase ((firstTexts rows).headD "")

theorem runOn_perform (l : Lookup) (c : Postgres β) :
    l.perform.runOn c = answered (l.known c.schema) l.sql l.read l.learn c := by
  cases l with
  | tableExists table =>
      have told := runOn_ask SchemaCache.tables tablesQuery firstTexts
        (fun found s => s.setTables found) (fun found => .tableExists (found.contains table)) c
      rw [← tables_eq_ask] at told
      change ((tables >>= fun found => pure (found.contains table)) >>= _).runOn c = _
      rw [bind_assoc]
      exact told
  | columnsOfTable table =>
      have told := runOn_ask (fun s => s.columns.get? table) (columnsQuery table) describedColumns
        (fun found s => s.setColumns table found) .columns c
      rw [← columnsOfTable_eq_ask] at told
      exact told
  | currentDatabase =>
      have told := runOn_ask SchemaCache.database databaseQuery
        (fun rows => (firstTexts rows).headD "") (fun found s => s.setDatabase found) .database c
      rw [← currentDatabase_eq_ask] at told
      exact told

theorem outcome_perform (l : Lookup) (c : Postgres β) :
    (l.perform.runOn c).1 =
      match l.known c.schema with
      | some answer => .ok answer
      | none => (exchange l.sql c.backend).1.map fun messages => l.read (Message.rows messages) := by
  rw [runOn_perform]
  unfold answered
  cases l.known c.schema with
  | some answer => rfl
  | none =>
      dsimp only
      cases exchange l.sql c.backend with
      | mk outcome backend => cases outcome <;> rfl

end Lookup

/-! ## Sessions -/

inductive Call where
  | exec (sql : String)
  | lookup (l : Lookup)
  | lastInsertId
  deriving DecidableEq, Repr

def Call.perform : Call → Action (Postgres β) Answer
  | .exec sql => do return .response (← Connection.exec sql)
  | .lookup l => l.perform
  | .lastInsertId => do return .insertId (← Connection.lastInsertId)

structure Event (β : Type) where
  call : Call
  before : Postgres β

namespace Event

def outcome (e : Event β) : Except Error Answer := (e.call.perform.runOn e.before).1

def after (e : Event β) : Postgres β := (e.call.perform.runOn e.before).2

/-- What is left of a connection on which a statement was executed. -/
theorem after_exec (sql : String) (c : Postgres β) :
    after ⟨.exec sql, c⟩ =
      let told := exchange sql c.backend
      let written := isWrite sql && told.1.isOk
      { backend := if written then (exchange lastValueQuery told.2).2 else told.2
        schema := c.schema.observe sql
        affectedRows := (told.1.toOption.map Message.count).getD c.affectedRows
        lastInsertId := if written then toldValue told.2 else c.lastInsertId } := by
  change ((exec sql >>= _).runOn c).2 = _
  rw [Action.runOn_bind, runOn_exec]
  cases exchange sql c.backend with
  | mk outcome backend =>
      cases outcome with
      | error e => cases isWrite sql <;> rfl
      | ok messages => cases isWrite sql <;> rfl

theorem isOk_outcome_exec (sql : String) (c : Postgres β) :
    (outcome ⟨.exec sql, c⟩).isOk = (exchange sql c.backend).1.isOk := by
  change ((exec sql >>= _).runOn c).1.isOk = _
  rw [Action.runOn_bind, runOn_exec]
  cases exchange sql c.backend with
  | mk outcome backend => cases outcome <;> rfl

/-- What is left of a connection on which a question was asked. -/
theorem after_lookup (l : Lookup) (c : Postgres β) :
    after ⟨.lookup l, c⟩ =
      match l.known c.schema with
      | some _ => c
      | none =>
        let told := exchange l.sql c.backend
        { backend := told.2
          schema := told.1.toOption.elim c.schema fun messages =>
            l.learn (Message.rows messages) c.schema
          affectedRows := (told.1.toOption.map Message.count).getD c.affectedRows
          lastInsertId := c.lastInsertId } := by
  change (l.perform.runOn c).2 = _
  rw [Lookup.runOn_perform]
  unfold answered
  cases l.known c.schema with
  | some answer => rfl
  | none =>
      dsimp only
      cases exchange l.sql c.backend with
      | mk outcome backend => cases outcome <;> rfl

end Event

def session (c : Postgres β) : List Call → List (Event β)
  | [] => []
  | call :: calls => ⟨call, c⟩ :: session (Event.after ⟨call, c⟩) calls

def afterCalls (c : Postgres β) (calls : List Call) : Postgres β :=
  calls.foldl (fun c call => Event.after ⟨call, c⟩) c

/-- A part of the connection that every call sets or leaves is as the latest call that set it. -/
theorem afterCalls_eq_latest {τ : Type} (view : Postgres β → τ) (sets : Event β → Option τ)
    (each : ∀ e, view e.after = (sets e).getD (view e.before)) (calls : List Call)
    (c : Postgres β) :
    view (afterCalls c calls) = ((session c calls).filterMap sets).getLast?.getD (view c) := by
  induction calls generalizing c with
  | nil => rfl
  | cons call calls ih =>
      have first := each ⟨call, c⟩
      change view (afterCalls (Event.after ⟨call, c⟩) calls) = _
      rw [ih, first, session, List.filterMap_cons]
      cases sets ⟨call, c⟩ with
      | none => rfl
      | some value => simp [List.getLast?_cons]

/-- What holds of a connection and is kept by every call holds at every call. -/
theorem holds_at_calls (holds : Postgres β → Prop)
    (each : ∀ e : Event β, holds e.before → holds e.after) {calls : List Call} {c : Postgres β}
    (start : holds c) {e : Event β} (member : e ∈ session c calls) : holds e.before := by
  induction calls generalizing c with
  | nil => cases member
  | cons call calls ih =>
      rcases List.mem_cons.mp member with rfl | later
      · exact start
      · exact ih (each ⟨call, c⟩ start) later

end Postgres

end RecordMapper
