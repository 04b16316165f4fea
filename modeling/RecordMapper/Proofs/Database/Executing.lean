import RecordMapper.Proofs.Database.Answer
import RecordMapper.Proofs.Query.Session

/-!
Connections that execute statements by their meaning on a database: what each statement is answered,
and what it leaves of the rows.
-/

set_option autoImplicit false

namespace RecordMapper

/-- What a database holds of a value that a statement writes. -/
def Value.stored : Value → Value
  | .bool b => .text (if b then "1" else "0")
  | .float x =>
    match x.datum with
    | .finite .. => .float x
    | _ => .null
  | v => v

/-- A value is held as its literal says. -/
theorem Value.literal_stored (d : Dialect) (v : Value) : v.stored.literal d = v.literal d := by
  cases v with
  | bool b => cases b <;> cases d <;> decide
  | float x =>
      unfold stored
      dsimp only
      cases datum : x.datum with
      | finite => rfl
      | _ => simp only [literal, datum]
  | _ => rfl

/-- The integer of a key column: an integer, or the numeral as which it is handed out. -/
def Value.number? : Value → Option Int64
  | .int n => some n
  | .text s => (Value.text s).toInt64.toOption
  | _ => none

theorem Value.toInt64_of_number? {v : Value} {n : Int64} (number : v.number? = some n) :
    v.toInt64 = .ok n := by
  cases v with
  | int m =>
      cases number
      rfl
  | text s =>
      change (Value.text s).toInt64.toOption = some n at number
      cases read : (Value.text s).toInt64 with
      | ok m =>
          rw [read] at number
          cases number
          rfl
      | error e =>
          rw [read] at number
          cases number
  | _ => cases number

/-! ## Changes of rows -/

def Row.written (row : Row) (values : List (String × Value)) : Row :=
  values.foldl (fun row (column, value) => row.insert column value.stored) row

theorem Row.read_written {values : List (String × Value)} (distinct : (values.map Prod.fst).Nodup)
    (row : Row) (column : String) :
    (row.written values).read column =
      match values.lookup column with
      | some value => value.stored
      | none => row.read column := by
  induction values generalizing row with
  | nil => rfl
  | cons first rest ih =>
      obtain ⟨name, value⟩ := first
      obtain ⟨fresh, others⟩ := List.nodup_cons.mp distinct
      change Row.read (Row.written (row.insert name value.stored) rest) column = _
      rw [ih others, List.lookup_cons]
      cases same : column == name with
      | true =>
          obtain rfl : column = name := beq_iff_eq.mp same
          rw [lookup_eq_none_of_not_mem fresh]
          dsimp only
          rw [read, OrderedMap.get?_insert_self]
          rfl
      | false =>
          have differ : column ≠ name := beq_eq_false_iff_ne.mp same
          rw [read, OrderedMap.get?_insert_of_ne differ]
          rfl

namespace Database

def appended (db : Database) (table : String) (row : Row) : Database where
  rows name := if name = table then db.rows name ++ [row] else db.rows name

def updated (db : Database) (engine : Engine) (d : Dialect) (s : Update) : Database where
  rows name := (db.rows name).mapIdx fun place row =>
    if (name, place) ∈ (s.change d).touched engine db then row.written s.assignments else row

def deleted (db : Database) (engine : Engine) (d : Dialect) (s : Delete) : Database where
  rows name := ((db.rows name).zipIdx.filter fun (_, place) =>
    (name, place) ∉ (s.change d).touched engine db).map Prod.fst

variable {db : Database} {engine : Engine} {d : Dialect}

theorem rows_appended_self (table : String) (row : Row) :
    (db.appended table row).rows table = db.rows table ++ [row] :=
  if_pos rfl

theorem appended_inj {table : String} {row row' : Row}
    (same : db.appended table row = db.appended table row') : row = row' := by
  have rows := congrArg (fun db => db.rows table) same
  simp only [rows_appended_self] at rows
  exact List.singleton_inj.mp (List.append_cancel_left rows)

theorem row?_appended_last (table : String) (row : Row) :
    (db.appended table row).row? (table, (db.rows table).length) = some row := by
  unfold row?
  rw [rows_appended_self, List.getElem?_append_right (le_refl _), Nat.sub_self]
  rfl

theorem row?_updated (s : Update) (part : String × Nat) :
    (db.updated engine d s).row? part = (db.row? part).map fun row =>
      if part ∈ (s.change d).touched engine db then row.written s.assignments else row := by
  unfold row? updated
  rw [List.getElem?_mapIdx]

end Database

/-! ## Statements -/

/-- What an executed statement is answered and what it leaves of a database. The key of a table
is the column that the database fills by itself, also where it is given null. -/
inductive Statement.Executed (engine : Engine) (output : Output) (key : String → String)
    (d : Dialect) (db : Database) : Statement → Response → Database → Prop where
  | select (s : Select) : Executed engine output key d db (.select s) (.rows (s.answer engine output db)) db
  | insert (s : Insert) (response : Response) (row : Row)
      (given : ∀ column value, (column, value) ∈ s.columns →
        column ≠ key s.table ∨ value ≠ .null → row.read column = value.stored) :
      Executed engine output key d db (.insert s) response (db.appended s.table row)
  | update (s : Update) (response : Response) :
      Executed engine output key d db (.update s) response (db.updated engine d s)
  | delete (s : Delete) (response : Response) :
      Executed engine output key d db (.delete s) response (db.deleted engine d s)

namespace Connection

section

variable (σ : Type) [Connection σ] (engine : Engine) (output : Output) (held : σ → Database)

/-- Connections whose queries are answered from the rows of the database that they hold. -/
structure Answers : Prop where
  select : ∀ (s : Select) (c : σ) response c', (run (.select s)).runOn c = (.ok response, c') →
    response = .rows (s.answer engine output (held c)) ∧ held c' = held c
  tableExists : ∀ table, (tableExists table : Action σ Bool).Keeps held
  columnsOfTable : ∀ table, (columnsOfTable table : Action σ (OrderedMap String)).Keeps held

end

section

variable {σ : Type} [Connection σ]

def schema (c : σ) : (String → Except Error Bool) × (String → Except Error (OrderedMap String)) :=
  (fun table => ((tableExists table).runOn c).1, fun table => ((columnsOfTable table).runOn c).1)

end

section

variable (σ : Type) [Connection σ] (engine : Engine) (output : Output) (key : String → String)
  (held : σ → Database)

/-- Connections that execute statements by their meaning. Queries never fail, nothing changes the
schema, and a reported identifier is the key of the new row, which no earlier row had. -/
structure Executes : Prop extends Answers σ engine output held where
  succeeds : ∀ (s : Select) (c : σ), ∃ response c', (run (.select s)).runOn c = (.ok response, c')
  executed : ∀ statement (c : σ) response c', (run statement).runOn c = (.ok response, c') →
    statement.Executed engine output key (dialect c) (held c) response (held c')
  reported : ∀ (s : Insert) (c : σ) response c' row id c'',
    (run (.insert s)).runOn c = (.ok response, c') → held c' = (held c).appended s.table row →
    lastInsertId.runOn c' = (.ok (some id), c'') →
      0 < id ∧ (row.read (key s.table)).number? = some id ∧
        ∀ other ∈ (held c).rows s.table, (other.read (key s.table)).number? ≠ some id
  lastInsertId : (lastInsertId : Action σ (Option Int64)).Keeps held
  schema_run : ∀ statement, (run statement : Action σ Response).Keeps schema
  schema_lastInsertId : (Connection.lastInsertId : Action σ (Option Int64)).Keeps schema
  schema_tableExists : ∀ table, (Connection.tableExists table : Action σ Bool).Keeps schema
  schema_columnsOfTable :
    ∀ table, (Connection.columnsOfTable table : Action σ (OrderedMap String)).Keeps schema

end

variable {σ : Type} [Connection σ] {engine : Engine} {output : Output} {held : σ → Database}

theorem Answers.runQuery (answers : Answers σ engine output held) {s : Select} {c c' : σ}
    {rows : List Row} (ran : (runQuery s).runOn c = (.ok rows, c')) :
    rows = s.answer engine output (held c) ∧ held c' = held c := by
  obtain ⟨response, between, executed, returned⟩ := Action.runOn_bind_eq_ok.mp ran
  obtain ⟨rfl, kept⟩ := answers.select s c response between executed
  cases returned
  exact ⟨rfl, kept⟩

/-- The number that is read from the answer of a statement that counts is that of its joined rows. -/
theorem Answers.runCount (answers : Answers σ engine output held) {s : Select} {name : String}
    (counts : s.returning = [.count name]) (ungrouped : s.groupBy = []) (whole : s.window = none)
    {c c' : σ} {n : UInt64} (ran : (runCount s).runOn c = (.ok n, c')) :
    n.toNat = (s.reads engine (held c)).length ∧ (s.reads engine (held c)).length < 2 ^ 63 ∧
      held c' = held c := by
  obtain ⟨rows, between, read, ran⟩ := Action.runOn_bind_eq_ok.mp ran
  obtain ⟨rfl, kept⟩ := answers.runQuery read
  rw [Select.answer_of_counting counts ungrouped whole] at ran
  obtain ⟨m, _, read, returned⟩ := Action.runOn_bind_eq_ok.mp ran
  obtain ⟨number, rfl⟩ := Prod.mk.inj ((Action.runOn_ofExcept _ _).symm.trans read)
  cases returned
  have same : m.toInt = (s.reads engine (held c)).length := output.toInt64_number.mp number
  have below := m.toInt_lt
  have small : (s.reads engine (held c)).length < 2 ^ 63 := by omega
  refine ⟨?_, small, kept⟩
  rw [same, Int.toNat_natCast]
  exact UInt64.toNat_ofNat_of_lt' (by rw [UInt64.size]; omega)

theorem Executes.exists_runQuery {key : String → String}
    (law : Executes σ engine output key held) (s : Select) (c : σ) :
    ∃ c', (runQuery s).runOn c = (.ok (s.answer engine output (held c)), c') := by
  obtain ⟨response, c', executed⟩ := law.succeeds s c
  obtain ⟨rfl, -⟩ := law.select s c response c' executed
  exact ⟨c', Action.runOn_bind_ok executed⟩

/-- A statement that counts is answered unless it counts more than an integer can say. -/
theorem Executes.exists_runCount {key : String → String}
    (law : Executes σ engine output key held) {s : Select} {name : String}
    (counts : s.returning = [.count name]) (ungrouped : s.groupBy = []) (whole : s.window = none)
    {c : σ} (small : (s.reads engine (held c)).length < 2 ^ 63) :
    ∃ n c', (runCount s).runOn c = (.ok n, c') := by
  obtain ⟨c', read⟩ := law.exists_runQuery s c
  rw [Select.answer_of_counting counts ungrouped whole] at read
  have number := output.toInt64_number.mpr (Int64.toInt_ofNat_of_lt small)
  have asked : (Action.ofExcept (output.number (s.reads engine (held c)).length).toInt64).runOn c' =
      (.ok (.ofNat (s.reads engine (held c)).length), c') := by
    rw [Action.runOn_ofExcept, number]
  exact ⟨_, c', (Action.runOn_bind_ok read).trans (Action.runOn_bind_ok asked)⟩

end Connection

/-! ## Noting texts -/

namespace Logged

variable {σ : Type} [Connection σ]

theorem runOn_run (statement : Statement) (c : Logged σ) :
    (Connection.run statement).runOn c =
      (((Connection.run statement).runOn c.connection).1,
        { connection := ((Connection.run statement).runOn c.connection).2
          executed := statement.render (Connection.dialect c.connection) :: c.executed }) := rfl

/-- A statement that counts is the only one that is executed for its number. -/
theorem executed_runCount (s : Select) (c : Logged σ) :
    ((Connection.runCount s : Action (Logged σ) UInt64).runOn c).2.executed =
      (Statement.select s).render (Connection.dialect c.connection) :: c.executed := by
  have read : ((Connection.runQuery s : Action (Logged σ) (List Row)).runOn c).2.executed =
      (Statement.select s).render (Connection.dialect c.connection) :: c.executed := by
    unfold Connection.runQuery
    rw [Action.runOn_bind, runOn_run]
    cases ((Connection.run (.select s)).runOn c.connection).1 <;> rfl
  unfold Connection.runCount
  rw [Action.runOn_bind]
  cases ran : (Connection.runQuery s : Action (Logged σ) (List Row)).runOn c with
  | mk outcome c' =>
      rw [ran] at read
      cases outcome with
      | error e => exact read
      | ok rows =>
          refine Eq.trans ?_ read
          dsimp only
          split
          · rfl
          · exact (Action.Keeps.bind (.ofExcept _) fun _ => .pure _) c'

theorem run_eq_ok {statement : Statement} {c c' : Logged σ} {response : Response}
    (ran : (Connection.run statement).runOn c = (.ok response, c')) :
    (Connection.run statement).runOn c.connection = (.ok response, c'.connection) := by
  rw [runOn_run] at ran
  obtain ⟨answered, rfl⟩ := Prod.mk.inj ran
  exact Prod.ext answered rfl

theorem executed_of_run {statement : Statement} {c c' : Logged σ} {response : Response}
    (ran : (Connection.run statement).runOn c = (.ok response, c')) :
    c'.executed = statement.render (Connection.dialect c) :: c.executed := by
  rw [runOn_run] at ran
  obtain ⟨-, rfl⟩ := Prod.mk.inj ran
  rfl

theorem dialect_of_run {statement : Statement} {c c' : Logged σ} {response : Response}
    (steady : (Connection.run statement : Action σ Response).Keeps Connection.dialect)
    (ran : (Connection.run statement).runOn c = (.ok response, c')) :
    Connection.dialect c' = Connection.dialect c := by
  have kept := steady c.connection
  rw [run_eq_ok ran] at kept
  exact kept

private theorem lastInsertId_eq_ok {c c' : Logged σ} {id : Option Int64}
    (ran : Connection.lastInsertId.runOn c = (.ok id, c')) :
    Connection.lastInsertId.runOn c.connection = (.ok id, c'.connection) := by
  have asked : (((Connection.lastInsertId : Action σ _).runOn c.connection).1,
      ({ c with connection := (Connection.lastInsertId.runOn c.connection).2 } : Logged σ)) =
        (.ok id, c') := ran
  obtain ⟨answered, rfl⟩ := Prod.mk.inj asked
  exact Prod.ext answered rfl

theorem executed_of_lastInsertId {c c' : Logged σ} {id : Option Int64}
    (ran : Connection.lastInsertId.runOn c = (.ok id, c')) : c'.executed = c.executed := by
  have kept := keeps_ask (Connection.lastInsertId : Action σ (Option Int64)) c
  rw [show (ask Connection.lastInsertId).runOn c = (.ok id, c') from ran] at kept
  exact kept

/-- A connection that notes the texts of its statements executes them as the one that they are
executed on. -/
theorem executes {engine : Engine} {output : Output} {key : String → String}
    {held : σ → Database} (law : Connection.Executes σ engine output key held) :
    Connection.Executes (Logged σ) engine output key fun c => held c.connection where
  select s c response c' ran := law.select s _ response _ (run_eq_ok ran)
  tableExists table c := law.tableExists table c.connection
  columnsOfTable table c := law.columnsOfTable table c.connection
  succeeds s c := by
    obtain ⟨response, connection, ran⟩ := law.succeeds s c.connection
    rw [runOn_run, ran]
    exact ⟨response, _, rfl⟩
  executed statement c response c' ran := law.executed statement _ response _ (run_eq_ok ran)
  reported s c response c' row id c'' ran same asked :=
    law.reported s _ response _ row id _ (run_eq_ok ran) same (lastInsertId_eq_ok asked)
  lastInsertId c := law.lastInsertId c.connection
  schema_run statement c := law.schema_run statement c.connection
  schema_lastInsertId c := law.schema_lastInsertId c.connection
  schema_tableExists table c := law.schema_tableExists table c.connection
  schema_columnsOfTable table c := law.schema_columnsOfTable table c.connection

end Logged

end RecordMapper
