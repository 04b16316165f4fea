import RecordMapper.Error
import RecordMapper.Schema.Model
import RecordMapper.Sql.Render
import RecordMapper.Value

/-!
Operations, what they are answered, and the connections to a database that they are put to.
-/

set_option autoImplicit false

namespace RecordMapper

/-!
## Operations

Operations that may fail and that change a state on the way. What a failed operation has changed
before it failed stays changed.
-/

abbrev Action (σ α : Type) := ExceptT Error (StateM σ) α

namespace Action

variable {σ τ α : Type}

def ofExcept (outcome : Except Error α) : Action σ α := ExceptT.mk (pure outcome)

def fail (cause : Cause) : Action σ α := ofExcept (.error (.of cause))

def runOn (action : Action σ α) (state : σ) : Except Error α × σ := action.run.run state

def zoom (get : σ → τ) (put : τ → σ → σ) (action : Action τ α) : Action σ α :=
  ExceptT.mk fun state =>
    let (outcome, part) := action.runOn (get state)
    (outcome, put part state)

end Action

/-- Things that remember the latest error of their own operations. -/
class Remembers (τ : Type) where
  remember : Error → τ → τ

/-- What an operation leaves of the thing it is asked of: the new state of it on success, and
otherwise the old one, which only remembers the error. -/
def Remembers.settle {τ α : Type} [Remembers τ] (thing : τ) :
    Except Error (α × τ) → Except Error α × τ
  | .ok (answer, next) => (.ok answer, next)
  | .error e => (.error e, remember e thing)

def Action.tracked {σ τ α : Type} [Remembers τ] (operation : τ → Action σ (α × τ)) :
    Action (τ × σ) α :=
  ExceptT.mk fun (thing, state) =>
    let (outcome, state) := (operation thing).runOn state
    let (answer, thing) := Remembers.settle thing outcome
    (answer, (thing, state))

def Action.observed {σ τ α : Type} [Remembers τ] (operation : τ → Action σ α) :
    Action (τ × σ) α :=
  tracked fun thing => do
    let answer ← operation thing
    return (answer, thing)

/-! ## Answers -/

/-- The answer to a statement: the number of rows that it changed, or the rows that it returns. -/
inductive Response where
  | count (changed : UInt64)
  | rows (found : List Row)

namespace Response

instance : Inhabited Response := ⟨.rows []⟩

def isCount : Response → Bool
  | .count _ => true
  | .rows _ => false

def isRows (r : Response) : Bool := !r.isCount

def size : Response → UInt64
  | .count n => n
  | .rows found => .ofNat found.length

/-- The returned rows: none for a statement that only changes rows. -/
def toRows : Response → List Row
  | .count _ => []
  | .rows found => found

end Response

/-!
## Connections

Connections to a database: what every connection can do, and the questions about tables that are put
to it by normalized names.
-/

/-- A state that answers SQL statements and questions about the schema of its database. -/
class Connection (σ : Type) where
  dialect : σ → Dialect
  exec : String → Action σ Response
  /-- Executes a statement: its text in the dialect, unless the connection knows better. -/
  run : Statement → Action σ Response := fun statement => do
    exec (statement.render (dialect (← get)))
  /-- The identifier of the row inserted last, where the database reports one. -/
  lastInsertId : Action σ (Option Int64)
  /-- The number of rows that the latest statement changed. -/
  affectedRows : σ → UInt64
  tableExists : String → Action σ Bool
  columnsOfTable : String → Action σ (OrderedMap String)
  currentDatabase : Action σ String

namespace Connection

def verb (sql : String) : String := Text.asciiUpper (Text.firstWord sql)

variable {σ : Type} [Connection σ]

def currentDialect : Action σ Dialect := do return dialect (← get)

def runQuery (s : Select) : Action σ (List Row) := do return (← run (.select s)).toRows

/-- The number in the first column of the first row, never negative; zero without a row. -/
def runCount (s : Select) : Action σ UInt64 := do
  match (← runQuery s).head?.bind Row.first? with
  | none => return 0
  | some value =>
    let n ← Action.ofExcept value.toInt64
    return UInt64.ofNat n.toInt.toNat

/-- Whether a table exists, by any spelling of its name. A name that no table can have is not asked
for. -/
def hasTable (table : String) : Action σ Bool :=
  let table := Name.normalize table
  if Name.isPlain table then tableExists table else return false

def columnNames (table : String) : Action σ (List String) := do
  return (← columnsOfTable (Name.normalize table)).keys

end Connection

end RecordMapper
