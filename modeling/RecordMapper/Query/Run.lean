import RecordMapper.Query.Compile
import RecordMapper.Query.Result

/-!
Running queries. Each statement is compiled before anything is sent, and a query that was built
wrong is not sent at all.
-/

set_option autoImplicit false

namespace RecordMapper.Query

variable {σ : Type} [Connection σ]

/-- The scope of a query that was built without an error. -/
def scope (q : Query) (registry : Registry) : Action σ Scope :=
  match q.error with
  | some e => throw e
  | none => Scope.build registry q.table q.joins

def compiled {α : Type} (q : Query) (registry : Registry)
    (compile : Dialect → Scope → Except Error α) : Action σ (Scope × α) := do
  let scope ← q.scope registry
  let statement ← Action.ofExcept (compile (← Connection.currentDialect) scope)
  return (scope, statement)

def textOf (statement : Statement) : Action σ String := do
  return statement.render (← Connection.currentDialect)

/-- The result of a query. The rows are counted first when a page is asked for. -/
def found (q : Query) (registry : Registry) : Action σ QueryResult := do
  let (scope, select) ← q.compiled registry q.compileSelect
  let total ←
    if q.isPaged then do
      let count ← Action.ofExcept (q.compileCount (← Connection.currentDialect) scope)
      pure (some (← Connection.runCount count))
    else pure none
  let rows ← Connection.runQuery select
  let total := total.getD (.ofNat rows.length)
  Action.ofExcept
    (QueryResult.ofRows scope q.outputMode (.ofWindow total q.pageStart q.pageSize) rows)

def updated (q : Query) (registry : Registry) (fields : List (String × Value)) :
    Action σ UInt64 := do
  let (_, update) ← q.compiled registry fun d scope => q.compileUpdate d scope fields
  return (← Connection.run (.update update)).size

def deleted (q : Query) (registry : Registry) : Action σ UInt64 := do
  let (_, delete) ← q.compiled registry q.compileDelete
  return (← Connection.run (.delete delete)).size

def trimmed (fields : List (String × Value)) : List (String × Value) :=
  fields.map fun (column, value) => (Text.trim column, value)

def find (registry : Registry) : Action (Query × σ) QueryResult :=
  Action.observed fun q => q.found registry

/-- Runs a query for one page: `size` rows from the row `start`, counted from one. -/
def findPage (registry : Registry) (start size : UInt64) : Action (Query × σ) QueryResult := do
  modify fun (q, connection) => ((q.startingAt start).limitedTo size, connection)
  find registry

def update (registry : Registry) (fields : List (String × Value)) : Action (Query × σ) UInt64 :=
  Action.observed fun q => q.updated registry (trimmed fields)

def delete (registry : Registry) : Action (Query × σ) UInt64 :=
  Action.observed fun q => q.deleted registry

def selectText (registry : Registry) : Action (Query × σ) String :=
  Action.observed fun q => do
    let (_, select) ← q.compiled registry q.compileSelect
    textOf (.select select)

/-- The text of the statement that a paged `find` counts rows with. -/
def countText (registry : Registry) : Action (Query × σ) String :=
  Action.observed fun q => do
    let (_, count) ← q.compiled registry q.compileCount
    textOf (.select count)

def updateText (registry : Registry) (fields : List (String × Value)) :
    Action (Query × σ) String :=
  Action.observed fun q => do
    let (_, update) ← q.compiled registry fun d scope => q.compileUpdate d scope (trimmed fields)
    textOf (.update update)

def deleteText (registry : Registry) : Action (Query × σ) String :=
  Action.observed fun q => do
    let (_, delete) ← q.compiled registry q.compileDelete
    textOf (.delete delete)

end RecordMapper.Query
