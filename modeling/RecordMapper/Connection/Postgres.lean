import RecordMapper.Connection.Basic
import RecordMapper.OrderedMap
import RecordMapper.Text.Basic

/-!
Connections to a PostgreSQL server, and what they know of its schema.
-/

set_option autoImplicit false

namespace RecordMapper

/-!
## Remembered schemas

What a connection already knows of its database's schema. Statements that change the list of tables
or databases make it forget everything; no other statement does, so changes made elsewhere stay
unseen.
-/

/-- Schema facts that were looked up before. -/
structure SchemaCache where
  database : Option String := none
  tables : Option (List String) := none
  columns : OrderedMap (OrderedMap String) := ∅

namespace SchemaCache

instance : Inhabited SchemaCache := ⟨{}⟩

def setDatabase (c : SchemaCache) (name : String) : SchemaCache := { c with database := some name }

def setTables (c : SchemaCache) (tables : List String) : SchemaCache :=
  { c with tables := some tables.eraseDups }

def setColumns (c : SchemaCache) (table : String) (columns : OrderedMap String) : SchemaCache :=
  { c with columns := c.columns.insert table columns }

/-- Words that may stand between the verb and the kind of thing that it creates or drops. -/
def isModifier (word : String) : Bool :=
  ["TEMPORARY", "TEMP", "UNLOGGED", "OR", "REPLACE"].contains word

/-- Whether the words after the verb name a table or a database, looking at no more than `fuel`. -/
def namesSchema : Nat → List String → Bool
  | 0, _ | _, [] => false
  | fuel + 1, word :: rest =>
    if ["TABLE", "DATABASE", "SCHEMA"].contains word then true
    else isModifier word && namesSchema fuel rest

/-- Whether a statement creates or drops a table or a database, as its first four words show. -/
def changesSchema (sql : String) : Bool :=
  match (Text.words sql).map Text.asciiUpper with
  | [] => false
  | verb :: rest => (verb == "CREATE" || verb == "DROP") && namesSchema 3 rest

/-- Takes notice of a statement that is about to be executed. -/
def observe (c : SchemaCache) (sql : String) : SchemaCache :=
  if changesSchema sql then {} else c

end SchemaCache

/-!
## Connections

Connections to a PostgreSQL server that speak its simple query protocol: a statement is sent as
text, and every value comes back as text. Questions about the schema are queries themselves, so
their answers are remembered, and they count rows like any other query.
-/

inductive Message where
  | columns (names : List String)
  /-- A row: the texts of its cells by column, none for null. -/
  | row (cells : List (String × Option String))
  /-- A statement of the query is completed, and has changed or returned so many rows. -/
  | done (count : UInt64)
  deriving DecidableEq, Repr

namespace Message

/-- The message about a completed statement: its count is the last word of the server's tag, and
zero where that is no number. -/
def ofTag (tag : String) : Message :=
  let word := (Text.pieces (· == ' ') tag.toList).getLastD []
  .done ((Number.readUInt64 word).toOption.getD 0)

def toRow (cells : List (String × Option String)) : Row :=
  OrderedMap.ofList (cells.map fun (name, text) => (name, (text.map Value.text).getD .null))

/-- The rows of an answer, of all its statements together. -/
def rows (messages : List Message) : List Row :=
  messages.filterMap fun m =>
    match m with
    | .row cells => some (toRow cells)
    | _ => none

/-- Whether an answer tells of rows, even if there are none. -/
def tellsRows (messages : List Message) : Bool :=
  messages.any fun m =>
    match m with
    | .columns _ | .row _ => true
    | .done _ => false

def count (messages : List Message) : UInt64 :=
  (messages.filterMap fun m =>
    match m with
    | .done n => some n
    | _ => none).getLastD 0

/-- The first cell of a first column that reads as an integer. -/
def firstInteger? (messages : List Message) : Option Int64 :=
  messages.findSome? fun m =>
    match m with
    | .row ((_, some text) :: _) => (Number.readInt64 text.toList).toOption
    | _ => none

end Message

/-- A state that answers queries of the simple protocol. -/
class Backend (β : Type) where
  query : String → Action β (List Message)

structure Postgres (β : Type) where
  backend : β
  schema : SchemaCache := {}
  /-- The count of the latest query that succeeded. -/
  affectedRows : UInt64 := 0
  /-- The sequence value that the server reported after the latest write. -/
  lastInsertId : Option Int64 := none

namespace Postgres

def tablesQuery : String :=
  "SELECT table_name FROM information_schema.tables WHERE table_schema = current_schema()"

/-- The columns of a table of the current schema, in their order. -/
def columnsQuery (table : String) : String :=
  "SELECT column_name, data_type FROM information_schema.columns " ++
    "WHERE table_schema = current_schema() AND table_name = " ++
    Dialect.postgresql.escapeLiteral table ++ " ORDER BY ordinal_position"

def databaseQuery : String := "SELECT current_database()"

def lastValueQuery : String := "SELECT lastval()"

/-- Whether a statement may insert a row, as its first word shows. -/
def isWrite (sql : String) : Bool :=
  ["INSERT", "UPDATE", "DELETE", "REPLACE"].contains (Connection.verb sql)

def firstTexts (rows : List Row) : List String :=
  rows.filterMap fun row => row.first?.map Value.toText

/-- The columns that rows of names and types describe. Rows with fewer than two values are left
out. -/
def describedColumns (rows : List Row) : OrderedMap String :=
  OrderedMap.ofList <| rows.filterMap fun row =>
    match row.values with
    | name :: type :: _ => some (name.toText, type.toText)
    | _ => none

variable {β : Type} [Backend β]

/-- Sends a text to the server. One with a null character cannot be sent. -/
def send (sql : String) : Action (Postgres β) (List Message) :=
  if sql.toList.any fun c => c.toNat == 0 then
    Action.fail (.driver "error encoding message to server" ["string contains embedded null"])
  else
    (Backend.query sql).zoom Postgres.backend fun backend c => { c with backend }

/-- Runs a query. One that fails leaves the row count as it was. -/
def query (sql : String) : Action (Postgres β) Response := do
  let messages ← send sql
  let count := Message.count messages
  modify fun c => { c with affectedRows := count }
  return if Message.tellsRows messages then .rows (Message.rows messages) else .count count

/-- The latest sequence value of the session, if there is one. Asking for it counts no rows. -/
def lastValue : Action (Postgres β) (Option Int64) := do
  try
    let messages ← send lastValueQuery
    return Message.firstInteger? messages
  catch _ => return none

/-- Executes a statement. What is known of the schema is forgotten before the statement is sent. -/
def exec (sql : String) : Action (Postgres β) Response := do
  modify fun c => { c with schema := c.schema.observe sql }
  let response ← query sql
  if isWrite sql then
    let id ← lastValue
    modify fun c => { c with lastInsertId := id }
  return response

def tables : Action (Postgres β) (List String) := do
  match (← get).schema.tables with
  | some tables => return tables
  | none =>
    let found := firstTexts (← query tablesQuery).toRows
    modify fun c => { c with schema := c.schema.setTables found }
    return found

/-- The columns of a table, as known or as the server describes them. -/
def columnsOfTable (table : String) : Action (Postgres β) (OrderedMap String) := do
  match (← get).schema.columns.get? table with
  | some columns => return columns
  | none =>
    let found := describedColumns (← query (columnsQuery table)).toRows
    modify fun c => { c with schema := c.schema.setColumns table found }
    return found

/-- The name of the database, as known or as the server tells it; empty if it tells none. -/
def currentDatabase : Action (Postgres β) String := do
  match (← get).schema.database with
  | some database => return database
  | none =>
    let found := (firstTexts (← query databaseQuery).toRows).headD ""
    modify fun c => { c with schema := c.schema.setDatabase found }
    return found

instance : Connection (Postgres β) where
  dialect _ := .postgresql
  exec := exec
  lastInsertId := do return (← get).lastInsertId
  affectedRows c := c.affectedRows
  tableExists table := do return (← tables).contains table
  columnsOfTable := columnsOfTable
  currentDatabase := currentDatabase

end Postgres

end RecordMapper
