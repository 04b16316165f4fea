import RecordMapper.Query.Filter
import RecordMapper.Schema.Registry

/-!
Queries and the calls that build them. Columns are named by references that are resolved only when
the query runs, so a filter may name a column of a table that is joined later. The first error of
building is kept, and every later use of the query fails with it.
-/

set_option autoImplicit false

namespace RecordMapper

inductive Mode where
  | ids
  | rows
  /-- Records, each once, linked to those that came in the same rows. -/
  | objects
  deriving DecidableEq, Repr

inductive Projection where
  /-- A table, which stands for all of its columns, or a column. -/
  | named (name : String)
  | raw (sql : String)
  deriving DecidableEq, Repr

structure Query where
  table : String
  /-- The tables that are joined, each to the one before it. -/
  joins : List String := []
  filter : FilterBuilder := {}
  projection : List Projection := []
  /-- The joined tables whose records are handed out, each once. -/
  included : List String := []
  orderBy : List (String × Direction) := []
  groupBy : List String := []
  /-- The number of the first row, counted from one. -/
  pageStart : Option UInt64 := none
  pageSize : Option UInt64 := none
  mode : Mode := .objects
  distinct : Bool := false
  comment : Option String := none
  /-- The first error of building. -/
  error : Option Error := none
  /-- The latest error of building or running. -/
  lastError : Option Error := none

namespace Query

instance : Remembers Query := ⟨fun e q => { q with lastError := some e }⟩

def ofTable (table : String) (error : Option Error) : Query := { table, error, lastError := error }

/-- Keeps an error of building: the first one decides what the query answers. -/
def fail (q : Query) (e : Error) : Query :=
  { q with lastError := some e, error := q.error <|> some e }

/-- Joins a table to the one joined last. -/
def join (q : Query) (table : String) : Query :=
  { q with joins := q.joins ++ [Name.normalize table] }

def whereOperator (q : Query) (column : String) (op : Operator) (operand : Operand) : Query :=
  match Test.make column op operand with
  | .ok test => { q with filter := q.filter.push (.leaf (Text.trim column) test) }
  | .error e => q.fail e

def whereText (q : Query) (column op : String) (operand : Operand) : Query :=
  match Operator.ofText op with
  | .ok op => q.whereOperator column op operand
  | .error e => q.fail e

/-- Adds a fragment of SQL whose question marks stand for the values. -/
def whereRaw (q : Query) (sql : String) (values : List Value) : Query :=
  { q with filter := q.filter.push (.raw sql values) }

def combine (q : Query) (how : Combinator) : Query := { q with filter := q.filter.combine how }

def negateNext (q : Query) : Query := { q with filter := q.filter.negateNext }

def openGroup (q : Query) : Query := { q with filter := q.filter.openGroup }

def closeGroup (q : Query) : Query :=
  match q.filter.closeGroup with
  | .ok filter => { q with filter }
  | .error e => q.fail e

/-- Selects a table or a column. Selecting anything makes the query hand out rows. -/
def select (q : Query) (name : String) : Query :=
  { q with projection := q.projection ++ [.named (Text.trim name)] }

def selectRaw (q : Query) (sql : String) : Query :=
  { q with projection := q.projection ++ [.raw sql] }

/-- Hands out the records of a joined table too. -/
def includeTable (q : Query) (table : String) : Query :=
  let table := Name.normalize table
  if q.included.contains table then q else { q with included := q.included ++ [table] }

def inMode (q : Query) (mode : Mode) : Query := { q with mode }

def withDistinct (q : Query) (distinct : Bool) : Query := { q with distinct }

def withComment (q : Query) (text : String) : Query := { q with comment := some text }

/-- Starts at a row, counted from one. Zero counts as one. -/
def startingAt (q : Query) (row : UInt64) : Query := { q with pageStart := some (max row 1) }

def limitedTo (q : Query) (rows : UInt64) : Query := { q with pageSize := some rows }

def ordered (q : Query) (columns : List (String × Direction)) : Query :=
  { q with orderBy := q.orderBy ++ columns.map fun (column, direction) =>
      (Text.trim column, direction) }

def grouped (q : Query) (columns : List String) : Query :=
  { q with groupBy := q.groupBy ++ columns.map Text.trim }

end Query

/-- A query about a table. One that the database does not have is an error of building. -/
def Registry.query {σ : Type} [Connection σ] (table : String) : StateM σ Query := fun connection =>
  let table := Name.normalize table
  let (found, connection) := (Connection.hasTable table).runOn connection
  let error := match found with
    | .ok true => none
    | .ok false => some (missingTable table)
    | .error e => some e
  (.ofTable table error, connection)

end RecordMapper
