import RecordMapper.Connection.Basic
import RecordMapper.Connection.Postgres
import RecordMapper.Text.Basic

/-!
What stands in for a database where there is none: answers that a script prepares for statements that
have not arrived yet.
-/

set_option autoImplicit false

namespace RecordMapper

/-! ## Scripts -/

/-- Answers, each waiting for a statement that contains its text, the oldest first. -/
abbrev Script (α : Type) := List (String × α)

/-- The first answer that is meant for a statement, and the script without it. -/
def Script.take {α : Type} (sql : String) : Script α → Option α × Script α
  | [] => (none, [])
  | entry :: rest =>
    if Text.occurs entry.1.toList sql.toList then (some entry.2, rest)
    else
      let (answer, rest) := Script.take sql rest
      (answer, entry :: rest)

/-!
## Scripted connections

A connection that stands in for a database. Its tables are described, and its answers come from a
script; without a scripted answer a query returns no row and any other statement changes one row.
-/

structure Scripted where
  dialect : Dialect
  database : String
  tables : OrderedMap (OrderedMap String) := ∅
  script : Script (Except Error Response) := []
  /-- The texts of all executed statements, the latest first. -/
  history : List String := []
  nextInsertId : Int64 := 1
  reportsInsertIds : Bool := true
  lastInsertId : Option Int64 := none
  affectedRows : UInt64 := 0

namespace Scripted

/-- Describes a table. A second description of it takes the place of the first. -/
def describe (s : Scripted) (table : String) (columns : OrderedMap String) : Scripted :=
  { s with tables := s.tables.insert table columns }

def expect (s : Scripted) (part : String) (answer : Except Error Response) : Scripted :=
  { s with script := s.script ++ [(part, answer)] }

def log (s : Scripted) : List String := s.history.reverse

def mentioning (s : Scripted) (part : String) : List String :=
  s.log.filter fun sql => Text.occurs part.toList sql.toList

/-- The executed statements whose first word is `word`, in any case. -/
def startingWith (s : Scripted) (word : String) : List String :=
  s.log.filter fun sql =>
    (Text.words sql).head?.any fun first => Text.asciiLower first == Text.asciiLower word

/-- The answer to a statement that the script does not mention. -/
def defaultAnswer (sql : String) : Response :=
  if Connection.verb sql = "SELECT" then .rows [] else .count 1

/-- What an executed statement leaves behind: an insertion uses up an identifier. -/
def settle (s : Scripted) (sql : String) (response : Response) : Scripted :=
  let s := { s with affectedRows := response.size }
  if Connection.verb sql ≠ "INSERT" then s
  else if s.reportsInsertIds then
    { s with lastInsertId := some s.nextInsertId, nextInsertId := s.nextInsertId + 1 }
  else { s with lastInsertId := none }

/-- Executes a statement. A scripted failure leaves identifiers and counts as they were. -/
def exec (sql : String) : Action Scripted Response :=
  ExceptT.mk fun s =>
    let (answer, script) := Script.take sql s.script
    let s := { s with script, history := sql :: s.history }
    match answer.getD (.ok (defaultAnswer sql)) with
    | .ok response => (.ok response, s.settle sql response)
    | .error e => (.error e, s)

def columnsOf (s : Scripted) (table : String) : Except Error (OrderedMap String) :=
  match s.tables.get? table with
  | some columns => .ok columns
  | none => .error (.of (.unknownTable ("\x60" ++ table ++ "\x60 is not described")))

instance : Connection Scripted where
  dialect s := s.dialect
  exec := exec
  lastInsertId := do return (← get).lastInsertId
  affectedRows s := s.affectedRows
  tableExists table := do return (← get).tables.contains table
  columnsOfTable table := do Action.ofExcept ((← get).columnsOf table)
  currentDatabase := do return (← get).database

end Scripted

/-!
## Scripted servers

A backend that stands in for a PostgreSQL server. Its answers come from a script; a query that the
script does not mention is completed without rows.
-/

inductive Ending where
  | failed (text : String)
  | empty
  | completed (tag : String)
  deriving DecidableEq, Repr

structure Reply where
  /-- The names of the columns, where the statement returns rows. -/
  columns : Option (List String) := none
  /-- The texts of the rows, none for null. -/
  rows : List (List (Option String)) := []
  ending : Ending := .completed "OK"
  deriving DecidableEq, Repr

namespace Reply

def rowMessages (r : Reply) : List Message :=
  match r.columns with
  | some names => .columns names :: r.rows.map fun cells => .row (names.zip cells)
  | none => []

def messages (r : Reply) : Except Error (List Message) :=
  match r.ending with
  | .failed text => .error (.of (.driver text []))
  | .empty => .ok (r.rowMessages ++ [.done 0])
  | .completed tag => .ok (r.rowMessages ++ [.ofTag tag])

end Reply

structure ScriptedBackend where
  script : Script (List Reply)
  /-- The received queries, the latest first. -/
  history : List String := []

namespace ScriptedBackend

/-- Answers a query: with all messages of its replies, or with the failure of one of them. -/
def query (sql : String) : Action ScriptedBackend (List Message) :=
  ExceptT.mk fun s =>
    let (replies, script) := Script.take sql s.script
    let messages := (replies.getD [{}]).mapM Reply.messages
    (messages.map List.flatten, { script, history := sql :: s.history })

instance : Backend ScriptedBackend := ⟨query⟩

end ScriptedBackend

end RecordMapper
