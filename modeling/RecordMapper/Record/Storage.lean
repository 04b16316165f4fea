import RecordMapper.Connection.Basic
import RecordMapper.Record.Basic
import RecordMapper.Schema.Registry

/-!
Reading, saving and deleting records. Each operation gives the record as it is afterwards, so that a
failed one leaves nothing changed in memory.
-/

set_option autoImplicit false

namespace RecordMapper

namespace Record

variable {σ : Type} [Connection σ]

def rowQuery (r : Record) (id : Int64) : Select where
  returning := [.wildcard none]
  tables := [r.table]
  filter := some (r.idCondition id)

/-- The record as the database has it under `id`, or under its own identifier if that is not
positive. -/
def restored (r : Record) (id : Int64) : Action σ Record := do
  let id := if 0 < id then id else r.id
  if id ≤ 0 then
    Action.fail (.recordNotFound ("table=" ++ r.table ++ "; no id to restore"))
  else
    match ← Connection.runQuery (r.rowQuery id) with
    | row :: _ => Action.ofExcept (r.hydrated row)
    | [] =>
      Action.fail (.recordNotFound ("table=" ++ r.table ++ "; id=" ++ toString id.toInt))

def updateOf (r : Record) (id : Int64) (values : List (String × Value)) : Update where
  table := r.table
  assignments := values
  filter := some (r.idCondition id)

/-- The statement that inserts `values`, under an identifier of its own if that is positive. -/
def insertOf (r : Record) (id : Int64) (values : List (String × Value)) : Insert where
  table := r.table
  columns := (if 0 < id then [(r.model.primaryKey, .int id)] else []) ++ values

/-- Inserts `values` and gives the identifier of the new row, which the database reports unless it
was given one. -/
def insert (r : Record) (id : Int64) (values : List (String × Value)) : Action σ Int64 := do
  let _ ← Connection.run (.insert (r.insertOf id values))
  if 0 < id then return id
  else
    match ← Connection.lastInsertId with
    | some id => return id
    | none => Action.fail (.unknownInsertId r.table)

/-- The record saved under `id`. Without changes nothing is sent. A positive identifier updates its
row; if that touches no row and the record was never saved, the row is inserted under it. Any other
identifier inserts a row and takes the identifier that the database gives it. -/
def saved (r : Record) (id : Int64) : Action σ Record := do
  if !r.dirty && id == r.id && decide (0 < id) then return r
  let values ← Action.ofExcept r.storedValues
  let updated ←
    if 0 < id then do
      let changed ←
        if values.isEmpty then pure 0
        else pure (← Connection.run (.update (r.updateOf id values))).size
      pure (decide (0 < changed) || r.isPersisted)
    else pure false
  let id ← if updated then pure id else r.insert id values
  return { r with id, dirty := false }

/-- Whether the row `id` was there and is deleted, and the record afterwards: one whose own row it
was is empty again. -/
def destroyed (r : Record) (id : Int64) : Action σ (Bool × Record) := do
  if id ≤ 0 then return (false, r)
  else
    let response ← Connection.run (.delete { table := r.table, filter := some (r.idCondition id) })
    let rest := if id = r.id then { r with id := -1, fields := ∅, dirty := false } else r
    return (0 < response.size, rest)

def restore (id : Int64) : Action (Record × σ) Int64 :=
  Action.tracked fun r => do
    let r ← r.restored id
    return (r.id, r)

def saveAs (id : Int64) : Action (Record × σ) Int64 :=
  Action.tracked fun r => do
    let r ← r.saved id
    return (r.id, r)

def save : Action (Record × σ) Int64 := do
  let (r, _) ← get
  saveAs r.id

def destroyId (id : Int64) : Action (Record × σ) Bool := Action.tracked fun r => r.destroyed id

def destroy : Action (Record × σ) Bool := do
  let (r, _) ← get
  destroyId r.id

end Record

namespace Registry

variable {σ : Type} [Connection σ]

def create (registry : Registry) (table : String) : Action σ Record := do
  return .ofModel (← registry.load table)

/-- A new record of a table, with the row `id` read into it if that is positive. -/
def createWithId (registry : Registry) (table : String) (id : Int64) : Action σ Record := do
  let r ← registry.create table
  if 0 < id then r.restored id else return r

end Registry

end RecordMapper
