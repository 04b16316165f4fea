import RecordMapper.Connection.Basic
import RecordMapper.Schema.Model
import RecordMapper.Sql.Statement

/-!
Records: one row of a modelled table, held in memory. The primary key is held apart from the fields,
and only a positive one means that the record has been saved.
-/

set_option autoImplicit false

namespace RecordMapper

structure Record where
  model : Model
  id : Int64
  /-- The fields that have a value, in the order in which they got one. -/
  fields : OrderedMap Value
  /-- Whether there are changes that have not been saved. -/
  dirty : Bool
  /-- The latest error of one of the record's operations. -/
  lastError : Option Error

namespace Record

instance : Remembers Record := ⟨fun e r => { r with lastError := some e }⟩

/-- A record that has not been saved, without fields. -/
def ofModel (model : Model) : Record where
  model
  id := -1
  fields := ∅
  dirty := false
  lastError := none

def table (r : Record) : String := r.model.table

def isPersisted (r : Record) : Bool := 0 < r.id

/-- The key under which a result holds the record: its table and its identifier. -/
def key (r : Record) : String := r.table ++ ":" ++ toString r.id.toInt

def clearId (r : Record) : Record := { r with id := -1, dirty := true }

def get? (r : Record) (column : String) : Option Value := r.fields.get? column

def getText? (r : Record) (column : String) : Option String := (r.get? column).bind Value.text?

def getInt64? (r : Record) (column : String) : Option Int64 :=
  (r.get? column).bind fun value => value.toInt64.toOption

def getBinary64? (r : Record) (column : String) : Option Binary64 :=
  (r.get? column).bind fun value => value.toBinary64.toOption

/-- A field read as a truth value. One without a value is false. -/
def getBool (r : Record) (column : String) : Bool :=
  match r.get? column with
  | some value => value.toBool
  | none => false

/-- The value that a key column has for comparisons: the identifier for the primary key, and null
for a field without a value. -/
def keyValue (r : Record) (column : String) : Value :=
  if column = r.model.primaryKey then .int r.id else (r.get? column).getD .null

/-- The record with another value in a field, or with another identifier. Setting what is there
already is no change. -/
def assigned (r : Record) (column : String) (value : Value) : Except Error Record :=
  if column = r.model.primaryKey then do
    let id ← value.toInt64
    return if id = r.id then r else { r with id, dirty := true }
  else
    match r.model.fields.get? column with
    | none => .error (.of (.unknownColumn (r.table ++ "." ++ column)))
    | some type =>
      let value := type.fromDatabase value
      let unchanged := match r.get? column with
        | some present => present.same value
        | none => false
      .ok (if unchanged then r
        else { r with fields := r.fields.insert column value, dirty := true })

def set (r : Record) (column : String) (value : Value) : Except Error Unit × Record :=
  Remembers.settle r ((r.assigned column value).map fun r => ((), r))

def unset (r : Record) (column : String) : Option Value × Record :=
  match r.get? column with
  | some value => (some value, { r with fields := r.fields.erase column, dirty := true })
  | none => (none, r)

/-- The fields that a row has values for, in the order of the model. -/
def fieldsOf (model : Model) (row : Row) : OrderedMap Value :=
  model.fields.entries.foldl (fun fields (column, type) =>
    match row.get? column with
    | some value => fields.insert column (type.fromDatabase value)
    | none => fields) ∅

/-- The record as a row has it. Only the primary key and the fields of the model are read. -/
def hydrated (r : Record) (row : Row) : Except Error Record :=
  match row.get? r.model.primaryKey with
  | none => .error (.of (.invalidStatement
      ("row for \x60" ++ r.table ++ "\x60 has no \x60" ++ r.model.primaryKey ++ "\x60 column")))
  | some value => do
    let id ← value.toInt64
    return { r with id, fields := fieldsOf r.model row, dirty := false }

def bulkSet (r : Record) (row : Row) : Except Error Unit × Record :=
  Remembers.settle r ((r.hydrated row).map fun r => ((), r))

def ofRows (model : Model) (rows : List Row) : Except Error (List Record) :=
  rows.mapM fun row => (ofModel model).hydrated row

/-- The values that a save writes, in the order of the model. -/
def storedValues (r : Record) : Except Error (List (String × Value)) :=
  (r.model.fields.entries.filterMap fun (column, type) =>
    (r.get? column).map fun value => (column, type, value)).mapM
      fun (column, type, value) => do return (column, ← type.toDatabase value)

def idCondition (r : Record) (id : Int64) : Expr :=
  .eq (.column (.of r.table r.model.primaryKey)) (.value (.int id))

/-- The complaint about a record that has to be saved first. -/
def requirePersisted (r : Record) : Except Error Unit :=
  if r.isPersisted then .ok ()
  else .error (.of (.invalidStatement ("\x60" ++ r.table ++ "\x60 record has not been saved")))

end Record

end RecordMapper
