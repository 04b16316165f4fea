import RecordMapper.Connection.Basic
import RecordMapper.Schema.Model
import RecordMapper.Text.Quoted

/-!
The models of a database, found under any spelling of their table's name that has the same canonical
form.
-/

set_option autoImplicit false

namespace RecordMapper

structure Registry where
  models : OrderedMap Model := ∅

namespace Registry

instance : Inhabited Registry := ⟨{}⟩

/-- Registers the model of a table, which `declare` completes. A model registered later under the
same key takes the place of the earlier one. -/
def register (r : Registry) (table : String) (declare : Model → Model) : Registry :=
  let table := Name.normalize table
  ⟨r.models.insert (Name.modelKey table) (declare (.ofTable table))⟩

def get? (r : Registry) (table : String) : Option Model := r.models.get? (Name.modelKey table)

def contains (r : Registry) (table : String) : Bool := (r.get? table).isSome

def resolve (r : Registry) (table : String) : Except Error Model :=
  match r.get? table with
  | some model => .ok model
  | none => .error (.of (.unknownModel (Name.modelKey table)))

def size (r : Registry) : Nat := r.models.size

def isEmpty (r : Registry) : Bool := r.models.isEmpty

/-- A registry as diagnostics show it: the keys in order of registration. -/
def diagnostic (r : Registry) : String :=
  "Registry \x7b models: [" ++ ", ".intercalate (r.models.keys.map Text.quoted) ++ "] \x7d"

end Registry

end RecordMapper

/-!
## Models and tables

Models together with what the database says of their tables.
-/

namespace RecordMapper.Registry

variable {σ : Type} [Connection σ]

/-- The complaint about a table that the database does not have. -/
def missingTable (table : String) : Error :=
  .of (.unknownTable ("\x60" ++ table ++ "\x60 does not exist in the database"))

/-- The model of a table that exists. A model without declared fields takes them from the columns of
its table. -/
def load (r : Registry) (table : String) : Action σ Model := do
  let model ← Action.ofExcept (r.resolve (Name.normalize table))
  if ← Connection.hasTable model.table then
    if model.fields.isEmpty then
      return model.detectFields (← Connection.columnsOfTable model.table)
    else return model
  else throw (missingTable model.table)

/-- The model of a table, if one is registered: a join table needs none. -/
def load? (r : Registry) (table : String) : Action σ (Option Model) := do
  if r.contains table then return some (← r.load table) else return none

end RecordMapper.Registry
