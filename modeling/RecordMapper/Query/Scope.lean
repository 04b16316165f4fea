import RecordMapper.Schema.Join
import RecordMapper.Schema.Registry

/-!
The tables that a query reaches by its joins, and the columns that its references name.
-/

set_option autoImplicit false

namespace RecordMapper

/-- A table in the scope of a query. A join table needs no model. -/
structure ScopeTable where
  model : Option Model
  columns : List String

/-- The scope of a query: its tables in join order, the primary one first, and the key equalities
that join them. -/
structure Scope where
  tables : OrderedMap ScopeTable := ∅
  equalities : List KeyEquality := []

namespace Scope

def tableNames (s : Scope) : List String := s.tables.keys

def primary (s : Scope) : String := s.tableNames.headD ""

def contains (s : Scope) (table : String) : Bool := s.tables.contains table

def model? (s : Scope) (table : String) : Option Model :=
  (s.tables.get? table).bind ScopeTable.model

/-- The primary key of a table: `id` where no model says otherwise. -/
def primaryKey (s : Scope) (table : String) : String :=
  match s.model? table with
  | some model => model.primaryKey
  | none => "id"

def columns (s : Scope) (table : String) : List String :=
  match s.tables.get? table with
  | some entry => entry.columns
  | none => []

section

variable {σ : Type} [Connection σ]

/-- Adds a table, unless it is there already. -/
def add (registry : Registry) (s : Scope) (table : String) : Action σ Scope := do
  if s.contains table then return s
  let model ← registry.load? table
  let columns ← match model with
    | some model => pure model.columns
    | none => Connection.columnNames table
  return { s with tables := s.tables.insert table { model, columns } }

/-- Follows a path of joins. Each one starts from the target of the one before. -/
def follow (registry : Registry) (s : Scope) (source : String) : List String → Action σ Scope
  | [] => return s
  | target :: rest =>
    match s.model? source with
    | none => Action.fail (.relationNotDeclared source target)
    | some model => do
      let hop ← Action.ofExcept (model.hopTo target)
      let s ← hop.tables.foldlM (add registry) s
      follow registry { s with equalities := s.equalities ++ hop.equalities } target rest

def build (registry : Registry) (primary : String) (joins : List String) : Action σ Scope := do
  let s ← add registry {} primary
  follow registry s primary joins

end

def tablesListing (s : Scope) (column : String) : List String :=
  (s.tables.entries.filter fun (_, table) => table.columns.contains column).map Prod.fst

/-- The column that a reference names. A qualified one has to name a table of the scope and one of
its columns; a bare one has to be listed by exactly one table. -/
def resolve (s : Scope) (reference : String) : Except Error ColumnRef :=
  let reference := Text.trim reference
  match Text.cut? (fun c => c == '.' || c == ':') reference.toList with
  | some (table, column) =>
    let table := Name.normalize (String.ofList table)
    let column := Text.trim (String.ofList column)
    if !s.contains table then
      .error (.of (.unknownColumn
        (reference ++ "; table \x60" ++ table ++ "\x60 is not joined (yet)")))
    else if (s.columns table).contains column then .ok (.of table column)
    else .error (.of (.unknownColumn (table ++ "." ++ column)))
  | none =>
    match s.tablesListing reference with
    | [table] => .ok (.of table reference)
    | [] => .error (.of (.unknownColumn reference))
    | tables => .error (.of (.ambiguousColumn reference tables))

end Scope

end RecordMapper
