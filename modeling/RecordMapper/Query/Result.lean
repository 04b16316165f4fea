import RecordMapper.Query.Basic
import RecordMapper.Query.Scope
import RecordMapper.Record.Storage

/-!
Results of queries: identifiers, rows, or the graph of the records that rows hold, and a cursor that
walks over them.
-/

set_option autoImplicit false

namespace RecordMapper

structure Paging where
  /-- The number of rows without the page window. -/
  total : UInt64
  /-- The number of the first row, counted from one. -/
  pageStart : UInt64
  pageSize : UInt64
  /-- The number of the page, counted from one. -/
  pageNumber : UInt64
  deriving DecidableEq, Repr

def Paging.ofWindow (total : UInt64) (pageStart pageSize : Option UInt64) : Paging :=
  let start := max (pageStart.getD 1) 1
  let size := pageSize.getD total
  { total
    pageStart := start
    pageSize := size
    pageNumber := if size = 0 then 1 else (start - 1) / size + 1 }

/-- A record of a result, with the keys of the records that came in the same rows. -/
structure Node where
  record : Record
  links : List String := []

/-- The records of a result by their keys, and the keys of those of the primary table. -/
structure Graph where
  nodes : OrderedMap Node := ∅
  /-- In the order in which they came first, each once. -/
  roots : List String := []

inductive Payload where
  | ids (ids : List Int64)
  | rows (rows : List Row)
  | objects (graph : Graph)

/-- The key of an item: its position, or the key of its record. -/
inductive ItemKey where
  | position (n : Nat)
  | record (key : String)
  deriving DecidableEq, Repr

inductive Item where
  | id (id : Int64)
  | row (row : Row)
  | record (record : Record)

/-- Adds what is not in a list yet, in order. -/
def addNew (known : List String) (more : List String) : List String :=
  more.foldl (fun known key => if known.contains key then known else known ++ [key]) known

/-- The columns of one row by table, as the names before the colon say. Other columns are left
out. -/
def Row.groups (row : Row) : OrderedMap Row :=
  row.entries.foldl (fun groups (name, value) =>
    match Text.cut? (· == ':') name.toList with
    | some (table, column) =>
      let table := String.ofList table
      let group := (groups.get? table).getD ∅
      groups.insert table (group.insert (String.ofList column) value)
    | none => groups) ∅

namespace Graph

/-- The identifier of a group of columns. A group without a model or without a key has none. -/
def identifier? (scope : Scope) (table : String) (group : Row) :
    Except Error (Option (Model × Int64)) :=
  match scope.model? table with
  | none => .ok none
  | some model =>
    match group.get? model.primaryKey with
    | none | some .null => .ok none
    | some value => do return some (model, ← value.toInt64)

/-- Takes in one group of a row: the graph afterwards, and the keys of the row so far. -/
def addGroup (scope : Scope) (state : Graph × List String) (entry : String × Row) :
    Except Error (Graph × List String) := do
  let (graph, keys) := state
  let (table, group) := entry
  match ← identifier? scope table group with
  | none => return state
  | some (model, id) =>
    let key := table ++ ":" ++ toString id.toInt
    let nodes ←
      if graph.nodes.contains key then pure graph.nodes
      else do
        let record ← (Record.ofModel model).hydrated group
        pure (graph.nodes.insert key { record })
    let roots := if table = scope.primary then addNew graph.roots [key] else graph.roots
    return ({ nodes, roots }, keys ++ [key])

def linkKey (keys : List String) (graph : Graph) (key : String) : Graph :=
  match graph.nodes.get? key with
  | none => graph
  | some node =>
    let links := addNew node.links (keys.filter fun other => other != key)
    { graph with nodes := graph.nodes.insert key { node with links } }

/-- Takes in one row: its records are linked to each other. -/
def addRow (scope : Scope) (graph : Graph) (row : Row) : Except Error Graph := do
  let (graph, keys) ← row.groups.entries.foldlM (addGroup scope) (graph, [])
  return keys.foldl (linkKey keys) graph

def ofRows (scope : Scope) (rows : List Row) : Except Error Graph :=
  rows.foldlM (addRow scope) {}

def rootRecords (g : Graph) : List Record :=
  g.roots.filterMap fun key => (g.nodes.get? key).map Node.record

end Graph

structure QueryResult where
  primary : String
  paging : Paging
  payload : Payload
  cursor : Nat := 0

namespace QueryResult

def ofRows (scope : Scope) (mode : Mode) (paging : Paging) (rows : List Row) :
    Except Error QueryResult := do
  let primary := scope.primary
  let payload : Payload ← match mode with
    | .ids =>
      let name := (ColumnRef.of primary (scope.primaryKey primary)).selectName
      pure (.ids (← (rows.filterMap fun row => row.get? name).mapM Value.toInt64))
    | .rows => pure (.rows rows)
    | .objects => pure (.objects (← Graph.ofRows scope rows))
  return { primary, paging, payload }

def mode (r : QueryResult) : Mode :=
  match r.payload with
  | .ids _ => .ids
  | .rows _ => .rows
  | .objects _ => .objects

def size (r : QueryResult) : Nat :=
  match r.payload with
  | .ids ids => ids.length
  | .rows rows => rows.length
  | .objects graph => graph.roots.length

def isEmpty (r : QueryResult) : Bool := r.size == 0

def ids (r : QueryResult) : List Int64 :=
  match r.payload with
  | .ids ids => ids
  | _ => []

def rows (r : QueryResult) : List Row :=
  match r.payload with
  | .rows rows => rows
  | _ => []

/-- The records of the primary table, in the order of their rows. -/
def objects (r : QueryResult) : List Record :=
  match r.payload with
  | .objects graph => graph.rootRecords
  | _ => []

def object? (r : QueryResult) (key : String) : Option Record :=
  match r.payload with
  | .objects graph => (graph.nodes.get? key).map Node.record
  | _ => none

def objectCount (r : QueryResult) : Nat :=
  match r.payload with
  | .objects graph => graph.nodes.size
  | _ => 0

/-- The records of a table that came in the same rows as a record of the result. -/
def related (r : QueryResult) (record : Record) (table : String) : Except Error (List Record) :=
  match r.payload with
  | .objects graph =>
    match graph.nodes.get? record.key with
    | none =>
      .error (.of (.recordNotFound ("\x60" ++ record.key ++ "\x60 is not part of this result")))
    | some node =>
      let start := (table ++ ":").toList
      .ok ((node.links.filter fun link => start.isPrefixOf link.toList).filterMap fun link =>
        (graph.nodes.get? link).map Node.record)
  | _ =>
    .error (.of (.invalidStatement "related() needs a result materialized as objects"))

def isValid (r : QueryResult) : Bool := r.cursor < r.size

def key? (r : QueryResult) : Option ItemKey :=
  match r.payload with
  | .objects graph => graph.roots[r.cursor]?.map .record
  | _ => if r.isValid then some (.position r.cursor) else none

def current? (r : QueryResult) : Option Item :=
  match r.payload with
  | .ids ids => ids[r.cursor]?.map .id
  | .rows rows => rows[r.cursor]?.map .row
  | .objects graph =>
    graph.roots[r.cursor]?.bind fun key =>
      (graph.nodes.get? key).map fun node => .record node.record

def next (r : QueryResult) : Option (ItemKey × Item) × QueryResult :=
  match r.key?, r.current? with
  | some key, some item => (some (key, item), { r with cursor := r.cursor + 1 })
  | _, _ => (none, r)

def rewind (r : QueryResult) : QueryResult := { r with cursor := 0 }

/-- All items from the cursor on, and the result behind them; `fuel` bounds their number. -/
def takeAll (r : QueryResult) : Nat → List (ItemKey × Item) × QueryResult
  | 0 => ([], r)
  | fuel + 1 =>
    match r.next with
    | (none, r) => ([], r)
    | (some item, r) =>
      let (items, r) := r.takeAll fuel
      (item :: items, r)

/-- All remaining items, and the result behind them. -/
def rest (r : QueryResult) : List (ItemKey × Item) × QueryResult := r.takeAll r.size

def fetch {σ : Type} [Connection σ] (r : QueryResult) (registry : Registry) :
    Action σ (Option Record) :=
  match r.payload with
  | .ids ids =>
    match ids[r.cursor]? with
    | some id => do return some (← registry.createWithId r.primary id)
    | none => return none
  | _ => Action.fail (.invalidStatement "fetch() needs a result materialized as ids")

end QueryResult

end RecordMapper
