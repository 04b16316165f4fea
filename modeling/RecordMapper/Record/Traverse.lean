import RecordMapper.Record.Storage
import RecordMapper.Schema.Join

/-!
Following the relations of a record to the records that it is related to.
-/

set_option autoImplicit false

namespace RecordMapper.Record

variable {σ : Type} [Connection σ]

/-- At most one record: more rows than one are refused. -/
def atMostOne (model : Model) (kind : RelationKind) (rows : List Row) :
    Except Error (Option Record) :=
  if 1 < rows.length then
    .error (.of (.tooManyRecords (kind.name ++ "(" ++ model.table ++ ") matched " ++
      toString rows.length ++ " rows")))
  else (ofRows model rows).map List.head?

/-- The query for the rows of a table in which a column has a value. -/
def rowsWhere (table column : String) (value : Value) : Select where
  returning := [.wildcard none]
  tables := [table]
  filter := some (.eq (.column (.of table column)) (.value value))

def reachesTarget (keys : RelationKeys) (through target : String) : Expr :=
  match keys.kind with
  | .hasOneThrough =>
    .eq (.column (.of target keys.targetKey)) (.column (.of through keys.throughId))
  | _ => .eq (.column (.of through keys.targetKey)) (.column (.of target keys.targetId))

def directRows (r : Record) (registry : Registry) (kind : RelationKind) (table : String) :
    Action σ (Model × List Row) := do
  Action.ofExcept r.requirePersisted
  let keys ← Action.ofExcept (r.model.relationKeys kind table)
  let target ← registry.load table
  let rows ← Connection.runQuery
    (rowsWhere target.table keys.foreignKey (r.keyValue keys.referencedKey))
  return (target, rows)

/-- The target rows that through or join rows of the record lead to. -/
def throughRows (r : Record) (registry : Registry) (kind : RelationKind) (table : String) :
    Action σ (Model × List Row) := do
  Action.ofExcept r.requirePersisted
  let keys ← Action.ofExcept (r.model.relationKeys kind table)
  let through ← Action.ofExcept keys.throughTable
  let target ← registry.load table
  let rows ← Connection.runQuery {
    returning := [.wildcard (some target.table)]
    tables := [through, target.table]
    filter := some (.conj
      (.eq (.column (.of through keys.sourceKey)) (.value (r.keyValue keys.sourceId)))
      (reachesTarget keys through target.table)) }
  return (target, rows)

/-- The record that this one holds a key of. A null key leads to none. -/
def belongsTo (r : Record) (registry : Registry) (table : String) : Action σ (Option Record) := do
  Action.ofExcept r.requirePersisted
  let keys ← Action.ofExcept (r.model.relationKeys .belongsTo table)
  let held := r.keyValue keys.foreignKey
  if held.isNull then return none
  else
    let target ← registry.load table
    let rows ← Connection.runQuery (rowsWhere target.table keys.referencedKey held)
    Action.ofExcept (atMostOne target .belongsTo rows)

def hasOne (r : Record) (registry : Registry) (table : String) : Action σ (Option Record) := do
  let (target, rows) ← r.directRows registry .hasOne table
  Action.ofExcept (atMostOne target .hasOne rows)

def hasMany (r : Record) (registry : Registry) (table : String) : Action σ (List Record) := do
  let (target, rows) ← r.directRows registry .hasMany table
  Action.ofExcept (ofRows target rows)

/-- The one record behind this record's through record. -/
def hasOneThrough (r : Record) (registry : Registry) (table : String) :
    Action σ (Option Record) := do
  let (target, rows) ← r.throughRows registry .hasOneThrough table
  Action.ofExcept (atMostOne target .hasOneThrough rows)

def hasManyThrough (r : Record) (registry : Registry) (table : String) :
    Action σ (List Record) := do
  let (target, rows) ← r.throughRows registry .hasManyThrough table
  Action.ofExcept (ofRows target rows)

def hasAndBelongsToMany (r : Record) (registry : Registry) (table : String) :
    Action σ (List Record) := do
  let (target, rows) ← r.throughRows registry .hasAndBelongsToMany table
  Action.ofExcept (ofRows target rows)

/-- The records that a relation leads to. Without a kind, exactly one has to be declared. -/
def related (r : Record) (registry : Registry) (table : String) (kind : Option RelationKind) :
    Action σ (List Record) := do
  let kind ← match kind with
    | some kind => pure kind
    | none => Action.ofExcept (r.model.onlyKind table)
  match kind with
  | .belongsTo => return (← r.belongsTo registry table).toList
  | .hasOne => return (← r.hasOne registry table).toList
  | .hasMany => r.hasMany registry table
  | .hasOneThrough => return (← r.hasOneThrough registry table).toList
  | .hasManyThrough => r.hasManyThrough registry table
  | .hasAndBelongsToMany => r.hasAndBelongsToMany registry table

end RecordMapper.Record
