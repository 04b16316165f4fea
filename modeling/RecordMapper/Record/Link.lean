import RecordMapper.Record.Traverse

/-!
Linking and unlinking two records through the one relation declared between their tables. An
operation works on both records and on the record of the through table, and each of them keeps what
was done to it when a later step fails.
-/

set_option autoImplicit false

namespace RecordMapper

namespace Record

variable {σ : Type} [Connection σ]

/-- The relation from a record to another, provided that the other's table declares its inverse. -/
def complementaryKeys (r : Record) (registry : Registry) (other : Record) :
    Action σ RelationKeys := do
  let this := r.table
  let that := other.table
  let kind ← Action.ofExcept (r.model.onlyKind that)
  let keys ← Action.ofExcept (r.model.relationKeys kind that)
  if kind = .hasOneThrough then
    let through ← Action.ofExcept keys.throughTable
    let middle ← registry.load through
    if (middle.options? .belongsTo this).isSome && (middle.options? .hasOne that).isSome then
      return keys
    else
      Action.fail (.relationMismatch
        ("\x60" ++ this ++ "\x60 has one \x60" ++ that ++ "\x60 through \x60" ++ through ++
          "\x60, but \x60" ++ through ++ "\x60 does not declare belongs_to \x60" ++ this ++
          "\x60 and has_one \x60" ++ that ++ "\x60"))
  else
    match other.model.onlyKind this with
    | .error e =>
      Action.fail (.relationMismatch
        ("\x60" ++ this ++ "\x60 " ++ kind.name ++ " \x60" ++ that ++ "\x60: " ++ e.message))
    | .ok inverse =>
      let complementary : Bool := match kind with
        | .belongsTo => inverse == .hasOne || inverse == .hasMany
        | .hasOne | .hasMany => inverse == .belongsTo
        | .hasManyThrough => inverse == .hasManyThrough
        | .hasAndBelongsToMany => inverse == .hasAndBelongsToMany
        | .hasOneThrough => true
      if complementary then return keys
      else
        Action.fail (.relationMismatch
          ("\x60" ++ this ++ "\x60 " ++ kind.name ++ " \x60" ++ that ++ "\x60, but \x60" ++ that ++
            "\x60 " ++ inverse.name ++ " \x60" ++ this ++ "\x60"))

/-- The query that counts the links of a relation: those of the two records if `exact`, and
otherwise those of one record to any row of the other's table. -/
def linkQuery (r other : Record) (keys : RelationKeys) (exact : Bool) : Except Error Select := do
  let this := r.table
  let that := other.table
  let holds (table column : String) (value : Value) : Expr :=
    .eq (.column (.of table column)) (.value value)
  let onlyExact (condition : Expr) : List Expr := if exact then [condition] else []
  let (tables, conditions) ← match keys.kind with
    | .belongsTo =>
      pure ([this], holds this keys.foreignKey (other.keyValue keys.referencedKey) ::
        onlyExact (r.idCondition r.id))
    | .hasOne | .hasMany =>
      pure ([that], holds that keys.foreignKey (r.keyValue keys.referencedKey) ::
        onlyExact (other.idCondition other.id))
    | .hasOneThrough | .hasManyThrough => do
      let through ← keys.throughTable
      pure ([this, through, that],
        [r.idCondition r.id,
          .eq (.column (.of through keys.sourceKey)) (.column (.of this keys.sourceId)),
          reachesTarget keys through that] ++
        onlyExact (holds that keys.targetId (other.keyValue keys.targetId)))
    | .hasAndBelongsToMany => do
      let join ← keys.throughTable
      pure ([join], holds join keys.sourceKey (r.keyValue keys.sourceId) ::
        onlyExact (holds join keys.targetKey (other.keyValue keys.targetId)))
  return { returning := [.count "count"], tables, filter := Expr.conjAll? conditions }

/-- The number of links between two records, or of one record to the other's table. -/
def countLinks (r other : Record) (exact : Bool) : Action σ UInt64 := do
  let kind ← Action.ofExcept (r.model.onlyKind other.table)
  let keys ← Action.ofExcept (r.model.relationKeys kind other.table)
  let query ← Action.ofExcept (r.linkQuery other keys exact)
  Connection.runCount query

def linkCount (other : Record) : Action (Record × σ) UInt64 :=
  Action.observed fun r => r.countLinks other true

/-- The number of links of a record to any record of the other's table; where it belongs to the
other, of any record of its own table to the other. -/
def linkCountAny (other : Record) : Action (Record × σ) UInt64 :=
  Action.observed fun r => r.countLinks other false

def areLinked (other : Record) : Action (Record × σ) Bool := do return 0 < (← linkCount other)

/-- The through records that hold a key of this record, and of `other` where one is given. -/
def middleRecords (r : Record) (registry : Registry) (keys : RelationKeys) (other : Option Record) :
    Action σ (List Record) := do
  let through ← Action.ofExcept keys.throughTable
  let model ← registry.load through
  let holds (column : String) (value : Value) : Expr :=
    .eq (.column (.of through column)) (.value value)
  let source := holds keys.sourceKey (r.keyValue keys.sourceId)
  let filter := match other with
    | some other => source.conj (holds keys.targetKey (other.keyValue keys.targetId))
    | none => source
  let rows ← Connection.runQuery {
    returning := [.wildcard none], tables := [through], filter := some filter }
  Action.ofExcept (ofRows model rows)

end Record

/-- Two records that are being linked or unlinked, with the record of the through table: given by
the caller, or made on the way. -/
structure Linking (σ : Type) where
  source : Record
  target : Record
  middle : Option Record
  connection : σ

namespace Linking

variable {σ α : Type} [Connection σ]

def onConnection (action : Action σ α) : Action (Linking σ) α :=
  action.zoom Linking.connection fun connection l => { l with connection }

def onSource (action : Action (Record × σ) α) : Action (Linking σ) α :=
  action.zoom (fun l => (l.source, l.connection))
    fun (source, connection) l => { l with source, connection }

def onTarget (action : Action (Record × σ) α) : Action (Linking σ) α :=
  action.zoom (fun l => (l.target, l.connection))
    fun (target, connection) l => { l with target, connection }

/-- An operation of the through record, which is made first if there is none. -/
def onMiddle (registry : Registry) (through : String) (action : Action (Record × σ) α) :
    Action (Linking σ) α := do
  let middle ← match (← get).middle with
    | some middle => pure middle
    | none => onConnection (registry.create through)
  action.zoom (fun l => (middle, l.connection))
    fun (middle, connection) l => { l with middle := some middle, connection }

def setColumn (column : String) (value : Value) : Action (Record × σ) Unit :=
  ExceptT.mk fun (r, connection) =>
    let (outcome, r) := r.set column value
    (outcome, (r, connection))

def saveIfNew : Action (Record × σ) Unit := do
  let (r, _) ← get
  if !r.isPersisted then
    let _ ← Record.save

def store (column : String) (value : Value) : Action (Record × σ) Unit := do
  setColumn column value
  let _ ← Record.save

def count (exact : Bool) : Action (Linking σ) UInt64 := do
  let l ← get
  onConnection (l.source.countLinks l.target exact)

/-- Writes the keys that link the two records. -/
def establish (registry : Registry) (keys : RelationKeys) : Action (Linking σ) Unit := do
  let l ← get
  match keys.kind with
  | .belongsTo => onSource (store keys.foreignKey (l.target.keyValue keys.referencedKey))
  | .hasOne | .hasMany => onTarget (store keys.foreignKey (l.source.keyValue keys.referencedKey))
  | .hasOneThrough => do
    let through ← Action.ofExcept keys.throughTable
    let held ← onMiddle registry through do
      store keys.sourceKey (l.source.keyValue keys.sourceId)
      return (← get).1.keyValue keys.throughId
    onTarget (store keys.targetKey held)
  | .hasManyThrough => do
    let through ← Action.ofExcept keys.throughTable
    onMiddle registry through do
      setColumn keys.sourceKey (l.source.keyValue keys.sourceId)
      store keys.targetKey (l.target.keyValue keys.targetId)
  | .hasAndBelongsToMany => do
    let join ← Action.ofExcept keys.throughTable
    let _ ← onConnection (Connection.run (.insert {
      table := join
      columns := [(keys.sourceKey, l.source.keyValue keys.sourceId),
        (keys.targetKey, l.target.keyValue keys.targetId)] }))

/-- Links the two records, saving those that are new. Records that are linked already stay as they
are, and a relation to a single record is not given a second one. -/
def connect (registry : Registry) : Action (Linking σ) Unit := do
  let l ← get
  let keys ← onConnection (l.source.complementaryKeys registry l.target)
  if l.middle.isSome && !(keys.kind == .hasOneThrough || keys.kind == .hasManyThrough) then
    Action.fail (.invalidStatement
      (keys.kind.name ++ " relation from \x60" ++ keys.source ++ "\x60 to \x60" ++ keys.target ++
        "\x60 has no through record"))
  onSource saveIfNew
  onTarget saveIfNew
  if 0 < (← count true) then return
  if keys.kind == .hasOne || keys.kind == .hasOneThrough then
    if 0 < (← count false) then
      Action.fail (.tooManyRecords
        ("\x60" ++ keys.source ++ "\x60 record " ++ toString (← get).source.id.toInt ++
          " already has one \x60" ++ keys.target ++ "\x60"))
  establish registry keys

/-- Clears the keys that link the two records, or deletes the rows that do. -/
def release (registry : Registry) (keys : RelationKeys) : Action (Linking σ) Unit := do
  let l ← get
  match keys.kind with
  | .belongsTo => onSource (store keys.foreignKey .null)
  | .hasOne | .hasMany => onTarget (store keys.foreignKey .null)
  | .hasOneThrough => do
    let through ← Action.ofExcept keys.throughTable
    let middles ← onConnection (l.source.middleRecords registry keys none)
    let held := (l.target.keyValue keys.targetKey).toText
    if middles.any fun middle => (middle.keyValue keys.throughId).toText == held then
      onTarget (store keys.targetKey .null)
    else
      Action.fail (.relationMismatch
        ("\x60" ++ keys.target ++ "\x60 record " ++ toString l.target.id.toInt ++
          " is not reached through \x60" ++ through ++ "\x60"))
  | .hasManyThrough => do
    match ← onConnection (l.source.middleRecords registry keys (some l.target)) with
    | [] => return
    | [middle] =>
      let _ ← onConnection (middle.destroyed middle.id)
    | middles =>
      let through ← Action.ofExcept keys.throughTable
      Action.fail (.tooManyRecords
        (toString middles.length ++ " \x60" ++ through ++ "\x60 rows link \x60" ++ keys.source ++
          "\x60 record " ++ toString l.source.id.toInt ++ " to \x60" ++ keys.target ++
          "\x60 record " ++ toString l.target.id.toInt))
  | .hasAndBelongsToMany => do
    let join ← Action.ofExcept keys.throughTable
    let holds (column : String) (value : Value) : Expr :=
      .eq (.column (.of join column)) (.value value)
    let _ ← onConnection (Connection.run (.delete {
      table := join
      filter := some (.conj (holds keys.sourceKey (l.source.keyValue keys.sourceId))
        (holds keys.targetKey (l.target.keyValue keys.targetId))) }))

/-- Takes the link of two saved records away. Records that are not linked stay as they are. -/
def disconnect (registry : Registry) : Action (Linking σ) Unit := do
  let l ← get
  Action.ofExcept l.source.requirePersisted
  Action.ofExcept l.target.requirePersisted
  let keys ← onConnection (l.source.complementaryKeys registry l.target)
  if (← count true) == 0 then return
  release registry keys

def remembering (action : Action (Linking σ) α) : Action (Linking σ) α :=
  tryCatch action fun e => do
    modify fun l => { l with source := Remembers.remember e l.source }
    throw e

def link (registry : Registry) : Action (Linking σ) Unit := remembering (connect registry)

def unlink (registry : Registry) : Action (Linking σ) Unit := remembering (disconnect registry)

end Linking

end RecordMapper
