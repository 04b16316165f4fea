import RecordMapper.Schema.Model
import RecordMapper.Sql.Statement

/-!
How a declared relation joins two tables: the keys that follow from a declaration and the
conventions of its kind, and the tables and key equalities that a query gains by following it.
-/

set_option autoImplicit false

namespace RecordMapper

/-- All names of one declared relation. A key that the kind has no use for is empty. -/
structure RelationKeys where
  kind : RelationKind
  source : String
  target : String
  /-- The column that holds the key: of the source for `belongsTo`, of the target for `hasOne` and
  `hasMany`. -/
  foreignKey : String := ""
  referencedKey : String := ""
  through : Option String := none
  sourceKey : String := ""
  targetKey : String := ""
  sourceId : String
  throughId : String
  targetId : String
  deriving DecidableEq, Repr

structure KeyEquality where
  left : ColumnRef
  right : ColumnRef
  deriving DecidableEq, Repr

def KeyEquality.condition (e : KeyEquality) : Expr := .eq (.column e.left) (.column e.right)

/-- What following a relation adds to a query: tables, and the equalities that join them to the
table it starts from. -/
structure JoinHop where
  kind : RelationKind
  tables : List String
  equalities : List KeyEquality
  deriving DecidableEq, Repr

/-- The conventional join table of two tables: their names in order, with an underscore between
them, whichever of the two asks. -/
def defaultJoinTable (a b : String) : String :=
  if b < a then b ++ "_" ++ a else a ++ "_" ++ b

/-- The through or join table, which a through relation has to declare. -/
def RelationKeys.throughTable (keys : RelationKeys) : Except Error String :=
  match keys.through with
  | some table => .ok table
  | none => .error (.of (.relationMismatch
      (keys.kind.name ++ " relation from \x60" ++ keys.source ++ "\x60 to \x60" ++ keys.target ++
        "\x60 declares no through table")))

def RelationKeys.hop (keys : RelationKeys) : Except Error JoinHop :=
  let source := ColumnRef.of keys.source
  let target := ColumnRef.of keys.target
  match keys.kind with
  | .belongsTo =>
    .ok ⟨keys.kind, [keys.target], [⟨source keys.foreignKey, target keys.referencedKey⟩]⟩
  | .hasOne | .hasMany =>
    .ok ⟨keys.kind, [keys.target], [⟨target keys.foreignKey, source keys.referencedKey⟩]⟩
  | .hasOneThrough => do
    let table ← keys.throughTable
    let through := ColumnRef.of table
    return ⟨keys.kind, [table, keys.target],
      [⟨through keys.sourceKey, source keys.sourceId⟩,
        ⟨target keys.targetKey, through keys.throughId⟩]⟩
  | .hasManyThrough | .hasAndBelongsToMany => do
    let table ← keys.throughTable
    let through := ColumnRef.of table
    return ⟨keys.kind, [table, keys.target],
      [⟨through keys.sourceKey, source keys.sourceId⟩,
        ⟨through keys.targetKey, target keys.targetId⟩]⟩

namespace Model

def keyTo (table : String) : String := table ++ "_id"

/-- The keys of a declared relation, with the convention of its kind for every name that the
declaration leaves open. -/
def relationKeys (m : Model) (kind : RelationKind) (target : String) : Except Error RelationKeys :=
  let target := Name.normalize target
  match m.options? kind target with
  | none => .error (.of (.relationNotDeclared m.table target))
  | some declared =>
    let keys : RelationKeys := {
      kind
      source := m.table
      target
      sourceId := declared.sourceId.getD m.primaryKey
      throughId := declared.throughId.getD "id"
      targetId := declared.targetId.getD "id" }
    .ok <| match kind with
      | .belongsTo =>
        { keys with
          foreignKey := declared.foreignKey.getD (keyTo target)
          referencedKey := declared.referencedKey.getD "id" }
      | .hasOne | .hasMany =>
        { keys with
          foreignKey := declared.foreignKey.getD (keyTo m.table)
          referencedKey := declared.referencedKey.getD m.primaryKey }
      | .hasOneThrough =>
        { keys with
          through := declared.through
          sourceKey := declared.sourceKey.getD (keyTo m.table)
          targetKey := declared.targetKey.getD ((declared.through.map keyTo).getD "") }
      | .hasManyThrough =>
        { keys with
          through := declared.through
          sourceKey := declared.sourceKey.getD (keyTo m.table)
          targetKey := declared.targetKey.getD (keyTo target) }
      | .hasAndBelongsToMany =>
        { keys with
          through := some (declared.joinTable.getD (defaultJoinTable m.table target))
          sourceKey := declared.sourceKey.getD (keyTo m.table)
          targetKey := declared.targetKey.getD (keyTo target) }

def onlyKind (m : Model) (target : String) : Except Error RelationKind :=
  let target := Name.normalize target
  match m.kindsTo target with
  | [kind] => .ok kind
  | [] => .error (.of (.relationNotDeclared m.table target))
  | _ => .error (.of (.ambiguousRelation m.table target))

def hopTo (m : Model) (target : String) : Except Error JoinHop := do
  let target := Name.normalize target
  let kind ← m.onlyKind target
  (← m.relationKeys kind target).hop

end Model

end RecordMapper
