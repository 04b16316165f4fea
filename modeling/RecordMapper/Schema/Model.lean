import RecordMapper.Text.Basic
import RecordMapper.Text.LowerCase
import RecordMapper.Value

/-!
Models: what is declared about one table. Relations are never read off the database; only what a
model declares can be joined, traversed or linked.
-/

set_option autoImplicit false

namespace RecordMapper

/-!
## Types of fields

How types are told from the type names of a database, and how values are converted on the way in and
out.
-/

inductive FieldType where
  | text
  | clob
  | blob
  | integer
  | decimal
  | float
  | boolean
  | date
  | time
  | timestamp
  deriving DecidableEq, Repr

namespace FieldType

def name : FieldType → String
  | .text => "text"
  | .clob => "clob"
  | .blob => "blob"
  | .integer => "integer"
  | .decimal => "decimal"
  | .float => "float"
  | .boolean => "boolean"
  | .date => "date"
  | .time => "time"
  | .timestamp => "timestamp"

def all : List FieldType :=
  [.text, .clob, .blob, .integer, .decimal, .float, .boolean, .date, .time, .timestamp]

theorem mem_all (type : FieldType) : type ∈ all := by cases type <;> decide

/-- The types with their database type names, apart from those of booleans. -/
def databaseNames : List (FieldType × List String) := [
  (.integer, ["tinyint", "smallint", "mediumint", "int", "integer", "bigint", "serial", "bigserial",
    "smallserial", "int2", "int4", "int8", "year"]),
  (.decimal, ["decimal", "numeric", "money"]),
  (.float, ["float", "double", "real", "float4", "float8"]),
  (.date, ["date"]),
  (.time, ["time", "timetz"]),
  (.timestamp, ["timestamp", "timestamptz", "datetime"]),
  (.clob, ["text", "tinytext", "mediumtext", "longtext", "json", "jsonb", "xml"]),
  (.blob, ["blob", "tinyblob", "mediumblob", "longblob", "bytea", "binary", "varbinary"])]

/-- The field type of a database type name, whatever its case and size. A `tinyint` of size one is a
boolean, and a name that is not listed is a text. -/
def ofDatabaseName (name : String) : FieldType :=
  let name := Text.asciiLower (Text.trim name)
  if name = "tinyint(1)" ∨ name = "bool" ∨ name = "boolean" then .boolean
  else
    let base := String.ofList (name.toList.takeWhile fun c => c != '(' && c != ' ')
    match databaseNames.find? fun (_, names) => names.contains base with
    | some (type, _) => type
    | none => .text

/-- Converts a value read from the database. One that cannot be converted is kept as it is. -/
def fromDatabase (type : FieldType) (value : Value) : Value :=
  match type, value with
  | _, .null => .null
  | .boolean, value => .bool value.toBool
  | .integer, value =>
    match value.toInt64 with
    | .ok n => .int n
    | .error _ => value
  | .float, value =>
    match value.toBinary64 with
    | .ok x => .float x
    | .error _ => value
  | _, value => value

/-- Converts a value for writing: booleans become `0` and `1`, and whole seconds in a timestamp
become their date and time in UTC. -/
def toDatabase (type : FieldType) (value : Value) : Except Error Value :=
  match type, value with
  | _, .null => .ok .null
  | .boolean, value => .ok (.text (if value.toBool then "1" else "0"))
  | .timestamp, .int seconds =>
    let seconds := seconds.toInt
    if Time.firstSecond ≤ seconds ∧ seconds ≤ Time.lastSecond then
      .ok (.text (Time.momentText seconds))
    else .error (.of .momentOutOfRange)
  | _, value => .ok value

end FieldType

end RecordMapper

namespace RecordMapper.Name

/-!
## Names of tables

The normal form that statements use, and the canonical form under which models are registered.
-/

/-- The normal form of a table name: without blanks at its ends, in lowercase. -/
def normalize (name : String) : String := Text.lower (Text.trim name)

/-- The form in which spellings of one table agree: without blanks at its ends, without spaces and
underscores, every character in lowercase. -/
def canonical (name : String) : String :=
  String.ofList <| Text.lowerEach <|
    (Text.trimBoth Text.isBlank name.toList).filter fun c => c != ' ' && c != '_'

def modelKey (name : String) : String := "model_" ++ canonical name

def isSmallLetter (c : Char) : Bool := 'a' ≤ c && c ≤ 'z'

def isAsciiDigit (c : Char) : Bool := '0' ≤ c && c ≤ '9'

/-- Whether a name is a small ASCII letter followed by small letters, digits and underscores. -/
def isPlain (name : String) : Bool :=
  match name.toList with
  | [] => false
  | c :: rest =>
    isSmallLetter c && rest.all fun c => isSmallLetter c || isAsciiDigit c || c == '_'

end RecordMapper.Name

/-!
## Relations

The kinds of relation that a model may declare to another table, and the names that a declaration
may override.
-/

namespace RecordMapper

inductive RelationKind where
  /-- The source row holds a key of one target row. -/
  | belongsTo
  /-- One target row holds a key of the source row. -/
  | hasOne
  /-- Any number of target rows hold a key of the source row. -/
  | hasMany
  /-- A through row holds a key of the source row, and the target row one of the through row. -/
  | hasOneThrough
  /-- Through rows hold keys of both the source row and target rows. -/
  | hasManyThrough
  /-- Rows of a join table, which need no model, hold keys of both. -/
  | hasAndBelongsToMany
  deriving DecidableEq, Repr

namespace RelationKind

/-- All kinds, in the order in which declarations are looked through. -/
def all : List RelationKind :=
  [.belongsTo, .hasOne, .hasMany, .hasOneThrough, .hasManyThrough, .hasAndBelongsToMany]

theorem mem_all (kind : RelationKind) : kind ∈ all := by cases kind <;> decide

/-- Whether at most one target row is related. -/
def isSingular : RelationKind → Bool
  | .belongsTo | .hasOne | .hasOneThrough => true
  | _ => false

def name : RelationKind → String
  | .belongsTo => "belongs_to"
  | .hasOne => "has_one"
  | .hasMany => "has_many"
  | .hasOneThrough => "has_one_through"
  | .hasManyThrough => "has_many_through"
  | .hasAndBelongsToMany => "has_and_belongs_to_many"

end RelationKind

/-- The names that a declaration states itself; the others follow the conventions of its kind. -/
structure RelationOptions where
  /-- The column that holds the key, where source and target are related directly. -/
  foreignKey : Option String := none
  referencedKey : Option String := none
  through : Option String := none
  joinTable : Option String := none
  /-- The through or join column that refers to the source row. -/
  sourceKey : Option String := none
  /-- The through or join column that refers to the target row; for a single target, the target
  column that refers to the through row. -/
  targetKey : Option String := none
  sourceId : Option String := none
  throughId : Option String := none
  targetId : Option String := none
  deriving DecidableEq, Repr

/-! ## Declarations -/

structure Declaration where
  kind : RelationKind
  target : String
  options : RelationOptions
  deriving DecidableEq, Repr

/-- A model: the declaration of a table. -/
structure Model where
  table : String
  primaryKey : String := "id"
  fields : OrderedMap FieldType := ∅
  /-- Declared relations, the latest first. It hides an earlier one of the same kind and target. -/
  relations : List Declaration := []
  deriving Repr

namespace Model

def ofTable (table : String) : Model := { table := Name.normalize table }

/-- Names the primary key column, which is `id` otherwise. -/
def withPrimaryKey (m : Model) (column : String) : Model := { m with primaryKey := column }

def withField (m : Model) (column : String) (type : FieldType) : Model :=
  { m with fields := m.fields.insert column type }

def relate (m : Model) (kind : RelationKind) (target : String) (options : RelationOptions) :
    Model :=
  { m with relations := ⟨kind, Name.normalize target, options⟩ :: m.relations }

def relateThrough (m : Model) (kind : RelationKind) (target through : String) : Model :=
  m.relate kind target { through := some (Name.normalize through) }

def hasColumn (m : Model) (column : String) : Bool :=
  column == m.primaryKey || m.fields.contains column

/-- The columns in select order: the primary key, then the fields. -/
def columns (m : Model) : List String := m.primaryKey :: m.fields.keys

def options? (m : Model) (kind : RelationKind) (target : String) : Option RelationOptions :=
  (m.relations.find? fun d => d.kind == kind && d.target == target).map Declaration.options

/-- The kinds of relation declared to a target, in the order of `RelationKind.all`. -/
def kindsTo (m : Model) (target : String) : List RelationKind :=
  RelationKind.all.filter fun kind => (m.options? kind target).isSome

/-- Takes the fields of a model from the columns of its table. The primary key is no field. -/
def detectFields (m : Model) (columns : OrderedMap String) : Model :=
  columns.entries.foldl (fun m (column, type) =>
    if column = m.primaryKey then m else m.withField column (.ofDatabaseName type)) m

end Model

end RecordMapper
