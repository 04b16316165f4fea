import RecordMapper.Example.Shop
import RecordMapper.Proofs.Database.Joined
import RecordMapper.Proofs.Database.Keyed
import RecordMapper.Proofs.Database.Memory
import RecordMapper.Record.Link

/-!
What is in the databases of the examples, and an engine that answers from them.
-/

set_option autoImplicit false

namespace RecordMapper.Example

/-!
## Rows

Rows of the shop, one customer with two purchases and one without any, and rows of the race. The race
has a second table of events, under the name by which drivers ask for them.
-/

/-- An engine that compares nothing but equality, and knows no other SQL. -/
def engine : Engine where
  compares
  | .eq, left, right => left.same right
  | .ne, left, right => !left.same right
  | _, _, _ => false
  isTrue := Value.toBool
  fragment _ _ _ := .null

def Shop.rows : Database where
  rows
  | "customer" => [.ofList [("id", .int 1)], .ofList [("id", .int 2)]]
  | "purchase" =>
    [.ofList [("id", .int 7), ("customer_id", .int 1)],
      .ofList [("id", .int 8), ("customer_id", .int 1)],
      .ofList [("id", .int 9), ("customer_id", .null)]]
  | _ => []

/-- What a query for the purchases and their customers reads. -/
def Shop.purchaseRows : List Row := [
  .ofList [("purchase:id", .text "7"), ("customer:id", .int 1), ("customer:name", .text "Ann")],
  .ofList [("purchase:id", .int 8), ("customer:id", .int 1), ("customer:name", .text "Ann")],
  .ofList [("purchase:id", .int 9), ("customer:id", .null), ("customer:name", .null)]]

def Race.rows : Database where
  rows
  | "driver" => [.ofList [("id", .int 3), ("event_id", .int 5)]]
  | "race_event" | "raceevent" => [.ofList [("id", .int 5)]]
  | "lap" => [.ofList [("id", .int 1), ("race_event_id", .int 5)]]
  | _ => []

/-- The relations of the shop from a purchase to its customer, and on to the customer's purchases. -/
def Shop.toPurchases : List RelationKeys := [
  { kind := .belongsTo, source := "purchase", target := "customer", foreignKey := "customer_id"
    referencedKey := "id", sourceId := "id", throughId := "id", targetId := "id" },
  { kind := .hasMany, source := "customer", target := "purchase", foreignKey := "customer_id"
    referencedKey := "id", sourceId := "id", throughId := "id", targetId := "id" }]

/-- The relations of the race from a driver to the event, and on to its laps. -/
def Race.toLaps : List RelationKeys := [
  { kind := .belongsTo, source := "driver", target := "raceevent", foreignKey := "event_id"
    referencedKey := "id", sourceId := "id", throughId := "id", targetId := "id" },
  { kind := .hasMany, source := "race_event", target := "lap", foreignKey := "race_event_id"
    referencedKey := "id", sourceId := "id", throughId := "id", targetId := "id" }]

/-!
## The shop in memory

The shop in memory, on an engine that takes numerals for numbers and hands out rows in the order in
which it reads them.
-/

def output : Output where
  folds _ := false
  fragment sql _ _ := (sql, .null)
  shown group := group.headD []
  mem_shown {group} filled := by
    cases group with
    | nil => exact absurd rfl filled
    | cons first rest => exact List.mem_cons_self
  alike left right := left == right
  equivalence := by
    simp only [beq_iff_eq]
    exact eq_equivalence
  number n := if n < 2 ^ 63 then .int (.ofNat n) else .null
  toInt64_number {n m} := by
    split
    · rename_i small
      have same : (Int64.ofNat n).toInt = n := Int64.toInt_ofNat_of_lt small
      constructor
      · rintro ⟨⟩
        exact same
      · intro number
        rw [← Int64.toInt_inj.mp (same.trans number.symm)]
        rfl
    · rename_i large
      have below := m.toInt_lt
      constructor
      · rintro ⟨⟩
      · intro number
        omega
  arranged _ rows := rows
  perm_arranged _ _ := .refl _

def numeric : Engine :=
  { engine with
    compares op left right :=
      match left.number?, right.number? with
      | some m, some n => engine.compares op (.int m) (.int n)
      | _, _ => engine.compares op left right }

theorem comparesNumbers_numeric : numeric.ComparesNumbers := by
  intro left right m n first second
  change (match left.number?, right.number? with
    | some m, some n => engine.compares .eq (.int m) (.int n)
    | _, _ => engine.compares .eq left right) = _
  rw [first, second]
  change (Value.int m == Value.int n) = decide (m = n)
  rw [beq_eq_decide]
  simp

def Shop.store : Memory numeric output (fun _ => "id") where
  dialect := .postgresql
  database := "shop"
  tables := .ofList (Shop.tables.map fun (table, columns) => (table, .ofList columns))
  held := Shop.rows

/-- The models of two tables, with the fields that the store has for them. -/
def Shop.model : String → Model
  | "purchase" => {
      table := "purchase"
      fields := .ofList [("customer_id", .integer), ("name", .text), ("total", .integer)]
      relations := [⟨.belongsTo, "customer", {}⟩] }
  | _ => {
      table := "customer"
      fields := .ofList [("name", .text), ("vip", .boolean)]
      relations := [⟨.hasOne, "profile", {}⟩, ⟨.hasMany, "purchase", {}⟩] }

/-- A new customer with a name. -/
def Shop.ann : Record :=
  { Record.ofModel (Shop.model "customer") with
    fields := .ofList [("name", .text "Ann")], dirty := true }

/-- The keys of the relation from a purchase to its customer. -/
def Shop.customerKeys : RelationKeys where
  kind := .belongsTo
  source := "purchase"
  target := "customer"
  foreignKey := "customer_id"
  referencedKey := "id"
  sourceId := "id"
  throughId := "id"
  targetId := "id"

theorem Shop.onlyKind_purchase :
    (Shop.model "purchase").onlyKind (Shop.model "customer").table = .ok .belongsTo := by
  decide +kernel

theorem Shop.relationKeys_purchase :
    (Shop.model "purchase").relationKeys .belongsTo (Shop.model "customer").table =
      .ok Shop.customerKeys := by
  decide +kernel

def Shop.orphanRow : Row := .ofList [("id", .int 9), ("customer_id", .null)]

/-- A purchase without a customer, and a customer that is new. -/
def Shop.orphan : Linking (Logged (Memory numeric output fun _ => "id")) where
  source := { Record.ofModel (Shop.model "purchase") with
    id := 9, fields := Record.fieldsOf (Shop.model "purchase") Shop.orphanRow }
  target := .ofModel (Shop.model "customer")
  middle := none
  connection := { connection := Shop.store }

/-- A purchase with what is remembered of its customer, and the customer that its row has. -/
def Shop.remembered (customer : Value) : Linking (Memory numeric output fun _ => "id") where
  source := { Record.ofModel (Shop.model "purchase") with
    id := 7, fields := .ofList [("customer_id", customer)] }
  target := { Record.ofModel (Shop.model "customer") with id := 1 }
  middle := none
  connection := Shop.store

end RecordMapper.Example

/-!
## The archive

An archive whose rows are not written back as they were read: an entry has a score that is no number,
a moment in seconds and a flag in a field for texts, the identifier of a badge is read as a truth
value, and pupils and lessons name the table between them in another spelling than its model.
-/

namespace RecordMapper.Example.Archive

def registry : Registry :=
  let models : List (String × (Model → Model)) := [
    ("shelf", fun m => (m.relate .hasMany "entry" {}).relate .hasMany "badge" {}),
    ("entry", fun m => ((((m.withField "shelf_id" .integer).withField "score" .float).withField
      "moment" .timestamp).withField "flag" .text).relate .belongsTo "shelf" {}),
    ("badge", fun m => ((m.withField "id" .boolean).withField "shelf_id" .integer).relate
      .belongsTo "shelf" {}),
    ("pupil", fun m => m.relate .hasManyThrough "lesson" { through := some "Visit" }),
    ("lesson", fun m => m.relate .hasManyThrough "pupil" { through := some "Visit" }),
    ("visit", fun m => (m.withField "pupil_id" .integer).withField "lesson_id" .integer)]
  models.foldl (fun r (table, declare) => r.register table declare) {}

def entryRow : Row :=
  .ofList [("id", .int 7), ("shelf_id", .null), ("score", .text "NaN"), ("moment", .int 0),
    ("flag", .bool true)]

def rows : Database where
  rows
  | "shelf" | "pupil" | "lesson" => [.ofList [("id", .int 1)]]
  | "entry" => [entryRow]
  | "badge" => [.ofList [("id", .int 7), ("shelf_id", .null)]]
  | _ => []

def store : Memory numeric output (fun _ => "id") where
  dialect := .postgresql
  database := "archive"
  tables := .ofList (["shelf", "entry", "badge", "pupil", "lesson", "visit"].map fun table =>
    (table, .ofList [("id", "int")]))
  held := rows

/-- The record of a row, as it is read. -/
def record (table : String) (row : Row) : Record :=
  let model := ((registry.load table).runOn store).1.toOption.getD (.ofTable table)
  { Record.ofModel model with
    id := ((row.read "id").number?).getD 0, fields := Record.fieldsOf model row }

/-- The first rows of two tables, to be linked. -/
def linking (source target : String) : Linking (Logged (Memory numeric output fun _ => "id")) where
  source := record source (((rows.row? (source, 0))).getD ∅)
  target := record target (((rows.row? (target, 0))).getD ∅)
  middle := none
  connection := { connection := store }

end RecordMapper.Example.Archive
