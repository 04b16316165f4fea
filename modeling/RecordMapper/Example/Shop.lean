import RecordMapper.Connection.ScriptedBackend
import RecordMapper.Schema.Registry

/-!
Databases to put questions to: a shop and a race.
-/

set_option autoImplicit false

namespace RecordMapper.Example.Race

/-!
## The race

The events of a race and their laps. The relation of drivers to events spells the table of events in
a way that finds its model all the same.
-/

def connection : Scripted where
  dialect := .mysql
  database := "race"
  tables := .ofList [
    ("driver", .ofList [("id", "int"), ("event_id", "int")]),
    ("race_event", .ofList [("id", "int"), ("name", "varchar(64)")]),
    ("lap", .ofList [("id", "int"), ("race_event_id", "int")])]

def registry : Registry :=
  let models : List (String × (Model → Model)) := [
    ("driver", fun m => m.relate .belongsTo "RaceEvent" { foreignKey := some "event_id" }),
    ("race_event", fun m => m.relate .hasMany "lap" {}),
    ("lap", id)]
  models.foldl (fun r (table, declare) => r.register table declare) {}

end RecordMapper.Example.Race

/-!
## The shop

A small shop whose models use every kind of relation, and the tables that they stand on. No model
declares fields, so all of them are taken from the tables; the join table has no model.
-/

namespace RecordMapper.Example.Shop

def tables : List (String × List (String × String)) := [
  ("customer", [("id", "int"), ("name", "varchar(64)"), ("vip", "tinyint(1)")]),
  ("purchase",
    [("id", "int"), ("customer_id", "int"), ("name", "varchar(64)"), ("total", "int")]),
  ("profile", [("id", "int"), ("customer_id", "int"), ("bio", "text")]),
  ("post", [("id", "int"), ("title", "varchar(64)")]),
  ("tag", [("id", "int"), ("label", "varchar(32)")]),
  ("post_tag", [("post_id", "int"), ("tag_id", "int")]),
  ("student", [("id", "int"), ("name", "varchar(64)")]),
  ("course", [("id", "int"), ("title", "varchar(64)")]),
  ("enrollment", [("id", "int"), ("student_id", "int"), ("course_id", "int")]),
  ("supplier", [("id", "int"), ("name", "varchar(64)")]),
  ("account", [("id", "int"), ("supplier_id", "int"), ("number", "varchar(32)")]),
  ("account_history", [("id", "int"), ("account_id", "int"), ("credit", "int")])]

def describe (s : Scripted) : Scripted :=
  tables.foldl (fun s (table, columns) => s.describe table (.ofList columns)) s

def registry : Registry :=
  let models : List (String × (Model → Model)) := [
    ("customer", fun m => (m.relate .hasMany "purchase" {}).relate .hasOne "profile" {}),
    ("purchase", fun m => m.relate .belongsTo "customer" {}),
    ("profile", fun m => m.relate .belongsTo "customer" {}),
    ("post", fun m => m.relate .hasAndBelongsToMany "tag" {}),
    ("tag", fun m => m.relate .hasAndBelongsToMany "post" {}),
    ("student", fun m => m.relateThrough .hasManyThrough "course" "enrollment"),
    ("course", fun m => m.relateThrough .hasManyThrough "student" "enrollment"),
    ("enrollment", fun m => (m.relate .belongsTo "student" {}).relate .belongsTo "course" {}),
    ("supplier", fun m => m.relateThrough .hasOneThrough "account_history" "account"),
    ("account", fun m =>
      (m.relate .belongsTo "supplier" {}).relate .hasOne "account_history" {}),
    ("account_history", fun m =>
      m.relate .belongsTo "account" { foreignKey := some "account_id" })]
  models.foldl (fun r (table, declare) => r.register table declare) {}

end RecordMapper.Example.Shop
