import RecordMapper.Connection.Postgres
import RecordMapper.Proofs.Connection.Session
import RecordMapper.Proofs.OrderedMap

/-!
What a connection remembers of the schema. As long as only statements that are seen to create or
drop tables change the schema, the remembered answers are those that the server would give.
-/

set_option autoImplicit false

namespace RecordMapper

/-! ## First words -/

namespace Text

private theorem pieces_append_cut {cuts : Char → Bool} {piece rest : List Char} {c : Char}
    (whole : piece.any cuts = false) (cut : cuts c = true) :
    pieces cuts (piece ++ c :: rest) = piece :: pieces cuts rest := by
  induction piece with
  | nil => simp [pieces, cut]
  | cons d piece ih =>
      rw [List.any_cons, Bool.or_eq_false_iff] at whole
      simp [pieces, whole.1, ih whole.2]

/-- A text that begins with a word and a space. -/
theorem words_of_begins {word : List Char} {text : String} (filled : word ≠ [])
    (whole : word.any isBlank = false) (starts : word ++ [' '] <+: text.toList) :
    ∃ rest, words text = String.ofList word :: rest := by
  obtain ⟨rest, split⟩ := starts
  have split : text.toList = word ++ ' ' :: rest := by simpa using split.symm
  rw [words, split, pieces_append_cut whole rfl, List.filter_cons_of_pos (by simpa using filled)]
  exact ⟨_, rfl⟩

end Text

namespace SchemaCache

/-- A query creates and drops nothing. -/
theorem changesSchema_select {sql : String} (select : "SELECT ".toList <+: sql.toList) :
    changesSchema sql = false := by
  have filled : "SELECT".toList ≠ [] := by decide
  obtain ⟨rest, words⟩ := Text.words_of_begins filled (by decide) select
  have verb : Text.asciiUpper "SELECT" = "SELECT" := by decide
  simp [changesSchema, words, verb]

theorem observe_of_changes {s : SchemaCache} {sql : String} (changes : changesSchema sql = true) :
    s.observe sql = {} := by
  rw [observe, if_pos changes]

theorem observe_of_keeps {s : SchemaCache} {sql : String} (keeps : changesSchema sql = false) :
    s.observe sql = s := by
  rw [observe, keeps]
  rfl

end SchemaCache

namespace Postgres

structure Facts where
  database : String
  tables : List String
  columns : String → OrderedMap String

def Facts.answer (f : Facts) : Lookup → Answer
  | .tableExists table => .tableExists (f.tables.contains table)
  | .columnsOfTable table => .columns (f.columns table)
  | .currentDatabase => .database f.database

variable {β : Type} [Backend β]

/-- Servers that answer questions about their schema truly, or not at all, and that change it for no
text but those that are seen to create or drop tables or databases. -/
structure Describes (facts : β → Facts) : Prop where
  tables : ∀ {server messages}, (exchange tablesQuery server).1 = .ok messages →
    firstTexts (Message.rows messages) = (facts server).tables
  columns : ∀ {server table messages}, (exchange (columnsQuery table) server).1 = .ok messages →
    describedColumns (Message.rows messages) = (facts server).columns table
  database : ∀ {server messages}, (exchange databaseQuery server).1 = .ok messages →
    (firstTexts (Message.rows messages)).headD "" = (facts server).database
  keeps : ∀ {sql}, SchemaCache.changesSchema sql = false →
    ∀ server, facts (exchange sql server).2 = facts server

theorem starts_columnsQuery (table : String) :
    "SELECT column_name, data_type FROM information_schema.columns ".toList <+:
      (columnsQuery table).toList := by
  unfold columnsQuery
  simp only [String.toList_append, List.append_assoc]
  exact List.prefix_append _ _

namespace Lookup

private theorem changesSchema_sql (l : Lookup) : SchemaCache.changesSchema l.sql = false := by
  apply SchemaCache.changesSchema_select
  cases l with
  | tableExists table =>
      have head : "SELECT ".toList <+: tablesQuery.toList := by decide +kernel
      exact head
  | columnsOfTable table =>
      have head : "SELECT ".toList <+:
          "SELECT column_name, data_type FROM information_schema.columns ".toList := by
        decide +kernel
      exact head.trans (starts_columnsQuery table)
  | currentDatabase => decide +kernel

/-- What is known after an answer has come is that answer, or was known before. -/
theorem known_learn {l other : Lookup} {found : List Row} {s : SchemaCache} {answer : Answer}
    (known : other.known (l.learn found s) = some answer) :
    (other.sql = l.sql ∧ answer = other.read found) ∨ other.known s = some answer := by
  cases l with
  | tableExists table =>
      cases other with
      | tableExists name =>
          refine .inl ⟨rfl, ?_⟩
          simp only [Lookup.known, learn, SchemaCache.setTables, Option.map_some] at known
          rw [← Option.some.inj known]
          simp [read]
      | columnsOfTable name => exact .inr known
      | currentDatabase => exact .inr known
  | columnsOfTable table =>
      cases other with
      | tableExists name => exact .inr known
      | columnsOfTable name =>
          by_cases same : name = table
          · subst same
            refine .inl ⟨rfl, ?_⟩
            simp only [Lookup.known, learn, SchemaCache.setColumns,
              OrderedMap.get?_insert_self] at known
            exact (Option.some.inj known).symm
          · simp only [Lookup.known, learn, SchemaCache.setColumns,
              OrderedMap.get?_insert_of_ne same] at known
            exact .inr known
      | currentDatabase => exact .inr known
  | currentDatabase =>
      cases other with
      | tableExists name => exact .inr known
      | columnsOfTable name => exact .inr known
      | currentDatabase => exact .inl ⟨rfl, (Option.some.inj known).symm⟩

end Lookup

/-! ## What is remembered -/

/-- All that is remembered holds of the schema. -/
def Current (f : Facts) (s : SchemaCache) : Prop :=
  ∀ l answer, l.known s = some answer → answer = f.answer l

theorem current_empty (f : Facts) : Current f {} := by
  intro l answer known
  cases l <;> cases known

section

variable {facts : β → Facts} (law : Describes facts)

include law

theorem Describes.read {l : Lookup} {server : β} {messages : List Message}
    (told : (exchange l.sql server).1 = .ok messages) :
    l.read (Message.rows messages) = (facts server).answer l := by
  cases l with
  | tableExists table =>
      rw [Lookup.read, law.tables told]
      rfl
  | columnsOfTable table =>
      rw [Lookup.read, law.columns told]
      rfl
  | currentDatabase =>
      rw [Lookup.read, law.database told]
      rfl

private theorem current_learn {l : Lookup} {server : β} {messages : List Message} {s : SchemaCache}
    (told : (exchange l.sql server).1 = .ok messages) (current : Current (facts server) s) :
    Current (facts server) (l.learn (Message.rows messages) s) := by
  intro other answer known
  rcases Lookup.known_learn known with ⟨same, rfl⟩ | known
  · exact law.read (same ▸ told)
  · exact current other answer known

private theorem facts_after_exec {sql : String} (keeps : SchemaCache.changesSchema sql = false)
    (c : Postgres β) : facts (Event.after ⟨.exec sql, c⟩).backend = facts c.backend := by
  have kept := law.keeps keeps c.backend
  rw [Event.after_exec]
  dsimp only
  split
  · have select : SchemaCache.changesSchema lastValueQuery = false :=
      SchemaCache.changesSchema_select (by decide +kernel)
    exact (law.keeps select _).trans kept
  · exact kept

theorem facts_after_lookup (l : Lookup) (c : Postgres β) :
    facts (Event.after ⟨.lookup l, c⟩).backend = facts c.backend := by
  rw [Event.after_lookup]
  split
  · rfl
  · exact law.keeps l.changesSchema_sql c.backend

private theorem eq_answer_of_perform {l : Lookup} {c : Postgres β} {answer : Answer}
    (current : Current (facts c.backend) c.schema) (ok : (l.perform.runOn c).1 = .ok answer) :
    answer = (facts c.backend).answer l := by
  rw [Lookup.outcome_perform] at ok
  cases known : l.known c.schema with
  | some remembered =>
      rw [known] at ok
      cases ok
      exact current l answer known
  | none =>
      rw [known] at ok
      cases told : (exchange l.sql c.backend).1 with
      | error e =>
          rw [told] at ok
          cases ok
      | ok messages =>
          rw [told] at ok
          cases ok
          exact law.read told

/-- Every call keeps what is remembered true of the schema. -/
theorem current_after (e : Event β)
    (current : Current (facts e.before.backend) e.before.schema) :
    Current (facts e.after.backend) e.after.schema := by
  obtain ⟨call, c⟩ := e
  cases call with
  | exec sql =>
      cases keeps : SchemaCache.changesSchema sql with
      | true =>
          rw [Event.after_exec, SchemaCache.observe_of_changes keeps]
          exact current_empty _
      | false =>
          rw [facts_after_exec law keeps, Event.after_exec, SchemaCache.observe_of_keeps keeps]
          exact current
  | lookup l =>
      rw [facts_after_lookup law, Event.after_lookup]
      split
      · exact current
      · dsimp only
        cases told : (exchange l.sql c.backend).1 with
        | error e => exact current
        | ok messages => exact current_learn law told current
  | lastInsertId => exact current

end

end Postgres

/-!
## A server with a catalog

A server with a catalog: it knows its tables, tells them to those who ask, and creates and drops
them.
-/

namespace Example

structure Catalog where
  database : String
  /-- The tables with the names and types of their columns. -/
  tables : List (String × List (String × String))

namespace Catalog

def columnsFor (c : Catalog) (sql : String) : List (String × String) :=
  match c.tables.find? fun table => Postgres.columnsQuery table.1 == sql with
  | some table => table.2
  | none => []

def tell (c : Catalog) (sql : String) : List Message :=
  if sql = Postgres.tablesQuery then
    c.tables.map fun table => .row [("table_name", some table.1)]
  else if sql = Postgres.databaseQuery then
    [.row [("current_database", some c.database)]]
  else
    (c.columnsFor sql).map fun column =>
      .row [("column_name", some column.1), ("data_type", some column.2)]

/-- What a text leaves of the catalog. A created table has an identifier and nothing else. -/
def change (c : Catalog) (sql : String) : Catalog :=
  match Text.words sql with
  | ["CREATE", "TABLE", table] => { c with tables := c.tables ++ [(table, [("id", "integer")])] }
  | ["DROP", "TABLE", table] => { c with tables := c.tables.filter fun other => other.1 != table }
  | _ => c

def query (sql : String) : Action Catalog (List Message) :=
  ExceptT.mk fun c =>
    if Text.words sql = [] then (.error (.of (.driver "empty query" [])), c)
    else (.ok (c.tell sql), c.change sql)

instance : Backend Catalog := ⟨query⟩

end Catalog

def catalog : Catalog where
  database := "shop"
  tables := [("customer", [("id", "integer"), ("name", "text")])]

end Example

namespace Example.Catalog

open Postgres

def facts (c : Catalog) : Facts where
  database := c.database
  tables := c.tables.map Prod.fst
  columns table := .ofList (c.columnsFor (columnsQuery table))

theorem exchange_told_or_refused (sql : String) (c : Catalog) :
    exchange sql c = (.ok (c.tell sql), c.change sql) ∨ ∃ e, exchange sql c = (.error e, c) := by
  rcases exchange_refused_or_sent sql c with refused | sent
  · exact .inr refused
  · have asked : (Backend.query sql).runOn c =
        if Text.words sql = [] then (.error (.of (.driver "empty query" [])), c)
        else (.ok (c.tell sql), c.change sql) := rfl
    rw [sent, asked]
    split
    · exact .inr ⟨_, rfl⟩
    · exact .inl rfl

private theorem eq_tell {sql : String} {c : Catalog} {messages : List Message}
    (told : (exchange sql c).1 = .ok messages) : messages = c.tell sql := by
  rcases exchange_told_or_refused sql c with answered | ⟨e, refused⟩
  · rw [answered] at told
    exact (Except.ok.inj told).symm
  · rw [refused] at told
    cases told

private theorem change_eq_self {sql : String} (keeps : SchemaCache.changesSchema sql = false)
    (c : Catalog) : c.change sql = c := by
  have create : Text.asciiUpper "CREATE" = "CREATE" := by decide
  have drop : Text.asciiUpper "DROP" = "DROP" := by decide
  have table : Text.asciiUpper "TABLE" = "TABLE" := by decide
  unfold change
  split
  · rename_i words
    simp [SchemaCache.changesSchema, SchemaCache.namesSchema, words, create, table] at keeps
  · rename_i words
    simp [SchemaCache.changesSchema, SchemaCache.namesSchema, words, drop, table] at keeps
  · rfl

private theorem rows_map {α : Type} (cells : α → List (String × Option String)) (items : List α) :
    Message.rows (items.map fun item => .row (cells item)) =
      items.map fun item => Message.toRow (cells item) := by
  rw [Message.rows, List.filterMap_map]
  exact congrFun List.filterMap_eq_map items

private theorem columnsQuery_ne {table sql : String}
    (other : ¬ "SELECT column_name, data_type FROM information_schema.columns ".toList <+:
      sql.toList) : columnsQuery table ≠ sql := by
  rintro rfl
  exact other (starts_columnsQuery table)

private theorem describes_facts : Describes facts where
  tables {c messages} told := by
    rw [eq_tell told, tell, if_pos rfl, rows_map, firstTexts, List.filterMap_map]
    exact congrFun List.filterMap_eq_map c.tables
  columns {c table messages} told := by
    rw [eq_tell told, tell, if_neg (columnsQuery_ne (by decide +kernel)),
      if_neg (columnsQuery_ne (by decide +kernel)), rows_map, describedColumns, List.filterMap_map]
    exact congrArg OrderedMap.ofList (List.filterMap_some (l := c.columnsFor (columnsQuery table)))
  database {c messages} told := by
    rw [eq_tell told, tell, if_neg (by decide +kernel), if_pos rfl]
    rfl
  keeps {sql} keeps c := by
    rcases exchange_told_or_refused sql c with answered | ⟨e, refused⟩
    · rw [answered, change_eq_self keeps]
    · rw [refused]

end Example.Catalog

namespace Postgres

variable {β : Type} [Backend β]

/-- Whatever a connection has been used for, what it says of the schema is what the schema is at
that moment, and what a connection that remembers nothing would say if it got an answer. -/
theorem answers_as_if_forgetful {facts : β → Facts} (law : Describes facts) (server : β)
    (calls : List Call) :
    ∀ e ∈ session { backend := server } calls, ∀ l answer,
      e.call = .lookup l → e.outcome = .ok answer →
        answer = (facts e.before.backend).answer l ∧
          facts e.after.backend = facts e.before.backend ∧
          ∀ other, (l.perform.runOn { e.before with schema := {} }).1 = .ok other →
            other = answer := by
  intro e member l answer call ok
  have current := holds_at_calls (fun c => Current (facts c.backend) c.schema) (current_after law)
    (current_empty (facts server)) member
  obtain ⟨call', c⟩ := e
  cases call
  have answer_eq := eq_answer_of_perform law current ok
  refine ⟨answer_eq, facts_after_lookup law l c, ?_⟩
  intro other told
  rw [answer_eq]
  exact eq_answer_of_perform law (c := { c with schema := {} }) (current_empty _) told

/-- A table that is created after it was asked for is found when it is asked for again, also after a
failed statement and from what is remembered. -/
theorem answers_as_if_forgetful_invoice :
    let asks := Lookup.tableExists "invoice"
    let calls := [.lookup asks, .exec "CREATE TABLE invoice", .exec " ", .lookup asks]
    let e : Event Example.Catalog := ⟨.lookup asks, afterCalls { backend := Example.catalog } calls⟩
    e ∈ session { backend := Example.catalog } (calls ++ [.lookup asks]) ∧
      e.outcome = .ok (.tableExists true) ∧
      .tableExists true = e.before.backend.facts.answer asks ∧
      e.after.backend.facts = e.before.backend.facts ∧
      ∀ other, (asks.perform.runOn { e.before with schema := {} }).1 = .ok other →
        other = .tableExists true := by
  intro asks calls e
  have member : e ∈ session { backend := Example.catalog } (calls ++ [.lookup asks]) :=
    .tail _ (.tail _ (.tail _ (.tail _ (.head _))))
  have ok : e.outcome = .ok (.tableExists true) := rfl
  exact ⟨member, ok,
    answers_as_if_forgetful Example.Catalog.describes_facts Example.catalog (calls ++ [.lookup asks])
      e member asks _ rfl ok⟩

end Postgres

end RecordMapper
