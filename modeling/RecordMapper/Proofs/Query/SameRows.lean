import RecordMapper.Example.Store
import RecordMapper.Proofs.Database.Change
import RecordMapper.Proofs.Query.Closed
import RecordMapper.Proofs.Query.Executed

/-!
The statements of one query are about the same rows: what it finds is what it counts, and the rows of
its own table among them are those that it assigns or removes.
-/

set_option autoImplicit false

namespace RecordMapper.Query

variable {q : Query} {d : Dialect} {scope : Scope} {engine : Engine} {db : Database}

/-- The statements of a query that compile are about the same joined rows. -/
structure AgreeOn (q : Query) (d : Dialect) (scope : Scope) (engine : Engine) (db : Database)
    (rows : List Joined) : Prop where
  distinct : rows.Nodup
  select : ∀ s, q.compileSelect d scope = .ok s → s.reads engine db = rows
  count : ∀ s, q.compileCount d scope = .ok s →
    s.reads engine db = rows ∧ s.counted? engine db = some [("count", rows.length)]
  update : ∀ fields s, q.compileUpdate d scope fields = .ok s →
    (s.change d).render d s.comment = s.render d ∧
      ∀ part, part ∈ (s.change d).touched engine db ↔
        part.1 = scope.primary ∧ ∃ parts ∈ rows, part ∈ parts
  delete : ∀ s, q.compileDelete d scope = .ok s →
    (s.change d).render d s.comment = s.render d ∧
      ∀ part, part ∈ (s.change d).touched engine db ↔
        part.1 = scope.primary ∧ ∃ parts ∈ rows, part ∈ parts

private theorem assignments_ne_nil {fields : List (String × Value)} {s : Update}
    (compiled : q.compileUpdate d scope fields = .ok s) : s.assignments ≠ [] := by
  obtain ⟨_, _, _, assigned⟩ := compileUpdate_eq_ok compiled
  cases fields with
  | nil => cases compiled
  | cons field fields =>
      rw [List.mapM_cons] at assigned
      obtain ⟨first, _, assigned⟩ := bind_eq_ok.mp assigned
      obtain ⟨rest, _, returned⟩ := bind_eq_ok.mp assigned
      rw [← Except.ok.inj returned]
      exact List.cons_ne_nil first rest

private theorem agreeOn_of_condition (filled : scope.tableNames ≠ []) {filter : Option Expr}
    (condition : q.condition d scope = .ok filter) :
    q.AgreeOn d scope engine db (db.matching engine scope.tableNames filter) where
  distinct := (db.nodup_joined scope.tableNames).filter _
  select s compiled := by
    obtain ⟨tables, same, _⟩ := compileSelect_eq_ok compiled
    obtain rfl := Except.ok.inj (condition.symm.trans same)
    rw [Select.reads, tables]
  count s compiled := by
    obtain ⟨filter', same, rfl⟩ := compileCount_eq_ok_iff.mp compiled
    obtain rfl := Except.ok.inj (condition.symm.trans same)
    exact ⟨rfl, rfl⟩
  update fields s compiled := by
    obtain ⟨table, others, same, _⟩ := compileUpdate_eq_ok compiled
    obtain rfl := Except.ok.inj (condition.symm.trans same)
    refine ⟨s.render_change d, fun part => ?_⟩
    rw [Update.mem_touched_change (assignments_ne_nil compiled) d, table, others,
      Scope.primary_cons_others filled]
  delete s compiled := by
    obtain ⟨filter', same, rfl⟩ := compileDelete_eq_ok_iff.mp compiled
    obtain rfl := Except.ok.inj (condition.symm.trans same)
    refine ⟨Delete.render_change _ d, fun part => ?_⟩
    rw [Delete.mem_touched_change d, Scope.primary_cons_others filled]

private theorem exists_agreeOn (filled : scope.tableNames ≠ []) (q : Query) (d : Dialect)
    (engine : Engine)
    (db : Database) : ∃ rows, q.AgreeOn d scope engine db rows := by
  cases condition : q.condition d scope with
  | ok filter => exact ⟨_, agreeOn_of_condition filled condition⟩
  | error e =>
      have never {filter : Option Expr} : q.condition d scope ≠ .ok filter := by
        rw [condition]
        exact fun failed => by cases failed
      refine ⟨[], .mk List.nodup_nil ?_ ?_ ?_ ?_⟩
      · intro s compiled
        exact absurd (compileSelect_eq_ok compiled).2.1 never
      · intro s compiled
        obtain ⟨_, same, _⟩ := compileCount_eq_ok_iff.mp compiled
        exact absurd same never
      · intro fields s compiled
        exact absurd (compileUpdate_eq_ok compiled).2.2.1 never
      · intro s compiled
        obtain ⟨_, same, _⟩ := compileDelete_eq_ok_iff.mp compiled
        exact absurd same never

/-- In every scope, and so in the one that a query has on a connection, all statements of the query
are about the same rows of any database; and what its operations execute are these statements. -/
theorem same_rows_and_texts {σ : Type} [Connection σ]
    (steady : ∀ sql, (Connection.exec sql : Action σ Response).Keeps Connection.dialect)
    (q : Query) (registry : Registry) :
    (∀ d scope engine db, scope.tableNames ≠ [] → ∃ rows, q.AgreeOn d scope engine db rows) ∧
      ∀ c : Journal σ, q.ExecutesTexts registry c ∧
        ∀ scope c', (q.scope registry).runOn c = (.ok scope, c') →
          scope.tableNames ≠ [] ∧ scope.primary = q.table := by
  refine ⟨fun d scope engine db filled => exists_agreeOn filled q d engine db, ?_⟩
  intro c
  refine ⟨executesTexts steady registry q c, ?_⟩
  intro scope c' ran
  refine ⟨tableNames_ne_nil ran, ?_⟩
  rw [Scope.primary, List.headD_eq_head?_getD, head?_tableNames ran]
  rfl

/-- Two of three purchases have a customer, and these are deleted. -/
theorem same_rows_and_texts_purchase :
    let q : Query := { table := "purchase", joins := ["customer"] }
    let c : Journal Scripted :=
      { connection := Example.Shop.describe { dialect := .postgresql, database := "shop" } }
    (∃ scope c' rows, (q.scope Example.Shop.registry).runOn c = (.ok scope, c') ∧
      q.AgreeOn .postgresql scope Example.engine Example.Shop.rows rows ∧
      rows = [[("purchase", 0), ("customer", 0)], [("purchase", 1), ("customer", 0)]]) ∧
    ∃ answer, ((Query.delete Example.Shop.registry).runOn (q, c)).2.2.entries =
      [("DELETE FROM purchase USING customer WHERE purchase.customer_id = customer.id;", answer)] := by
  intro q c
  obtain ⟨agree, executes⟩ :=
    same_rows_and_texts Scripted.keeps_dialect_exec q Example.Shop.registry
  constructor
  · have read : ((q.scope Example.Shop.registry).runOn c).1.toOption.map (fun scope =>
          (scope.tableNames, scope.equalities)) =
        some (["purchase", "customer"],
          [⟨.of "purchase" "customer_id", .of "customer" "id"⟩]) := by
      decide +kernel
    obtain ⟨scope, c', ran, same⟩ := Action.exists_of_map_toOption read
    obtain ⟨names, equalities⟩ := Prod.mk.inj same
    obtain ⟨rows, agrees⟩ := agree .postgresql scope Example.engine Example.Shop.rows
      ((executes c).2 scope c' ran).1
    have counted : q.compileCount .postgresql scope = .ok {
        comment := none
        returning := [.count "count"]
        tables := scope.tableNames
        filter := Expr.conjAll? (scope.equalities.map KeyEquality.condition) } := rfl
    refine ⟨scope, c', rows, ran, agrees, ?_⟩
    rw [← (agrees.count _ counted).1, Select.reads, names, equalities]
    decide +kernel
  · have read : ((deleteText Example.Shop.registry).runOn (q, c)).1.toOption.map id =
        some "DELETE FROM purchase USING customer WHERE purchase.customer_id = customer.id;" := by
      decide +kernel
    obtain ⟨text, _, ran, rfl⟩ := Action.exists_of_map_toOption read
    exact (executes c).1.delete _ (congrArg Prod.fst ran)

end RecordMapper.Query
