import RecordMapper.Example.Shop
import RecordMapper.Proofs.Query.Compiled
import RecordMapper.Proofs.Query.ConditionLeaves
import RecordMapper.Proofs.Schema.Hop

/-!
Statements that name only columns of tables they list. The references of a query always do. The key
equalities of a hop name the table that the model of its source is declared for, which need not be
the name under which the source was joined: a model is found under any spelling of its table.
-/

set_option autoImplicit false

namespace RecordMapper

/-! ## Columns of statements -/

namespace Expr

mutual

/-- The columns that an expression names. Fragments of SQL are not looked into. -/
def columns : Expr → List ColumnRef
  | .and operands | .or operands | .xor operands => columnsAll operands
  | .not operand | .grouped operand => columns operand
  | .compare left _ right => columns left ++ columns right
  | .inList operand _ _ | .is operand _ _ => columns operand
  | .column c => [c]
  | .value _ | .raw _ => []

def columnsAll : List Expr → List ColumnRef
  | [] => []
  | e :: rest => columns e ++ columnsAll rest

end

mutual

theorem columns_eq_flatMap_leaves : (e : Expr) → e.columns = e.leaves.flatMap columns
  | .and operands => columnsAll_eq_flatMap_leaves operands
  | .or operands => columnsAll_eq_flatMap_leaves operands
  | .xor operands => columnsAll_eq_flatMap_leaves operands
  | .not operand => columns_eq_flatMap_leaves operand
  | .grouped operand => columns_eq_flatMap_leaves operand
  | .compare .. | .inList .. | .is .. | .column _ | .value _ | .raw _ => by simp [leaves]

theorem columnsAll_eq_flatMap_leaves : (es : List Expr) →
    columnsAll es = (leavesAll es).flatMap columns
  | [] => rfl
  | e :: rest => by
    rw [columnsAll, leavesAll, List.flatMap_append, columns_eq_flatMap_leaves e,
      columnsAll_eq_flatMap_leaves rest]

end

end Expr

namespace Statement

def tables : Statement → List String
  | .select s => s.tables
  | .insert s => [s.table]
  | .update s => s.table :: s.others
  | .delete s => s.table :: s.others

def filter : Statement → Option Expr
  | .select s => s.filter
  | .insert _ => none
  | .update s => s.filter
  | .delete s => s.filter

/-- The columns that a statement names outside of its condition. Those that it writes belong to the
table it changes. -/
def ownColumns : Statement → List ColumnRef
  | .select s => s.returning.flatMap SelectItem.columns ++ s.groupBy ++ s.orderBy.map Prod.fst
  | .insert s => s.columns.map fun (column, _) => .of s.table column
  | .update s => s.assignments.map fun (column, _) => .of s.table column
  | .delete _ => []

def columns (s : Statement) : List ColumnRef :=
  s.ownColumns ++ (s.filter.map Expr.columns).getD []

end Statement

/-! ## Conditions -/

private theorem Test.columns_condition (test : Test) (column : ColumnRef) :
    (test.condition column).columns = [column] := by
  cases test <;> rfl

private theorem Filter.Lowers.isIn {d : Dialect} {scope : Scope} {filter : Filter} {e : Expr}
    (lowers : filter.Lowers d scope e) : ∀ column ∈ e.columns, column.IsIn scope.tableNames := by
  induction lowers with
  | @leaf column test target resolved =>
      rw [test.columns_condition]
      exact List.forall_mem_singleton.mpr (Scope.isIn_of_resolve resolved)
  | raw filled => exact List.forall_mem_nil _
  | @combine how left right first second _ _ leftIH rightIH =>
      rw [Expr.columns_eq_flatMap_leaves, Expr.leaves_join, List.flatMap_append,
        ← Expr.columns_eq_flatMap_leaves, ← Expr.columns_eq_flatMap_leaves]
      exact List.forall_mem_append.mpr ⟨leftIH, rightIH⟩
  | @not operand inner _ ih =>
      rw [Expr.columns, Expr.columns_eq_flatMap_leaves, Expr.leaves_nest,
        ← Expr.columns_eq_flatMap_leaves]
      exact ih
  | @grouped operand inner _ ih =>
      rw [Expr.columns_eq_flatMap_leaves, Expr.leaves_group, ← Expr.columns_eq_flatMap_leaves]
      exact ih

namespace Query

variable {q : Query} {d : Dialect} {scope : Scope}

/-- The condition of a query names the columns of its joins and, beside them, columns of its
scope. -/
theorem columns_of_condition {whole : Option Expr} (compiled : q.condition d scope = .ok whole) :
    ∃ others, (∀ column ∈ others, column.IsIn scope.tableNames) ∧
      (whole.map Expr.columns).getD [] =
        scope.equalities.flatMap KeyEquality.columns ++ others := by
  obtain ⟨filter, finished, _⟩ := bind_eq_ok.mp compiled
  obtain ⟨lowered, lowers, leaves⟩ := leaves_of_condition finished compiled
  have columns : (whole.map Expr.columns).getD [] =
      ((whole.map Expr.leaves).getD []).flatMap Expr.columns := by
    cases whole with
    | none => rfl
    | some e => exact e.columns_eq_flatMap_leaves
  refine ⟨lowered.flatMap Expr.columns, ?_, ?_⟩
  · intro column member
    obtain ⟨e, held, named⟩ := List.mem_flatMap.mp member
    obtain ⟨leaf, _, ran⟩ := exists_of_mapM_eq_ok lowers held
    exact (Filter.lowers_of_lower ran).isIn column named
  · rw [columns, leaves, List.flatMap_append, List.flatMap_map]
    rfl

inductive Emits (q : Query) (d : Dialect) (scope : Scope) : Statement → Prop where
  | select {s : Select} (compiled : q.compileSelect d scope = .ok s) : Emits q d scope (.select s)
  | count {s : Select} (compiled : q.compileCount d scope = .ok s) : Emits q d scope (.select s)
  | update {fields : List (String × Value)} {s : Update}
      (compiled : q.compileUpdate d scope fields = .ok s) : Emits q d scope (.update s)
  | delete {s : Delete} (compiled : q.compileDelete d scope = .ok s) : Emits q d scope (.delete s)

/-- Every statement of a query lists the tables of its scope and asks for its condition, and what it
names beside that belongs to those tables. -/
theorem Emits.shape (filled : scope.tableNames ≠ []) {statement : Statement}
    (emitted : q.Emits d scope statement) :
    statement.tables = scope.tableNames ∧ q.condition d scope = .ok statement.filter ∧
      ∀ column ∈ statement.ownColumns, column.IsIn scope.tableNames := by
  have all := Scope.primary_cons_others filled
  have primary := Scope.primary_mem filled
  cases emitted with
  | select compiled =>
      obtain ⟨tables, condition, selected, ordered, grouped⟩ := compileSelect_eq_ok compiled
      refine ⟨tables, condition, ?_⟩
      refine List.forall_mem_append.mpr ⟨List.forall_mem_append.mpr ⟨?_, ?_⟩, ?_⟩
      · intro column member
        obtain ⟨item, held, named⟩ := List.mem_flatMap.mp member
        exact isIn_of_returning filled selected held named
      · intro column member
        obtain ⟨_, resolved⟩ := grouped column member
        exact Scope.isIn_of_resolve resolved
      · intro column member
        obtain ⟨entry, held, rfl⟩ := List.mem_map.mp member
        obtain ⟨_, resolved⟩ := ordered entry held
        exact Scope.isIn_of_resolve resolved
  | count compiled =>
      obtain ⟨filter, condition, rfl⟩ := compileCount_eq_ok_iff.mp compiled
      exact ⟨rfl, condition, List.forall_mem_nil _⟩
  | @update fields s compiled =>
      obtain ⟨table, others, condition, _⟩ := compileUpdate_eq_ok compiled
      refine ⟨?_, condition, ?_⟩
      · rw [← all, ← table, ← others]
        rfl
      · intro column member
        obtain ⟨assignment, _, rfl⟩ := List.mem_map.mp member
        exact ⟨s.table, table ▸ primary, rfl⟩
  | delete compiled =>
      obtain ⟨filter, condition, rfl⟩ := compileDelete_eq_ok_iff.mp compiled
      exact ⟨all, condition, List.forall_mem_nil _⟩

/-- A statement is closed as soon as the joins of its scope are. -/
theorem Emits.closed_iff (filled : scope.tableNames ≠ []) {statement : Statement}
    (emitted : q.Emits d scope statement) :
    (∀ column ∈ statement.columns, column.IsIn statement.tables) ↔
      ∀ column ∈ scope.equalities.flatMap KeyEquality.columns, column.IsIn scope.tableNames := by
  obtain ⟨tables, condition, own⟩ := emitted.shape filled
  obtain ⟨others, inside, columns⟩ := columns_of_condition condition
  rw [tables, Statement.columns, columns]
  constructor
  · intro closed
    exact (List.forall_mem_append.mp (List.forall_mem_append.mp closed).2).1
  · intro joins
    exact List.forall_mem_append.mpr ⟨own, List.forall_mem_append.mpr ⟨joins, inside⟩⟩

end Query

/-! ## Joins -/

namespace RelationKeys

variable {keys : RelationKeys} {hop : JoinHop}

private theorem Hops.isIn (made : Hops keys hop) :
    ∀ column ∈ hop.equalities.flatMap KeyEquality.columns,
      column.IsIn (keys.source :: hop.tables) := by
  cases made <;> simp [KeyEquality.columns, ColumnRef.IsIn, ColumnRef.of]

private theorem Hops.exists_source (made : Hops keys hop) :
    ∃ column ∈ hop.equalities.flatMap KeyEquality.columns, column.table = some keys.source := by
  cases made <;> simp [KeyEquality.columns, ColumnRef.of]

end RelationKeys

namespace Scope

def sources (s : Scope) : String → List String → List Model
  | _, [] => []
  | source, target :: rest => (s.model? source).toList ++ s.sources target rest

/-- The joins of a path name listed tables only, exactly if the models of its sources are declared
for listed tables. -/
theorem Path.closed_iff {s : Scope} {source : String} {joins : List String} {hops : List JoinHop}
    (path : s.Path source joins hops) {tables : List String}
    (listed : ∀ table ∈ hops.flatMap JoinHop.tables, table ∈ tables) :
    (∀ column ∈ (hops.flatMap JoinHop.equalities).flatMap KeyEquality.columns,
        column.IsIn tables) ↔
      ∀ model ∈ s.sources source joins, model.table ∈ tables := by
  induction path with
  | nil source => simp [sources]
  | @cons source target rest model hop hops found declared path ih =>
      obtain ⟨kind, keys, _, options, made⟩ := Model.hopTo_eq_ok declared
      obtain ⟨_, same, _⟩ := Model.relationKeys_eq_ok options
      obtain ⟨here, later⟩ := List.forall_mem_append.mp listed
      have first : (∀ column ∈ hop.equalities.flatMap KeyEquality.columns, column.IsIn tables) ↔
          model.table ∈ tables := by
        constructor
        · intro closed
          obtain ⟨column, member, names⟩ := made.exists_source
          obtain ⟨table, held, named⟩ := closed column member
          rw [names, same] at named
          exact Option.some.inj named ▸ held
        · intro held column member
          obtain ⟨table, inside, named⟩ := made.isIn column member
          rcases List.mem_cons.mp inside with rfl | inside
          · exact ⟨_, same ▸ held, named⟩
          · exact ⟨table, here table inside, named⟩
      rw [List.flatMap_cons, List.flatMap_append, List.forall_mem_append, first, ih later, sources,
        found]
      simp

/-- Every model of a scope is declared for the table under which the scope lists it. -/
def Named (s : Scope) : Prop := ∀ table model, s.model? table = some model → model.table = table

private theorem named_iff {s : Scope} : s.Named ↔ ∀ entry ∈ s.tables.entries,
    (entry.2.model.all fun model => model.table == entry.1) = true := by
  simp only [Option.all_eq_true, beq_iff_eq]
  constructor
  · intro named entry held model declared
    refine named entry.1 model ?_
    rw [model?, OrderedMap.get?_eq_some_iff_mem.mpr held]
    exact declared
  · intro each table model found
    obtain ⟨entry, held, declared⟩ := Option.bind_eq_some_iff.mp found
    exact each (table, entry) (OrderedMap.get?_eq_some_iff_mem.mp held) model declared

instance (s : Scope) : Decidable s.Named := decidable_of_iff _ named_iff.symm

private theorem mem_tableNames_of_model? {s : Scope} {table : String} {model : Model}
    (found : s.model? table = some model) : table ∈ s.tableNames := by
  obtain ⟨entry, held, _⟩ := Option.bind_eq_some_iff.mp found
  exact contains_iff_mem.mp (by rw [contains, OrderedMap.contains, held]; rfl)

private theorem Named.mem_of_mem_sources {s : Scope} (named : s.Named) {source : String}
    {joins : List String} {model : Model} (member : model ∈ s.sources source joins) :
    model.table ∈ s.tableNames := by
  induction joins generalizing source with
  | nil => cases member
  | cons target rest ih =>
      rcases List.mem_append.mp member with here | later
      · have found : s.model? source = some model := Option.mem_toList.mp here
        rw [named source model found]
        exact mem_tableNames_of_model? found
      · exact ih later

end Scope

namespace Query

variable {q : Query} {d : Dialect} {scope : Scope} {σ : Type} [Connection σ] {registry : Registry}
  {connection connection' : σ}

theorem build_of_scope (ran : (q.scope registry).runOn connection = (.ok scope, connection')) :
    (Scope.build registry q.table q.joins).runOn connection = (.ok scope, connection') := by
  unfold Query.scope at ran
  cases failed : q.error with
  | none =>
      rw [failed] at ran
      exact ran
  | some e =>
      rw [failed] at ran
      cases ran

theorem head?_tableNames (ran : (q.scope registry).runOn connection = (.ok scope, connection')) :
    scope.tableNames.head? = some q.table := by
  obtain ⟨hops, _, _, names⟩ := Scope.exists_path_and_tables_of_build (build_of_scope ran)
  rw [names]
  exact head?_addNew_nil_cons q.table _

theorem tableNames_ne_nil (ran : (q.scope registry).runOn connection = (.ok scope, connection')) :
    scope.tableNames ≠ [] := by
  intro empty
  have first := head?_tableNames ran
  rw [empty] at first
  cases first

/-- A compiled statement lists the primary table first and no table twice. It names only columns of
those tables exactly if the model of every table on its path that is joined further is declared for
one of them, and so whenever the scope names its models as they are declared. -/
theorem closed_iff_sources_listed
    (ran : (q.scope registry).runOn connection = (.ok scope, connection')) {statement : Statement}
    (emitted : q.Emits d scope statement) :
    statement.tables.head? = some q.table ∧ statement.tables.Nodup ∧
      ((∀ column ∈ statement.columns, column.IsIn statement.tables) ↔
        ∀ model ∈ scope.sources q.table q.joins, model.table ∈ statement.tables) ∧
      (scope.Named → ∀ column ∈ statement.columns, column.IsIn statement.tables) := by
  obtain ⟨hops, path, equalities, names⟩ :=
    Scope.exists_path_and_tables_of_build (build_of_scope ran)
  have filled := tableNames_ne_nil ran
  have listed : ∀ table ∈ hops.flatMap JoinHop.tables, table ∈ scope.tableNames := by
    intro table member
    rw [names]
    exact mem_addNew.mpr (.inr (List.mem_cons_of_mem _ member))
  have tables := (emitted.shape filled).1
  have declared : (∀ column ∈ statement.columns, column.IsIn statement.tables) ↔
      ∀ model ∈ scope.sources q.table q.joins, model.table ∈ statement.tables := by
    rw [emitted.closed_iff filled, equalities, path.closed_iff listed, tables]
  refine ⟨tables ▸ head?_tableNames ran, ?_, declared, ?_⟩
  · rw [tables, names]
    exact nodup_addNew List.nodup_nil _
  · intro named
    rw [declared, tables]
    intro model member
    exact named.mem_of_mem_sources member

theorem emits_delete_of_no_filter (unfiltered : q.filter.finish = .ok none) :
    q.Emits d scope (.delete {
      comment := q.comment
      table := scope.primary
      others := scope.tableNames.drop 1
      filter := Expr.conjAll? (scope.equalities.map KeyEquality.condition) }) := by
  refine .delete (compileDelete_eq_ok_iff.mpr ⟨_, ?_, rfl⟩)
  unfold condition
  rw [unfiltered]
  rfl

/-- Purchases and their customers are named as they are declared. -/
theorem closed_iff_sources_listed_purchase :
    let q : Query := { table := "purchase", joins := ["customer"] }
    let connection := Example.Shop.describe { dialect := .mysql, database := "shop" }
    ∃ scope connection' statement,
      (q.scope Example.Shop.registry).runOn connection = (.ok scope, connection') ∧
        q.Emits .mysql scope statement ∧ statement.tables = ["purchase", "customer"] ∧
        ∀ column ∈ statement.columns, column.IsIn statement.tables := by
  intro q connection
  have read : ((q.scope Example.Shop.registry).runOn connection).1.toOption.map (fun scope =>
        (scope.tableNames, (scope.sources q.table q.joins).map Model.table)) =
      some (["purchase", "customer"], ["purchase"]) := by
    decide +kernel
  obtain ⟨scope, connection', ran, same⟩ := Action.exists_of_map_toOption read
  obtain ⟨names, sources⟩ := Prod.mk.inj same
  have filled : scope.tableNames ≠ [] := by rw [names]; decide
  have emitted := @emits_delete_of_no_filter q .mysql scope rfl
  obtain ⟨_, _, closed, _⟩ := closed_iff_sources_listed ran emitted
  have tables := (emitted.shape filled).1.trans names
  refine ⟨scope, connection', _, ran, emitted, tables, closed.mpr ?_⟩
  intro model member
  have source : model.table ∈ ["purchase"] := sources ▸ List.mem_map_of_mem member
  rw [tables, List.mem_singleton.mp source]
  decide

/-- The event of a driver is joined as it is spelled by the driver's relation, and its laps as
its own model is declared. -/
theorem not_closed_of_spelled_event :
    let q : Query := { table := "driver", joins := ["raceevent", "lap"] }
    ∃ scope connection' statement,
      (q.scope Example.Race.registry).runOn Example.Race.connection = (.ok scope, connection') ∧
        q.Emits .mysql scope statement ∧ statement.tables = ["driver", "raceevent", "lap"] ∧
        ¬∀ column ∈ statement.columns, column.IsIn statement.tables := by
  intro q
  have read : ((q.scope Example.Race.registry).runOn Example.Race.connection).1.toOption.map
        (fun scope => (scope.tableNames, scope.equalities)) =
      some (["driver", "raceevent", "lap"],
        [⟨.of "driver" "event_id", .of "raceevent" "id"⟩,
          ⟨.of "lap" "race_event_id", .of "race_event" "id"⟩]) := by
    decide +kernel
  obtain ⟨scope, connection', ran, same⟩ := Action.exists_of_map_toOption read
  obtain ⟨names, equalities⟩ := Prod.mk.inj same
  have emitted := @emits_delete_of_no_filter q .mysql scope rfl
  have filled : scope.tableNames ≠ [] := by rw [names]; decide
  refine ⟨scope, connection', _, ran, emitted, (emitted.shape filled).1.trans names, ?_⟩
  rw [emitted.closed_iff filled, equalities, names]
  intro closed
  obtain ⟨table, listed, named⟩ := closed (.of "race_event" "id") (by decide)
  obtain rfl : "race_event" = table := Option.some.inj named
  exact absurd listed (by decide)

end Query

end RecordMapper
