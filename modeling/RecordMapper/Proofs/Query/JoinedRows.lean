import RecordMapper.Example.Store
import RecordMapper.Proofs.Query.Chain

/-!
The joined rows that the statements of a query without a filter select, as chains of rows along the
path of its joins. A table is listed once, however often the path comes to it.
-/

set_option autoImplicit false

namespace RecordMapper

variable {engine : Engine} {db : Database}

/-- Rows of the listed tables that satisfy the equalities of a path stand for one chain, whose visits
of each table are at one row. -/
theorem existsUnique_chain {table : String} {path : List RelationKeys} {hops : List JoinHop}
    (course : Course table path hops) {parts : Joined}
    (joined : parts ∈ db.joined (addNew [] (table :: hops.flatMap JoinHop.tables)))
    (holds : ∀ e ∈ hops.flatMap JoinHop.equalities, e.condition.truth engine db parts = .true) :
    ∃! visits, Chain engine db table path visits ∧ visits.Consistent ∧
      parts = visits.eraseDups := by
  obtain ⟨names, placed⟩ := Database.mem_joined.mp joined
  have distinct : (parts.map Prod.fst).Nodup := names ▸ nodup_addNew List.nodup_nil _
  have listed : ∀ name ∈ table :: hops.flatMap JoinHop.tables, name ∈ parts.map Prod.fst := by
    intro name member
    rw [names]
    exact mem_addNew.mpr (.inr member)
  obtain ⟨first, later⟩ := List.forall_mem_cons.mp listed
  obtain ⟨place, row, same, start, held⟩ := exists_row distinct placed first
  refine ⟨parts.visits (table :: hops.flatMap JoinHop.tables), ⟨?_, ?_, ?_⟩, ?_⟩
  · rw [Joined.visits, List.map_cons, same]
    exact .mk held (follows_of_holds distinct placed course start held later holds)
  · exact parts.consistent_visits _
  · rw [Joined.eraseDups_visits, ← names]
    exact (Joined.visits_of_mem distinct fun _ member => member).symm
  · rintro visits ⟨chain, _, whole⟩
    have inside : ∀ visit ∈ visits, visit ∈ parts := by
      intro visit member
      rw [whole]
      exact List.mem_eraseDups.mpr member
    rw [course.visited, ← chain.names, Joined.visits_of_mem distinct inside]

/-- A chain whose visits of each table are at one row is a joined row that satisfies the equalities
of the path. -/
theorem Chain.joined {table : String} {path : List RelationKeys} {hops : List JoinHop}
    (course : Course table path hops) {visits : Joined} (chain : Chain engine db table path visits)
    (consistent : visits.Consistent) :
    visits.eraseDups ∈ db.joined (addNew [] (table :: hops.flatMap JoinHop.tables)) ∧
      ∀ e ∈ hops.flatMap JoinHop.equalities,
        e.condition.truth engine db visits.eraseDups = .true := by
  have names : visits.eraseDups.map Prod.fst =
      addNew [] (table :: hops.flatMap JoinHop.tables) := by
    rw [← consistent.visits_names, Joined.eraseDups_visits, Joined.visits, List.map_map,
      chain.names, course.visited]
    exact List.map_id _
  have distinct : (visits.eraseDups.map Prod.fst).Nodup := names ▸ nodup_addNew List.nodup_nil _
  have inside : ∀ visit ∈ visits, visit ∈ visits.eraseDups := by
    intro visit member
    exact List.mem_eraseDups.mpr member
  constructor
  · refine Database.mem_joined.mpr ⟨names, ?_⟩
    intro visit member
    exact chain.placed visit (List.mem_eraseDups.mp member)
  · cases chain with
    | mk started follows =>
        obtain ⟨start, later⟩ := List.forall_mem_cons.mp inside
        exact holds_of_follows distinct course start started follows later

private theorem Chain.consistent_of_nodup {table : String} {path : List RelationKeys}
    {visits : Joined}
    (chain : Chain engine db table path visits)
    (distinct : (table :: path.flatMap RelationKeys.visited).Nodup) :
    visits.Consistent ∧ visits.eraseDups = visits := by
  rw [← chain.names] at distinct
  have consistent : visits.Consistent := by
    intro table place other first second
    have found := (lookup_eq_some_iff_mem distinct).mpr first
    rw [(lookup_eq_some_iff_mem distinct).mpr second] at found
    exact (Option.some.inj found).symm
  refine ⟨consistent, ?_⟩
  have whole := consistent.visits_names
  rw [← whole, Joined.eraseDups_visits, addNew_of_nodup distinct, List.nil_append]

namespace Query

variable {q : Query} {d : Dialect} {scope : Scope} {σ : Type} [Connection σ] {registry : Registry}
  {connection connection' : σ}

private theorem exists_course (ran : (q.scope registry).runOn connection = (.ok scope, connection'))
    (joins : ∃ targets : List String, q.joins = targets.map Name.normalize) (named : scope.Named) :
    ∃ path hops, scope.route? q.table q.joins = some path ∧ Course q.table path hops ∧
      scope.equalities = hops.flatMap JoinHop.equalities ∧
      scope.tableNames = addNew [] (q.table :: hops.flatMap JoinHop.tables) := by
  obtain ⟨hops, along, equalities, names⟩ :=
    Scope.exists_path_and_tables_of_build (build_of_scope ran)
  obtain ⟨targets, joins⟩ := joins
  have normal : ∀ target ∈ q.joins, Name.normalize target = target := by
    intro target member
    rw [joins] at member
    obtain ⟨_, _, rfl⟩ := List.mem_map.mp member
    exact Name.normalize_normalize _
  obtain ⟨path, route, course⟩ := along.exists_route named normal
  exact ⟨path, hops, route, course, equalities, names⟩

/-- Without a filter, the joined rows of a query are those that satisfy the equalities of its scope. -/
theorem mem_matching_of_no_filter (filled : scope.tableNames ≠ [])
    (unfiltered : q.filter.finish = .ok none) {statement : Statement}
    (emitted : q.Emits d scope statement) {parts : Joined} :
    parts ∈ db.matching engine statement.tables statement.filter ↔
      parts ∈ db.joined scope.tableNames ∧
        ∀ e ∈ scope.equalities, e.condition.truth engine db parts = .true := by
  obtain ⟨tables, condition, _⟩ := emitted.shape filled
  rcases exists_of_condition unfiltered condition with ⟨_, whole⟩ | ⟨_, _, filtered, _⟩
  · rw [Database.matching, List.mem_filter, tables, whole, Database.satisfies_conjAll?,
      List.forall_mem_map]
  · cases filtered

/-- Without a filter, the statements of a query select the chains along its path whose visits of
each table are at one row, and so all chains if the path comes to no table twice. -/
theorem mem_matching_iff_chain
    (ran : (q.scope registry).runOn connection = (.ok scope, connection'))
    (joins : ∃ targets : List String, q.joins = targets.map Name.normalize) (named : scope.Named)
    (unfiltered : q.filter.finish = .ok none) {statement : Statement}
    (emitted : q.Emits d scope statement) (engine : Engine) (db : Database) :
    ∃ path, scope.route? q.table q.joins = some path ∧
      (db.matching engine statement.tables statement.filter).Nodup ∧
      (∀ parts, parts ∈ db.matching engine statement.tables statement.filter ↔
        ∃! visits, Chain engine db q.table path visits ∧ visits.Consistent ∧
          parts = visits.eraseDups) ∧
      ((q.table :: path.flatMap RelationKeys.visited).Nodup →
        ∀ parts, parts ∈ db.matching engine statement.tables statement.filter ↔
          Chain engine db q.table path parts) := by
  obtain ⟨path, hops, route, course, equalities, names⟩ := exists_course ran joins named
  have selected (parts : Joined) :
      parts ∈ db.matching engine statement.tables statement.filter ↔
        parts ∈ db.joined (addNew [] (q.table :: hops.flatMap JoinHop.tables)) ∧
          ∀ e ∈ hops.flatMap JoinHop.equalities, e.condition.truth engine db parts = .true := by
    rw [mem_matching_of_no_filter (tableNames_ne_nil ran) unfiltered emitted, names, equalities]
  have chains (parts : Joined) :
      parts ∈ db.matching engine statement.tables statement.filter ↔
        ∃! visits, Chain engine db q.table path visits ∧ visits.Consistent ∧
          parts = visits.eraseDups := by
    rw [selected]
    constructor
    · rintro ⟨joined, holds⟩
      exact existsUnique_chain course joined holds
    · rintro ⟨visits, ⟨chain, consistent, rfl⟩, _⟩
      exact chain.joined course consistent
  refine ⟨path, route, (db.nodup_joined _).filter _, chains, ?_⟩
  -- On a path without returns nothing is erased, so that the joined rows are the chains themselves.
  intro distinct parts
  constructor
  · intro member
    obtain ⟨visits, ⟨chain, _, rfl⟩, _⟩ := (chains parts).mp member
    rwa [(chain.consistent_of_nodup distinct).2]
  · intro chain
    obtain ⟨consistent, whole⟩ := chain.consistent_of_nodup distinct
    rw [selected, ← whole]
    exact chain.joined course consistent

/-- A path that comes back to the purchases comes back to the same one. -/
theorem mem_matching_iff_chain_return :
    let q : Query := { table := "purchase", joins := ["customer", "purchase"] }
    let c := Example.Shop.describe { dialect := .mysql, database := "shop" }
    ∃ scope c' path, (q.scope Example.Shop.registry).runOn c = (.ok scope, c') ∧ scope.Named ∧
      scope.route? q.table q.joins = some path ∧
      ∃! visits, Chain Example.engine Example.Shop.rows q.table path visits ∧
        visits.Consistent ∧ [("purchase", 1), ("customer", 0)] = visits.eraseDups := by
  intro q c
  have read : ((q.scope Example.Shop.registry).runOn c).1.toOption.map (fun scope =>
        (scope.tableNames, scope.equalities, decide scope.Named)) =
      some (["purchase", "customer"], [⟨.of "purchase" "customer_id", .of "customer" "id"⟩,
        ⟨.of "purchase" "customer_id", .of "customer" "id"⟩], true) := by
    decide +kernel
  obtain ⟨scope, c', ran, same⟩ := Action.exists_of_map_toOption read
  obtain ⟨names, same⟩ := Prod.mk.inj same
  obtain ⟨equalities, named⟩ := Prod.mk.inj same
  have named : scope.Named := of_decide_eq_true named
  have joins : ∃ targets : List String, q.joins = targets.map Name.normalize :=
    ⟨["customer", "purchase"], by decide +kernel⟩
  have emitted := @emits_delete_of_no_filter q .mysql scope rfl
  obtain ⟨path, route, _, chains, _⟩ := mem_matching_iff_chain ran joins named rfl emitted
    Example.engine Example.Shop.rows
  refine ⟨scope, c', path, ran, named, route, (chains _).mp ?_⟩
  rw [(emitted.shape (tableNames_ne_nil ran)).1, names]
  dsimp only [Statement.filter]
  rw [equalities]
  decide +kernel

/-- Some chain along the path of a query is in no joined row that the query selects. -/
def Overlooks (q : Query) (registry : Registry) (connection : σ) (engine : Engine) (db : Database) :
    Prop :=
  ∃ scope connection' path statement visits,
    (q.scope registry).runOn connection = (.ok scope, connection') ∧
      scope.route? q.table q.joins = some path ∧ q.Emits .mysql scope statement ∧
      Chain engine db q.table path visits ∧
      ∀ parts ∈ db.matching engine statement.tables statement.filter,
        ¬∀ visit ∈ visits, visit ∈ parts

private theorem overlooks_of_read {engine : Engine} {db : Database}
    (unfiltered : q.filter.finish = .ok none)
    {tables : List String} {equalities : List KeyEquality} {path : List RelationKeys}
    (read : ((q.scope registry).runOn connection).1.toOption.map (fun scope =>
        (scope.tableNames, scope.equalities, scope.route? q.table q.joins)) =
      some (tables, equalities, some path))
    {visits : Joined} (chain : Chain engine db q.table path visits)
    (apart : ∀ parts ∈ db.matching engine tables
      (Expr.conjAll? (equalities.map KeyEquality.condition)), ¬∀ visit ∈ visits, visit ∈ parts) :
    q.Overlooks registry connection engine db := by
  obtain ⟨scope, connection', ran, same⟩ := Action.exists_of_map_toOption read
  obtain ⟨names, same⟩ := Prod.mk.inj same
  obtain ⟨joins, route⟩ := Prod.mk.inj same
  have emitted := @emits_delete_of_no_filter q .mysql scope unfiltered
  refine ⟨scope, connection', path, _, visits, ran, route, emitted, chain, ?_⟩
  rw [(emitted.shape (tableNames_ne_nil ran)).1, names]
  dsimp only [Statement.filter]
  rw [joins]
  exact apart

/-- The customer of a purchase leads to each of the customer's purchases, but a joined row has one
purchase only. And where the relation of a driver spells the table of events in its own way, the laps
of the driver's event are in no joined row. -/
theorem overlooks_other_purchase_and_laps :
    Overlooks { table := "purchase", joins := ["customer", "purchase"] } Example.Shop.registry
        (Example.Shop.describe { dialect := .mysql, database := "shop" }) Example.engine
        Example.Shop.rows ∧
      Overlooks { table := "driver", joins := ["raceevent", "lap"] } Example.Race.registry
        Example.Race.connection Example.engine Example.Race.rows := by
  constructor
  · have chain : Chain Example.engine Example.Shop.rows "purchase" Example.Shop.toPurchases
        [("purchase", 0), ("customer", 0), ("purchase", 1)] := by
      refine .mk rfl (.step (.direct rfl ?_) (.step (.direct rfl ?_) (.stop _)))
      · exact rfl
      · exact rfl
    let equality : KeyEquality := ⟨.of "purchase" "customer_id", .of "customer" "id"⟩
    refine @overlooks_of_read _ _ _ _ _ _ _ rfl ["purchase", "customer"] [equality, equality] _ ?_ _
      chain ?_
    · decide +kernel
    · decide +kernel
  · have chain : Chain Example.engine Example.Race.rows "driver" Example.Race.toLaps
        [("driver", 0), ("raceevent", 0), ("lap", 0)] := by
      refine .mk rfl (.step (.direct rfl ?_) (.step (.direct rfl ?_) (.stop _)))
      · exact rfl
      · exact rfl
    refine @overlooks_of_read _ _ _ _ _ _ _ rfl ["driver", "raceevent", "lap"]
      [⟨.of "driver" "event_id", .of "raceevent" "id"⟩,
        ⟨.of "lap" "race_event_id", .of "race_event" "id"⟩] _ ?_ _ chain ?_
    · decide +kernel
    · decide +kernel

end Query

end RecordMapper
