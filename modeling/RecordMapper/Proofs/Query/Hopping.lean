import RecordMapper.Proofs.Query.Compiled
import RecordMapper.Proofs.Query.ScopePath
import RecordMapper.Proofs.Record.Linking
import RecordMapper.Query.Run

/-!
Queries that join one table. Such a query compiles wherever its tables are known, since the schema of
a database does not change while it is asked for.
-/

set_option autoImplicit false

namespace RecordMapper

section

variable {σ : Type} [Connection σ]

/-- A table that a connection knows as its model says, or by its columns where it needs no model. -/
def Scope.Lists (registry : Registry) (c : σ) (table : String) (entry : ScopeTable) : Prop :=
  ((Scope.entry registry table).runOn c).1 = .ok entry

variable {engine : Engine} {output : Output} {key : String → String} {held : σ → Database}
  (law : Connection.Executes σ engine output key held) {registry : Registry}

include law

namespace Scope

private theorem readsOnly_entry (table : String) :
    (entry registry table : Action σ ScopeTable).ReadsOnly Connection.schema := by
  have columns : (Connection.columnNames table : Action σ (List String)).ReadsOnly
      Connection.schema := by
    refine .bind (fun _ _ same => congrFun (congrArg Prod.snd same) _)
      (law.schema_columnsOfTable _) fun _ => .pure _
  have loads : (registry.load? table : Action σ (Option Model)).ReadsOnly Connection.schema := by
    unfold Registry.load?
    split
    · exact .bind (Registry.readsOnly_load law registry table)
        (Registry.keeps_load law.schema_tableExists law.schema_columnsOfTable registry table)
        fun _ => .pure _
    · exact .pure _
  refine .bind loads
    (Registry.keeps_load? law.schema_tableExists law.schema_columnsOfTable registry table)
    fun model => ?_
  cases model with
  | some model => exact .bind (.pure _) (.pure _) fun _ => .pure _
  | none =>
      exact .bind columns (Connection.keeps_columnNames law.schema_columnsOfTable table)
        fun _ => .pure _

/-- A known table can be added to every scope. -/
theorem exists_add {s : Scope} {c c₀ : σ} (same : Connection.schema c = Connection.schema c₀)
    {table : String} {entry : ScopeTable} (lists : Lists registry c₀ table entry) :
    ∃ s' c', (add registry s table).runOn c = (.ok s', c') ∧
      Connection.schema c' = Connection.schema c₀ ∧
      (s.contains table = false → s'.tables = s.tables.insert table entry) := by
  have kept := Scope.keeps_add law.schema_tableExists law.schema_columnsOfTable registry s table c
  cases present : s.contains table with
  | true =>
      refine ⟨s, c, ?_, same, nofun⟩
      rw [add_eq, present]
      rfl
  | false =>
      have read : ((Scope.entry registry table).runOn c).1 = .ok entry :=
        (readsOnly_entry law table same).trans lists
      have found : (Scope.entry registry table).runOn c =
          (.ok entry, ((Scope.entry registry table).runOn c).2) := Prod.ext read rfl
      have ran : (add registry s table).runOn c =
          (.ok { s with tables := s.tables.insert table entry },
            ((Scope.entry registry table).runOn c).2) := by
        rw [add_eq, present]
        exact Action.runOn_bind_ok found
      rw [ran] at kept
      exact ⟨_, _, ran, kept.trans same, fun _ => rfl⟩

private theorem exists_addAll {tables : List String} {c₀ : σ}
    (lists : ∀ table ∈ tables, ∃ entry, Lists registry c₀ table entry) {s : Scope} {c : σ}
    (same : Connection.schema c = Connection.schema c₀) :
    ∃ s' c', (tables.foldlM (add registry) s).runOn c = (.ok s', c') := by
  induction tables generalizing s c with
  | nil => exact ⟨s, c, rfl⟩
  | cons table tables ih =>
      obtain ⟨⟨entry, known⟩, others⟩ := List.forall_mem_cons.mp lists
      obtain ⟨next, c', added, same', -⟩ := exists_add law same known
      obtain ⟨s', c'', rest⟩ := ih others same'
      refine ⟨s', c'', ?_⟩
      rw [List.foldlM_cons]
      exact (Action.runOn_bind_ok added).trans rest

/-- The scope of one join lists its tables in order, and joins them by the equalities of its hop. -/
theorem exists_build_of_hop {c : σ} {primary target : String} {entry : ScopeTable} {model : Model}
    {hop : JoinHop} (lists : Lists registry c primary entry) (modelled : entry.model = some model)
    (declared : model.hopTo target = .ok hop)
    (others : ∀ table ∈ hop.tables, ∃ entry, Lists registry c table entry) :
    ∃ s c', (build registry primary [target]).runOn c = (.ok s, c') ∧
      s.tableNames = addNew [] (primary :: hop.tables) ∧ s.equalities = hop.equalities ∧
      s.columns primary = entry.columns := by
  obtain ⟨first, c₁, added, same, listed⟩ := exists_add law (s := {}) rfl lists
  have here : first.tables.get? primary = some entry := by
    rw [listed rfl, OrderedMap.get?_insert_self]
  have found : first.model? primary = some model := by
    rw [model?, here]
    exact modelled
  obtain ⟨s, c', addedAll⟩ := exists_addAll law others (s := first) same
  obtain ⟨-, plain, names⟩ := extends_of_add added
  obtain ⟨grows, plain', names'⟩ := extends_of_addAll addedAll
  refine ⟨{ s with equalities := s.equalities ++ hop.equalities }, c', ?_, ?_, ?_, ?_⟩
  · unfold build
    rw [Action.runOn_bind_ok added]
    unfold follow
    rw [found]
    have resolved : (Action.ofExcept (model.hopTo target) : Action σ JoinHop).runOn c₁ =
        (.ok hop, c₁) := by
      rw [declared]
      rfl
    exact (Action.runOn_bind_ok resolved).trans ((Action.runOn_bind_ok addedAll).trans rfl)
  · change s.tableNames = _
    rw [names', names, ← addNew_append]
    rfl
  · change s.equalities ++ hop.equalities = _
    rw [plain', plain]
    rfl
  · have listed' : s.tables.get? primary = some entry := grows _ _ here
    unfold columns
    dsimp only
    rw [listed']

end Scope

namespace Query

omit law in
/-- A query without conditions of its own compiles to the rows of its tables. -/
theorem exists_compileSelect_of_joins {primary : String} {joins : List String} (d : Dialect)
    {scope : Scope} (listed : scope.primary = primary) (columns : scope.columns primary ≠ []) :
    ∃ s, compileSelect { table := primary, joins } d scope = .ok s ∧
      s.tables = scope.tableNames ∧
      s.filter = Expr.conjAll? (scope.equalities.map KeyEquality.condition) := by
  have selects : returning { table := primary, joins } scope = .ok (scope.allColumns primary) := by
    have filled : (scope.allColumns primary).isEmpty = false := by
      rw [List.isEmpty_eq_false_iff, Scope.allColumns, ne_eq, List.map_eq_nil_iff]
      exact columns
    unfold returning
    rw [listed]
    change (if (scope.allColumns primary ++ []).isEmpty then _
      else Except.ok (scope.allColumns primary ++ [])) = _
    rw [List.append_nil, filled]
    rfl
  have condition : condition { table := primary, joins } d scope =
      .ok (Expr.conjAll? (scope.equalities.map KeyEquality.condition)) := rfl
  refine ⟨{ returning := scope.allColumns primary, tables := scope.tableNames
            filter := Expr.conjAll? (scope.equalities.map KeyEquality.condition) }, ?_, rfl, rfl⟩
  exact compileSelect_eq_ok_iff.mpr ⟨selects, rfl, rfl, condition, rfl, rfl, rfl, rfl⟩

end Query

end

end RecordMapper
