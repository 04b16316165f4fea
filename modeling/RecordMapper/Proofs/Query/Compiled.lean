import RecordMapper.Proofs.Except
import RecordMapper.Proofs.OrderedMap
import RecordMapper.Query.Compile

/-!
What the statements of a query are made of. All of them list the tables of the scope and ask for the
same condition, and every column that they name by a reference is one that the scope resolves.
-/

set_option autoImplicit false

namespace RecordMapper

/-! ## Columns of a scope -/

def ColumnRef.IsIn (tables : List String) (column : ColumnRef) : Prop :=
  ∃ table ∈ tables, column.table = some table

namespace Scope

variable {scope : Scope}

theorem contains_iff_mem {table : String} :
    scope.contains table = true ↔ table ∈ scope.tableNames :=
  OrderedMap.contains_iff_mem_keys

theorem primary_cons_others (filled : scope.tableNames ≠ []) :
    scope.primary :: scope.tableNames.drop 1 = scope.tableNames := by
  unfold primary
  cases names : scope.tableNames with
  | nil => exact absurd names filled
  | cons first rest => rfl

theorem primary_mem (filled : scope.tableNames ≠ []) : scope.primary ∈ scope.tableNames := by
  rw [← primary_cons_others filled]
  exact List.mem_cons_self

theorem isIn_of_resolve {reference : String} {column : ColumnRef}
    (resolved : scope.resolve reference = .ok column) : column.IsIn scope.tableNames := by
  unfold resolve at resolved
  dsimp only at resolved
  split at resolved
  · split at resolved
    · cases resolved
    · rename_i present
      split at resolved
      · cases resolved
        refine ⟨_, contains_iff_mem.mp ?_, rfl⟩
        simpa using present
      · cases resolved
  · split at resolved
    · rename_i table single
      cases resolved
      have listed : table ∈ scope.tablesListing (Text.trim reference) := by
        rw [single]
        exact List.mem_singleton_self table
      obtain ⟨entry, held, rfl⟩ := List.mem_map.mp listed
      exact ⟨entry.1, List.mem_map_of_mem (List.mem_of_mem_filter held), rfl⟩
    · cases resolved
    · cases resolved

end Scope

def SelectItem.columns : SelectItem → List ColumnRef
  | .column c _ => [c]
  | .wildcard _ | .count _ | .raw _ => []

/-- The items that a query in a scope may select: fragments of its projection, and columns of listed
tables. -/
inductive SelectItem.SelectedBy (q : Query) (scope : Scope) : SelectItem → Prop where
  | fragment (sql : String) (projected : .raw sql ∈ q.projection) : SelectedBy q scope (.raw sql)
  | column (c : ColumnRef) (listed : c.IsIn scope.tableNames) : SelectedBy q scope (.aliased c)

namespace Query

variable {q : Query} {d : Dialect} {scope : Scope} {item : SelectItem}

theorem selectedBy_of_allColumns {table : String} (listed : table ∈ scope.tableNames)
    (member : item ∈ scope.allColumns table) : item.SelectedBy q scope := by
  obtain ⟨name, _, rfl⟩ := List.mem_map.mp member
  exact .column _ ⟨table, listed, rfl⟩

private theorem selectedBy_of_projected {p : Projection} (asked : p ∈ q.projection)
    {items : List SelectItem} (selected : projected scope p = .ok items) (member : item ∈ items) :
    item.SelectedBy q scope := by
  cases p with
  | raw sql =>
      cases selected
      obtain rfl := List.mem_singleton.mp member
      exact .fragment sql asked
  | named name =>
      unfold projected at selected
      dsimp only at selected
      split at selected
      · rename_i present
        cases selected
        exact selectedBy_of_allColumns (Scope.contains_iff_mem.mp present) member
      · split at selected
        · rename_i target resolved
          cases selected
          obtain rfl := List.mem_singleton.mp member
          exact .column _ (Scope.isIn_of_resolve resolved)
        · split at selected
          · split at selected
            · cases selected
            · cases selected
              cases member
          · cases selected

private theorem selectedBy_of_includedColumns {table : String} {items : List SelectItem}
    (selected : includedColumns scope table = .ok items) (member : item ∈ items) :
    item.SelectedBy q scope := by
  unfold includedColumns at selected
  split at selected
  · cases selected
  · rename_i present
    cases selected
    split at member
    · cases member
    · refine selectedBy_of_allColumns (Scope.contains_iff_mem.mp ?_) member
      simpa using present

private theorem eq_of_filled {chosen items : List SelectItem} {e : Error}
    (selected : (if chosen.isEmpty then Except.error e else .ok chosen) = .ok items) :
    chosen = items := by
  split at selected
  · cases selected
  · exact Except.ok.inj selected

theorem selectedBy_of_returning (filled : scope.tableNames ≠ []) {items : List SelectItem}
    (selected : q.returning scope = .ok items) (member : item ∈ items) :
    item.SelectedBy q scope := by
  have primary := Scope.primary_mem filled
  unfold returning at selected
  dsimp only at selected
  cases mode : q.outputMode with
  | ids =>
      rw [mode] at selected
      obtain ⟨chosen, shaped, selected⟩ := bind_eq_ok.mp selected
      cases shaped
      cases selected
      obtain rfl := List.mem_singleton.mp member
      exact .column _ ⟨_, primary, rfl⟩
  | rows =>
      rw [mode] at selected
      dsimp only at selected
      split at selected
      · obtain ⟨chosen, shaped, selected⟩ := bind_eq_ok.mp selected
        cases shaped
        obtain rfl := eq_of_filled selected
        obtain ⟨table, listed, inside⟩ := List.mem_flatMap.mp member
        exact selectedBy_of_allColumns listed inside
      · obtain ⟨parts, projected, selected⟩ := bind_eq_ok.mp selected
        obtain ⟨chosen, shaped, selected⟩ := bind_eq_ok.mp selected
        cases shaped
        obtain rfl := eq_of_filled selected
        obtain ⟨part, held, inside⟩ := List.mem_flatten.mp member
        obtain ⟨p, asked, selected⟩ := exists_of_mapM_eq_ok projected held
        exact selectedBy_of_projected asked selected inside
  | objects =>
      rw [mode] at selected
      obtain ⟨parts, included, selected⟩ := bind_eq_ok.mp selected
      obtain ⟨chosen, shaped, selected⟩ := bind_eq_ok.mp selected
      cases shaped
      obtain rfl := eq_of_filled selected
      rcases List.mem_append.mp member with inside | inside
      · exact selectedBy_of_allColumns primary inside
      · obtain ⟨part, held, inside⟩ := List.mem_flatten.mp inside
        obtain ⟨table, _, selected⟩ := exists_of_mapM_eq_ok included held
        exact selectedBy_of_includedColumns selected inside

/-- Whatever a query selects by name belongs to a table of its scope. -/
theorem isIn_of_returning (filled : scope.tableNames ≠ []) {items : List SelectItem}
    (selected : q.returning scope = .ok items) (member : item ∈ items) {column : ColumnRef}
    (named : column ∈ item.columns) : column.IsIn scope.tableNames := by
  cases selectedBy_of_returning filled selected member with
  | fragment sql => cases named
  | column c listed =>
      obtain rfl := List.mem_singleton.mp named
      exact listed

/-! ## Statements -/

def orderKey (scope : Scope) (entry : String × Direction) : Except Error (ColumnRef × Direction) := do
  return (← scope.resolve entry.1, entry.2)

/-- What a query selects is compiled part by part, from the same scope. -/
theorem compileSelect_eq_ok_iff {s : Select} :
    q.compileSelect d scope = .ok s ↔
      q.returning scope = .ok s.returning ∧ q.orderBy.mapM (orderKey scope) = .ok s.orderBy ∧
        q.groupBy.mapM scope.resolve = .ok s.groupBy ∧ q.condition d scope = .ok s.filter ∧
        s.comment = q.comment ∧ s.distinct = q.distinct ∧ s.tables = scope.tableNames ∧
        s.window = q.window := by
  constructor
  · intro compiled
    obtain ⟨returning, selected, compiled⟩ := bind_eq_ok.mp compiled
    obtain ⟨orderBy, ordered, compiled⟩ := bind_eq_ok.mp compiled
    obtain ⟨groupBy, grouped, compiled⟩ := bind_eq_ok.mp compiled
    obtain ⟨filter, condition, returned⟩ := bind_eq_ok.mp compiled
    cases returned
    exact ⟨selected, ordered, grouped, condition, rfl, rfl, rfl, rfl⟩
  · rintro ⟨selected, ordered, grouped, condition, comment, distinct, tables, window⟩
    refine bind_eq_ok.mpr ⟨_, selected, bind_eq_ok.mpr ⟨_, ordered, bind_eq_ok.mpr ⟨_, grouped,
      bind_eq_ok.mpr ⟨_, condition, ?_⟩⟩⟩⟩
    rw [← comment, ← distinct, ← tables, ← window]
    rfl

theorem compileSelect_eq_ok {s : Select} (compiled : q.compileSelect d scope = .ok s) :
    s.tables = scope.tableNames ∧ q.condition d scope = .ok s.filter ∧
      q.returning scope = .ok s.returning ∧
      (∀ entry ∈ s.orderBy, ∃ column, scope.resolve column = .ok entry.1) ∧
      ∀ target ∈ s.groupBy, ∃ column, scope.resolve column = .ok target := by
  obtain ⟨selected, ordered, grouped, condition, -, -, tables, -⟩ :=
    compileSelect_eq_ok_iff.mp compiled
  refine ⟨tables, condition, selected, ?_, ?_⟩
  · intro entry member
    obtain ⟨⟨column, direction⟩, _, ran⟩ := exists_of_mapM_eq_ok ordered member
    obtain ⟨target, resolved, returned⟩ := bind_eq_ok.mp ran
    obtain rfl := Except.ok.inj returned
    exact ⟨column, resolved⟩
  · intro target member
    obtain ⟨column, _, resolved⟩ := exists_of_mapM_eq_ok grouped member
    exact ⟨column, resolved⟩

theorem compileCount_eq_ok_iff {s : Select} :
    q.compileCount d scope = .ok s ↔ ∃ filter, q.condition d scope = .ok filter ∧
      s = { comment := q.comment, returning := [.count "count"], tables := scope.tableNames, filter } := by
  unfold compileCount
  rw [bind_eq_ok]
  constructor
  · rintro ⟨filter, condition, returned⟩
    cases returned
    exact ⟨filter, condition, rfl⟩
  · rintro ⟨filter, condition, rfl⟩
    exact ⟨filter, condition, rfl⟩

theorem compileUpdate_eq_ok {fields : List (String × Value)} {s : Update}
    (compiled : q.compileUpdate d scope fields = .ok s) :
    s.table = scope.primary ∧ s.others = scope.tableNames.drop 1 ∧
      q.condition d scope = .ok s.filter ∧ fields.mapM (assignment scope) = .ok s.assignments := by
  unfold compileUpdate at compiled
  dsimp only at compiled
  split at compiled
  · cases compiled
  · obtain ⟨assignments, assigned, compiled⟩ := bind_eq_ok.mp compiled
    obtain ⟨filter, condition, returned⟩ := bind_eq_ok.mp compiled
    cases returned
    exact ⟨rfl, rfl, condition, assigned⟩

theorem compileDelete_eq_ok_iff {s : Delete} :
    q.compileDelete d scope = .ok s ↔ ∃ filter, q.condition d scope = .ok filter ∧
      s = { comment := q.comment, table := scope.primary, others := scope.tableNames.drop 1, filter } := by
  unfold compileDelete
  rw [bind_eq_ok]
  constructor
  · rintro ⟨filter, condition, returned⟩
    cases returned
    exact ⟨filter, condition, rfl⟩
  · rintro ⟨filter, condition, rfl⟩
    exact ⟨filter, condition, rfl⟩

end Query

end RecordMapper
