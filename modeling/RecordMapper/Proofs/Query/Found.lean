import RecordMapper.Proofs.Query.Executed

/-!
Queries that found something: the statements that were run for the result, and what the result says
of its page. The page of a query has no part in anything but the window of its rows.
-/

set_option autoImplicit false

namespace RecordMapper

private theorem QueryResult.paging_of_ofRows {scope : Scope} {mode : Mode} {paging : Paging}
    {rows : List Row} {result : QueryResult}
    (materialized : QueryResult.ofRows scope mode paging rows = .ok result) :
    result.paging = paging := by
  unfold QueryResult.ofRows at materialized
  cases mode with
  | ids =>
      obtain ⟨ids, _, returned⟩ := bind_eq_ok.mp materialized
      cases returned
      rfl
  | rows =>
      cases materialized
      rfl
  | objects =>
      obtain ⟨graph, _, returned⟩ := bind_eq_ok.mp materialized
      cases returned
      rfl

namespace Query

def unpaged (q : Query) : Query := { q with pageStart := none, pageSize := none }

theorem window_of_compileSelect {q : Query} {d : Dialect} {scope : Scope} {s : Select}
    (compiled : q.compileSelect d scope = .ok s) : s.window = q.window := by
  obtain ⟨-, -, -, -, -, -, -, window⟩ := compileSelect_eq_ok_iff.mp compiled
  exact window

theorem compileSelect_eq_ok_iff_unpaged {q : Query} {d : Dialect} {scope : Scope} {s : Select} :
    q.compileSelect d scope = .ok s ↔
      ∃ whole, q.unpaged.compileSelect d scope = .ok whole ∧ s = { whole with window := q.window } := by
  constructor
  · intro compiled
    obtain ⟨selected, ordered, grouped, condition, comment, distinct, tables, window⟩ :=
      compileSelect_eq_ok_iff.mp compiled
    refine ⟨{ s with window := q.unpaged.window }, compileSelect_eq_ok_iff.mpr ⟨selected, ordered,
      grouped, condition, comment, distinct, tables, rfl⟩, ?_⟩
    rw [← window]
  · intro unpaged
    obtain ⟨whole, compiled, rfl⟩ := unpaged
    obtain ⟨selected, ordered, grouped, condition, comment, distinct, tables, -⟩ :=
      compileSelect_eq_ok_iff.mp compiled
    exact compileSelect_eq_ok_iff.mpr ⟨selected, ordered, grouped, condition, comment, distinct,
      tables, rfl⟩

section

variable {σ : Type} [Connection σ] {registry : Registry} {q : Query}

/-- How a result was found: the query was compiled in its scope, its rows were counted if it has a
page, and they were read. -/
structure Finding (registry : Registry) (q : Query) (c c' : σ) (result : QueryResult) where
  scope : Scope
  select : Select
  /-- The connection when the scope is known. -/
  ready : σ
  total : UInt64
  /-- The connection when the rows are counted. -/
  counted : σ
  rows : List Row
  inScope : (q.scope registry).runOn c = (.ok scope, ready)
  compiled : q.compileSelect (Connection.dialect ready) scope = .ok select
  counts : q.isPaged = true → ∃ count,
    q.compileCount (Connection.dialect ready) scope = .ok count ∧
      (Connection.runCount count).runOn ready = (.ok total, counted)
  whole : q.isPaged = false → total = .ofNat rows.length ∧ counted = ready
  read : (Connection.runQuery select).runOn counted = (.ok rows, c')
  materialized :
    QueryResult.ofRows scope q.outputMode (.ofWindow total q.pageStart q.pageSize) rows = .ok result

theorem Finding.paging {c c' : σ} {result : QueryResult} (found : Finding registry q c c' result) :
    result.paging = .ofWindow found.total q.pageStart q.pageSize :=
  QueryResult.paging_of_ofRows found.materialized

theorem nonempty_finding {c c' : σ} {result : QueryResult}
    (ran : (q.found registry).runOn c = (.ok result, c')) :
    Nonempty (Finding registry q c c' result) := by
  unfold found at ran
  obtain ⟨⟨scope, select⟩, between, compiled, ran⟩ := Action.runOn_bind_eq_ok.mp ran
  obtain ⟨inScope, selected⟩ := compiled_eq_ok_iff.mp compiled
  have reading {ready : σ} {next : List Row → Except Error QueryResult}
      (ran : (Connection.runQuery select >>= fun rows => Action.ofExcept (next rows)).runOn ready =
        (.ok result, c')) :
      ∃ rows, (Connection.runQuery select).runOn ready = (.ok rows, c') ∧ next rows = .ok result := by
    obtain ⟨rows, last, read, materialized⟩ := Action.runOn_bind_eq_ok.mp ran
    rw [Action.runOn_ofExcept] at materialized
    obtain ⟨made, rfl⟩ := Prod.mk.inj materialized
    exact ⟨rows, read, made⟩
  cases paged : q.isPaged with
  | true =>
      simp only [paged, if_true] at ran
      obtain ⟨d, _, asked, ran⟩ := Action.runOn_bind_eq_ok.mp ran
      cases asked
      obtain ⟨count, _, compiledCount, ran⟩ := Action.runOn_bind_eq_ok.mp ran
      rw [Action.runOn_ofExcept] at compiledCount
      obtain ⟨countable, rfl⟩ := Prod.mk.inj compiledCount
      obtain ⟨total, counted, ranCount, ran⟩ := Action.runOn_bind_eq_ok.mp ran
      obtain ⟨rows, read, materialized⟩ := reading ran
      refine ⟨⟨scope, select, between, total, counted, rows, inScope, selected, ?_, ?_, read,
        materialized⟩⟩
      · intro _
        exact ⟨count, countable, ranCount⟩
      · intro unpaged
        rw [paged] at unpaged
        cases unpaged
  | false =>
      simp only [paged] at ran
      obtain ⟨rows, read, materialized⟩ := reading ran
      refine ⟨⟨scope, select, between, _, between, rows, inScope, selected, ?_, ?_, read,
        materialized⟩⟩
      · intro paged'
        rw [paged] at paged'
        cases paged'
      · intro _
        exact ⟨rfl, rfl⟩

theorem found_of_find {c : σ} {result : QueryResult} {state : Query × σ}
    (ran : (find registry).runOn (q, c) = (.ok result, state)) :
    (q.found registry).runOn c = (.ok result, state.2) := by
  unfold find at ran
  rw [Action.runOn_observed] at ran
  cases found : (q.found registry).runOn c with
  | mk outcome c' =>
      rw [found] at ran
      cases outcome <;> cases ran
      rfl

theorem runOn_findPage (registry : Registry) (q : Query) (start size : UInt64) (c : σ) :
    (findPage registry start size).runOn (q, c) =
      (find registry).runOn ((q.startingAt start).limitedTo size, c) :=
  Action.runOn_bind_ok rfl

end

end Query

end RecordMapper
