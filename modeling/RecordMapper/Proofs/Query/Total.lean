import RecordMapper.Example.Store
import RecordMapper.Proofs.Query.Closed
import RecordMapper.Proofs.Query.Found

/-!
The number of all rows of a query. A query for a page counts the joined rows, and one for all rows
counts the rows that it is given; the two numbers agree where no joined rows become one.
-/

set_option autoImplicit false

namespace RecordMapper.Query

variable {q : Query} {d : Dialect} {scope : Scope} {engine : Engine} {output : Output}
  {db : Database}

/-- A query without a clause that lets rows become one keeps all of its joined rows apart. -/
theorem keepsApart_of_plain (filled : scope.tableNames ≠ []) (different : q.distinct = false)
    (ungrouped : q.groupBy = [])
    (plain : ∀ sql, .raw sql ∈ q.projection → output.folds sql = false) {s : Select}
    (compiled : q.compileSelect d scope = .ok s) : s.KeepsApart engine output db := by
  obtain ⟨selected, -, grouped, -, -, asked, -, -⟩ := compileSelect_eq_ok_iff.mp compiled
  rw [ungrouped] at grouped
  have single : [] = s.groupBy := Except.ok.inj grouped
  refine ⟨fun _ folded => ?_, fun grouping => absurd single.symm grouping, fun distinct => ?_⟩
  · obtain ⟨item, member, folds⟩ := List.any_eq_true.mp folded
    cases selectedBy_of_returning filled selected member with
    | fragment sql projected =>
        have single : output.folds sql = true := folds
        rw [plain sql projected] at single
        cases single
    | column => cases folds
  · rw [← asked, distinct] at different
    cases different

section

variable {σ : Type} [Connection σ] {held : σ → Database} {registry : Registry} {c c' : σ}
  {result : QueryResult}

theorem held_ready (answers : Connection.Answers σ engine output held)
    (found : Finding registry q c c' result) : held found.ready = held c := by
  have kept := keeps_scope answers.tableExists answers.columnsOfTable registry q c
  rw [found.inScope] at kept
  exact kept

private theorem reads_of_compiled {s count : Select} (selected : q.compileSelect d scope = .ok s)
    (counted : q.compileCount d scope = .ok count) : count.reads engine db = s.reads engine db := by
  obtain ⟨tables, condition, -⟩ := compileSelect_eq_ok selected
  obtain ⟨filter, same, rfl⟩ := compileCount_eq_ok_iff.mp counted
  rw [condition] at same
  cases same
  rw [Select.reads, Select.reads, tables]

private theorem toNat_total_of_paged (answers : Connection.Answers σ engine output held)
    (paged : q.isPaged = true) (found : Finding registry q c c' result) :
    found.total.toNat = (found.select.reads engine (held c)).length ∧
      (found.select.reads engine (held c)).length < 2 ^ 63 := by
  obtain ⟨count, counted, ran⟩ := found.counts paged
  obtain ⟨_, _, same⟩ := compileCount_eq_ok_iff.mp counted
  obtain ⟨total, small, -⟩ :=
    answers.runCount (by rw [same]) (by rw [same]) (by rw [same]) ran
  rw [reads_of_compiled found.compiled counted, held_ready answers found] at total small
  exact ⟨total, small⟩

private theorem total_of_unpaged (answers : Connection.Answers σ engine output held)
    (whole : q.isPaged = false) (found : Finding registry q c c' result) :
    found.total = .ofNat (found.select.produced engine output (held c)).length := by
  obtain ⟨total, same⟩ := found.whole whole
  obtain ⟨rows, -⟩ := answers.runQuery found.read
  have unlimited : found.select.window = none := by
    obtain ⟨start, size⟩ := Bool.or_eq_false_iff.mp whole
    rw [Option.isSome_eq_false_iff, Option.isNone_iff_eq_none] at start size
    rw [window_of_compileSelect found.compiled, window, start, size]
    rfl
  rw [total, rows, Select.length_answer unlimited, same, held_ready answers found]

end

/-- The total of a query for a page is the number of joined rows, and that of the query for all rows
is the number of rows it returns. They are the same exactly if none of the joined rows become one,
which is so for every query that neither asks for different rows nor groups or folds them. -/
theorem total_eq_iff_keepsApart {σ : Type} [Connection σ] {held : σ → Database}
    (answers : Connection.Answers σ engine output held) (registry : Registry)
    (paged : q.isPaged = true) {c : σ} {page whole : QueryResult} {state state' : Query × σ}
    (foundPage : (find registry).runOn (q, c) = (.ok page, state))
    (foundWhole : (find registry).runOn (q.unpaged, c) = (.ok whole, state')) :
    ∃ scope ready s, (q.scope registry).runOn c = (.ok scope, ready) ∧
      q.unpaged.compileSelect (Connection.dialect ready) scope = .ok s ∧
      page.paging.total.toNat = (s.reads engine (held c)).length ∧
      whole.paging.total.toNat = (s.produced engine output (held c)).length ∧
      (page.paging.total = whole.paging.total ↔ s.KeepsApart engine output (held c)) ∧
      (q.distinct = false → q.groupBy = [] →
        (∀ sql, .raw sql ∈ q.projection → output.folds sql = false) →
          page.paging.total = whole.paging.total) := by
  obtain ⟨byPage⟩ := nonempty_finding (found_of_find foundPage)
  obtain ⟨all⟩ := nonempty_finding (found_of_find foundWhole)
  obtain ⟨scopes, readies⟩ := Prod.mk.inj (byPage.inScope.symm.trans all.inScope)
  have compiled := all.compiled
  rw [← Except.ok.inj scopes, ← readies] at compiled
  obtain ⟨s, same, windowed⟩ := compileSelect_eq_ok_iff_unpaged.mp byPage.compiled
  obtain rfl : s = all.select := Except.ok.inj (same.symm.trans compiled)
  obtain ⟨counted, small⟩ := toNat_total_of_paged answers paged byPage
  rw [windowed] at counted small
  change byPage.total.toNat = (all.select.reads engine (held c)).length at counted
  change (all.select.reads engine (held c)).length < 2 ^ 63 at small
  have returned := total_of_unpaged answers rfl all
  have most : (all.select.produced engine output (held c)).length ≤
      max 1 (all.select.reads engine (held c)).length := Select.length_produced_le_max
  have exact : all.total.toNat = (all.select.produced engine output (held c)).length := by
    rw [returned]
    exact UInt64.toNat_ofNat_of_lt' (by rw [UInt64.size]; omega)
  have agree : page.paging.total = whole.paging.total ↔
      all.select.KeepsApart engine output (held c) := by
    rw [byPage.paging, all.paging, ← Select.length_produced_eq_reads_iff]
    change byPage.total = all.total ↔ _
    rw [← UInt64.toNat_inj, counted, exact, eq_comm]
  refine ⟨byPage.scope, byPage.ready, all.select, byPage.inScope, compiled, ?_, ?_, agree, ?_⟩
  · rw [byPage.paging]
    exact counted
  · rw [all.paging]
    exact exact
  · intro different ungrouped plain
    have filled := tableNames_ne_nil byPage.inScope
    exact agree.mpr (keepsApart_of_plain (q := q.unpaged) filled different ungrouped plain compiled)

/-- Three purchases have three identifiers, so each of them is a row of its own. -/
theorem total_eq_iff_keepsApart_identifiers :
    let q : Query :=
      { table := "purchase", projection := [.named "id"], distinct := true, pageSize := some 2 }
    ∃ page whole state state',
      (find Example.Shop.registry).runOn (q, Example.Shop.store) = (.ok page, state) ∧
      (find Example.Shop.registry).runOn (q.unpaged, Example.Shop.store) = (.ok whole, state') ∧
      page.paging.total = 3 ∧ whole.paging.total = 3 ∧
      ∃ s : Select, s.distinct = true ∧
        s.KeepsApart Example.numeric Example.output Example.Shop.rows := by
  intro q
  have pages : ((find Example.Shop.registry).runOn (q, Example.Shop.store)).1.toOption.map
      (fun result => result.paging.total) = some 3 := by
    decide +kernel
  have wholes : ((find Example.Shop.registry).runOn
      (q.unpaged, Example.Shop.store)).1.toOption.map (fun result => result.paging.total) =
        some 3 := by
    decide +kernel
  obtain ⟨page, state, foundPage, three⟩ := Action.exists_of_map_toOption pages
  obtain ⟨whole, state', foundWhole, also⟩ := Action.exists_of_map_toOption wholes
  obtain ⟨scope, ready, s, -, compiled, -, -, agree, -⟩ :=
    total_eq_iff_keepsApart Memory.executes.toAnswers Example.Shop.registry rfl foundPage foundWhole
  refine ⟨page, whole, state, state', foundPage, foundWhole, three, also, s, ?_, ?_⟩
  · obtain ⟨-, -, -, -, -, distinct, -, -⟩ := compileSelect_eq_ok_iff.mp compiled
    exact distinct
  · exact agree.mp (three.trans also.symm)

/-- Two of three purchases have the same customer. The query for a page counts them apart, and the
query for all rows does not. -/
theorem total_differs_of_same_customer :
    let q : Query :=
      { table := "purchase", projection := [.named "customer_id"], distinct := true
        pageSize := some 2 }
    ∃ page whole state state',
      (find Example.Shop.registry).runOn (q, Example.Shop.store) = (.ok page, state) ∧
      (find Example.Shop.registry).runOn (q.unpaged, Example.Shop.store) = (.ok whole, state') ∧
      page.paging.total = 3 ∧ whole.paging.total = 2 := by
  intro q
  have pages : ((find Example.Shop.registry).runOn (q, Example.Shop.store)).1.toOption.map
      (fun result => result.paging.total) = some 3 := by
    decide +kernel
  have wholes : ((find Example.Shop.registry).runOn
      (q.unpaged, Example.Shop.store)).1.toOption.map (fun result => result.paging.total) =
        some 2 := by
    decide +kernel
  obtain ⟨page, state, foundPage, three⟩ := Action.exists_of_map_toOption pages
  obtain ⟨whole, state', foundWhole, two⟩ := Action.exists_of_map_toOption wholes
  exact ⟨page, whole, state, state', foundPage, foundWhole, three, two⟩

end RecordMapper.Query
