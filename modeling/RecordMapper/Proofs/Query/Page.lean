import RecordMapper.Example.Shop
import RecordMapper.Proofs.Query.Found
import RecordMapper.Proofs.Sql.Window

/-!
The pages of a query. Rows are counted from one in a query and skipped from none in a statement; the
pages of one size, put together, are all rows of the query.
-/

set_option autoImplicit false

namespace RecordMapper

/-! ## Pages of a list -/

private theorem flatMap_take_drop {α : Type} (all : List α) (size count : Nat) :
    ((List.range count).flatMap fun page => (all.drop (page * size)).take size) =
      all.take (count * size) := by
  induction count with
  | zero => simp
  | succ count ih =>
      rw [List.range_succ, List.flatMap_append, ih, List.flatMap_singleton, Nat.succ_mul,
        List.take_add]

theorem drop_take_page {α : Type} (all : List α) (page size : Nat) :
    (all.take ((page + 1) * size)).drop (page * size) = (all.drop (page * size)).take size := by
  rw [Nat.succ_mul, List.drop_take, Nat.add_sub_cancel_left]

/-! ## Numbers of rows and pages -/

theorem toNat_max_one (n : UInt64) : (max n 1).toNat = max n.toNat 1 := by
  have unfolded : max n 1 = if n ≤ 1 then 1 else n := rfl
  have one : (1 : UInt64).toNat = 1 := rfl
  rw [unfolded]
  simp only [UInt64.le_iff_toNat_le]
  split <;> omega

theorem toNat_max_one_sub (n : UInt64) : (max n 1 - 1).toNat = n.toNat - 1 := by
  have one : (1 : UInt64).toNat = 1 := rfl
  have bounded : (1 : UInt64) ≤ max n 1 := by
    rw [UInt64.le_iff_toNat_le, toNat_max_one]
    omega
  rw [UInt64.toNat_sub_of_le _ _ bounded, toNat_max_one]
  omega

namespace Paging

variable (total : UInt64) (pageStart pageSize : Option UInt64)

theorem toNat_pageStart :
    (ofWindow total pageStart pageSize).pageStart.toNat = max (pageStart.getD 1).toNat 1 :=
  toNat_max_one _

/-- The number of a page is computed on machine words as it would be on unbounded numbers. -/
theorem toNat_pageNumber :
    (ofWindow total pageStart pageSize).pageNumber.toNat =
      if (ofWindow total pageStart pageSize).pageSize.toNat = 0 then 1
      else
        ((ofWindow total pageStart pageSize).pageStart.toNat - 1) /
          (ofWindow total pageStart pageSize).pageSize.toNat + 1 := by
  rw [toNat_pageStart]
  unfold ofWindow
  dsimp only
  generalize pageStart.getD 1 = start
  generalize pageSize.getD total = size
  by_cases empty : size = 0
  · subst empty
    rfl
  · have filled : size.toNat ≠ 0 := fun none => empty (UInt64.toNat_inj.mp none)
    have below : (start.toNat - 1) / size.toNat ≤ start.toNat - 1 := Nat.div_le_self _ _
    have bound : start.toNat < 2 ^ 64 := start.toNat_lt
    have same : max start.toNat 1 - 1 = start.toNat - 1 := by omega
    rw [if_neg empty, if_neg filled, UInt64.toNat_add, UInt64.toNat_div, toNat_max_one_sub, same]
    generalize (start.toNat - 1) / size.toNat = quotient at below
    have one : (1 : UInt64).toNat = 1 := rfl
    rw [one]
    exact Nat.mod_eq_of_lt (by omega)

private theorem pageStart_between
    (filled : (ofWindow total pageStart pageSize).pageSize.toNat ≠ 0) :
    ((ofWindow total pageStart pageSize).pageNumber.toNat - 1) *
        (ofWindow total pageStart pageSize).pageSize.toNat <
          (ofWindow total pageStart pageSize).pageStart.toNat ∧
      (ofWindow total pageStart pageSize).pageStart.toNat ≤
        (ofWindow total pageStart pageSize).pageNumber.toNat *
          (ofWindow total pageStart pageSize).pageSize.toNat := by
  rw [toNat_pageNumber, if_neg filled, Nat.add_sub_cancel]
  have first : 0 < (ofWindow total pageStart pageSize).pageStart.toNat := by
    rw [toNat_pageStart]
    omega
  generalize (ofWindow total pageStart pageSize).pageStart.toNat = start at first
  generalize (ofWindow total pageStart pageSize).pageSize.toNat = size at filled
  have low := Nat.div_mul_le_self (start - 1) size
  have high := Nat.lt_mul_div_succ (start - 1) (Nat.pos_of_ne_zero filled)
  rw [Nat.mul_comm] at high
  constructor <;> omega

end Paging

/-! ## The clause of a query -/

def Select.limitText (s : Select) (d : Dialect) : String :=
  match s.window with
  | some window => window.render d
  | none => ""

private theorem Select.render_window (s : Select) (d : Dialect) :
    s.render d = ({ s with window := none } : Select).render d ++ s.limitText d := by
  unfold render limitText
  exact congrArg (· ++ _) String.append_empty.symm

namespace Query

/-- The rows that a query shows of all its rows. The first of them has the number one. -/
def pageRows {α : Type} (q : Query) (all : List α) : List α :=
  let behind := all.drop ((q.pageStart.getD 1).toNat - 1)
  match q.pageSize with
  | none => behind
  | some size => behind.take size.toNat

/-- A span lets through the rows that a query shows. Where the query sets no limit, this is about
results whose length is a machine word. -/
def ShownBy (q : Query) (span : Sql.Span) : Prop :=
  ∀ {α : Type} (all : List α), (q.pageSize = none → all.length < UInt64.size) →
    span.rows all = q.pageRows all

variable {q : Query} {s : Select}

private theorem toNat_offset (pageStart : Option UInt64) :
    ((pageStart.bind fun start =>
        if 0 < max start 1 - 1 then some (max start 1 - 1) else none).getD 0).toNat =
      (pageStart.getD 1).toNat - 1 := by
  cases pageStart with
  | none => rfl
  | some start =>
      rw [Option.bind_some, Option.getD_some, ← toNat_max_one_sub]
      split
      · rfl
      · rename_i zero
        rw [UInt64.lt_iff_toNat_lt] at zero
        exact (Nat.eq_zero_of_not_pos zero).symm

/-- The clause of a statement of a query lets through the rows that the query shows, whatever the
dialect. -/
theorem exists_span_of_window (shown : s.window = q.window) (d : Dialect) :
    ∃ span, Sql.readSpan? d (s.limitText d) = some span ∧ q.ShownBy span := by
  have offset := toNat_offset q.pageStart
  unfold Select.limitText
  rw [shown]
  unfold window
  dsimp only
  generalize (q.pageStart.bind fun start =>
    if 0 < max start 1 - 1 then some (max start 1 - 1) else none) = skipped at offset
  split
  · rename_i w present
    split at present
    · cases present
    · cases present
      refine ⟨_, Window.readSpan_render d _, ?_⟩
      intro α all bounded
      rw [Window.rows_span d _ bounded]
      unfold Window.rows pageRows
      cases q.pageSize with
      | none => exact congrArg all.drop offset
      | some size => exact congrArg (fun first => (all.drop first).take size.toNat) offset
  · rename_i absent
    split at absent
    · rename_i empty
      obtain ⟨none, whole⟩ := Bool.and_eq_true_iff.mp empty
      rw [Option.isNone_iff_eq_none] at none whole
      refine ⟨⟨0, Option.none⟩, rfl, ?_⟩
      intro α all _
      unfold pageRows
      rw [← offset, none, whole]
      rfl
    · cases absent

/-- The statement of a query is that for all rows with a clause behind it, which lets through the
rows that the query shows. -/
theorem exists_clause {d : Dialect} {scope : Scope} (compiled : q.compileSelect d scope = .ok s) :
    ∃ whole clause span, q.unpaged.compileSelect d scope = .ok whole ∧
      (Statement.select s).render d = whole.render d ++ clause ++ ";" ∧
      Sql.readSpan? d clause = some span ∧ q.ShownBy span := by
  obtain ⟨whole, unpaged, rfl⟩ := compileSelect_eq_ok_iff_unpaged.mp compiled
  obtain ⟨span, clause, rows⟩ :=
    exists_span_of_window (s := { whole with window := q.window }) rfl d
  have bare : ({ whole with window := none } : Select) = whole := by
    have none : whole.window = none := window_of_compileSelect unpaged
    cases whole
    cases none
    rfl
  refine ⟨whole, _, span, unpaged, ?_, clause, rows⟩
  rw [Statement.render, Select.render_window, bare]

/-- The rows of the page with a number, out of all rows. -/
theorem pageRows_page (q : Query) {start size : UInt64} {page : Nat}
    (first : start.toNat = page * size.toNat + 1) {α : Type} (all : List α) :
    ((q.startingAt start).limitedTo size).pageRows all =
      (all.take ((page + 1) * size.toNat)).drop (page * size.toNat) := by
  have begins : (max start 1).toNat - 1 = page * size.toNat := by
    rw [toNat_max_one]
    omega
  rw [drop_take_page]
  change (all.drop ((max start 1).toNat - 1)).take size.toNat = _
  rw [begins]

/-- The pages of one size hold all rows, each once. -/
theorem flatMap_pageRows (q : Query) {size : UInt64} (positive : 0 < size) {α : Type} {all : List α}
    (last : ((all.length + size.toNat - 1) / size.toNat - 1) * size.toNat + 1 < UInt64.size) :
    ((List.range ((all.length + size.toNat - 1) / size.toNat)).flatMap fun page =>
      ((q.startingAt (.ofNat (page * size.toNat + 1))).limitedTo size).pageRows all) = all := by
  have positive : 0 < size.toNat := UInt64.lt_iff_toNat_lt.mp positive
  generalize pages : (all.length + size.toNat - 1) / size.toNat = count at last
  have enough : all.length ≤ count * size.toNat := by
    have above := Nat.lt_mul_div_succ (all.length + size.toNat - 1) positive
    rw [pages, Nat.mul_succ, Nat.mul_comm] at above
    omega
  have shown : ∀ page ∈ List.range count,
      ((q.startingAt (.ofNat (page * size.toNat + 1))).limitedTo size).pageRows all =
        (all.drop (page * size.toNat)).take size.toNat := by
    intro page member
    have below : page * size.toNat ≤ (count - 1) * size.toNat :=
      Nat.mul_le_mul_right _ (Nat.le_sub_one_of_lt (List.mem_range.mp member))
    have first : (UInt64.ofNat (page * size.toNat + 1)).toNat = page * size.toNat + 1 :=
      UInt64.toNat_ofNat_of_lt' (by omega)
    rw [pageRows_page q first, drop_take_page]
  rw [List.flatMap_congr shown, flatMap_take_drop, List.take_of_length_le enough]

/-! ## The statement of a page -/

section

variable {σ : Type} [Connection σ] {registry : Registry}

def SelectsWith (registry : Registry) (q : Query) (c : σ) (d : Dialect) (clause text : String) :
    Prop :=
  ∃ scope ready whole, (q.scope registry).runOn c = (.ok scope, ready) ∧
    Connection.dialect ready = d ∧ q.unpaged.compileSelect d scope = .ok whole ∧
    text = whole.render d ++ clause ++ ";"

private theorem keeps_dialect_runCount
    (steady : ∀ sql, (Connection.exec sql : Action σ Response).Keeps Connection.dialect)
    (s : Select) : (Connection.runCount s : Action (Journal σ) UInt64).Keeps Connection.dialect := by
  have executed (statement : Statement) :
      (Connection.run statement : Action (Journal σ) Response).Keeps Connection.dialect := by
    intro j
    obtain ⟨answer, connection, ran, same⟩ := Journal.runOn_run statement j
    have kept := steady (statement.render (Connection.dialect j)) j.connection
    rw [ran] at kept
    rw [same]
    exact kept
  refine .bind (.bind (executed _) fun _ => .pure _) fun rows => ?_
  split
  · exact .pure _
  · exact .bind (.ofExcept _) fun _ => .pure _

private theorem exists_selected_of_find {c : Journal σ}
    (steady : ∀ sql, (Connection.exec sql : Action σ Response).Keeps Connection.dialect)
    {result : QueryResult} {state : Query × Journal σ}
    (ran : (find registry).runOn (q, c) = (.ok result, state)) :
    ∃ d clause text answer earlier span total, state.2.entries = (text, answer) :: earlier ∧
      q.SelectsWith registry c d clause text ∧ Sql.readSpan? d clause = some span ∧
      q.ShownBy span ∧
      result.paging = .ofWindow total q.pageStart q.pageSize := by
  obtain ⟨found⟩ := nonempty_finding (found_of_find ran)
  have dialect : Connection.dialect found.counted = Connection.dialect found.ready := by
    cases paged : q.isPaged with
    | true =>
        obtain ⟨count, _, counted⟩ := found.counts paged
        have kept := keeps_dialect_runCount steady count found.ready
        rw [counted] at kept
        exact kept
    | false => rw [(found.whole paged).2]
  obtain ⟨answer, connection, _, executed⟩ := Journal.runOn_run (.select found.select) found.counted
  have entries : state.2.entries =
      ((Statement.select found.select).render (Connection.dialect found.counted), answer) ::
        found.counted.entries := by
    have read := congrArg (fun outcome => outcome.2.entries) found.read
    unfold Connection.runQuery at read
    rw [Action.runOn_bind, executed] at read
    cases answer <;> exact read.symm
  obtain ⟨whole, clause, span, compiled, text, reads, rows⟩ := exists_clause found.compiled
  rw [dialect] at entries
  exact ⟨Connection.dialect found.ready, clause, _, answer, _, span, found.total, entries,
    ⟨found.scope, found.ready, whole, found.inScope, rfl, compiled, text⟩, reads, rows, found.paging⟩

end

/-- The pages of a query partition its result: a page is found by the statement of the query with a
clause that lets exactly the rows of that page through, in either dialect, and the pages of one size
hold each row once. The clause of any query lets the same rows through in both dialects, and the page
number that is reported is the number of the page with the first row. -/
theorem pages_partition {σ : Type} [Connection σ]
    (steady : ∀ sql, (Connection.exec sql : Action σ Response).Keeps Connection.dialect)
    (registry : Registry) (q : Query) {size : UInt64} (positive : 0 < size) :
    (∀ (page : Nat) (start : UInt64) (c : Journal σ) result state,
      start.toNat = page * size.toNat + 1 →
      (findPage registry start size).runOn (q, c) = (.ok result, state) →
      (∃ d clause text answer earlier span, state.2.entries = (text, answer) :: earlier ∧
        ((q.startingAt start).limitedTo size).SelectsWith registry c d clause text ∧
        Sql.readSpan? d clause = some span ∧ ∀ {α : Type} (all : List α),
          span.rows all = (all.take ((page + 1) * size.toNat)).drop (page * size.toNat)) ∧
      result.paging.pageStart = start ∧ result.paging.pageSize = size ∧
        result.paging.pageNumber.toNat = page + 1) ∧
    (∀ {α : Type} (all : List α),
      ((all.length + size.toNat - 1) / size.toNat - 1) * size.toNat + 1 < UInt64.size →
      ((List.range ((all.length + size.toNat - 1) / size.toNat)).flatMap fun page =>
        ((q.startingAt (.ofNat (page * size.toNat + 1))).limitedTo size).pageRows all) = all) ∧
    (∀ d scope s, q.compileSelect d scope = .ok s →
      ∃ whole clause span, q.unpaged.compileSelect d scope = .ok whole ∧
        (Statement.select s).render d = whole.render d ++ clause ++ ";" ∧
        Sql.readSpan? d clause = some span ∧ q.ShownBy span) ∧
    ∀ total pageStart pageSize, let p := Paging.ofWindow total pageStart pageSize
      (p.pageNumber.toNat =
        if p.pageSize.toNat = 0 then 1 else (p.pageStart.toNat - 1) / p.pageSize.toNat + 1) ∧
      (p.pageSize.toNat ≠ 0 → (p.pageNumber.toNat - 1) * p.pageSize.toNat < p.pageStart.toNat ∧
        p.pageStart.toNat ≤ p.pageNumber.toNat * p.pageSize.toNat) := by
  refine ⟨?_, ?_, ?_, ?_⟩
  · intro page start c result state first ran
    rw [runOn_findPage] at ran
    obtain ⟨d, clause, text, answer, earlier, span, total, entries, selects, reads, rows, paging⟩ :=
      exists_selected_of_find steady ran
    have filled : size.toNat ≠ 0 := fun none => by
      rw [UInt64.lt_iff_toNat_lt, none] at positive
      exact Nat.not_lt_zero _ positive
    have begins : max start 1 = start := by
      rw [← UInt64.toNat_inj, toNat_max_one]
      omega
    change result.paging = .ofWindow total (some (max start 1)) (some size) at paging
    rw [begins] at paging
    refine ⟨⟨d, clause, text, answer, earlier, span, entries, selects, reads, ?_⟩, ?_, ?_, ?_⟩
    · intro α all
      rw [rows all (fun unlimited => by cases unlimited), pageRows_page q first]
    · rw [paging]
      exact begins
    · rw [paging]
      rfl
    · rw [paging, Paging.toNat_pageNumber]
      change (if size.toNat = 0 then 1 else ((max start 1).toNat - 1) / size.toNat + 1) = page + 1
      rw [if_neg filled, begins, first, Nat.add_sub_cancel,
        Nat.mul_div_cancel _ (Nat.pos_of_ne_zero filled)]
  · intro α all last
    exact flatMap_pageRows q positive last
  · intro d scope s compiled
    exact exists_clause compiled
  · intro total pageStart pageSize p
    exact ⟨Paging.toNat_pageNumber .., fun filled => Paging.pageStart_between _ _ _ filled⟩

/-- The third of three purchases is the only one on the second page of two. -/
theorem pages_partition_third_purchase :
    let q : Query := { table := "purchase", mode := .ids }
    let c : Journal Scripted :=
      { connection := Example.Shop.describe { dialect := .mysql, database := "shop" } }
    ∃ result state d clause text answer earlier span,
      (findPage Example.Shop.registry 3 2).runOn (q, c) = (.ok result, state) ∧
      state.2.entries = (text, answer) :: earlier ∧
      ((q.startingAt 3).limitedTo 2).SelectsWith Example.Shop.registry c d clause text ∧
      text = "SELECT purchase.id AS \"purchase:id\" FROM purchase LIMIT 2,2;" ∧
      Sql.readSpan? d clause = some span ∧ span.rows ["7", "8", "9"] = ["9"] ∧
      result.paging.pageNumber.toNat = 2 := by
  intro q c
  have found : ((findPage Example.Shop.registry 3 2).runOn (q, c)).1.toOption.map
      QueryResult.size = some 0 := by
    decide +kernel
  have texts : ((findPage Example.Shop.registry 3 2).runOn (q, c)).2.2.entries.map Prod.fst = [
      "SELECT purchase.id AS \"purchase:id\" FROM purchase LIMIT 2,2;",
      "SELECT COUNT(*) AS count FROM purchase;"] := by
    decide +kernel
  obtain ⟨result, state, ran, _⟩ := Action.exists_of_map_toOption found
  obtain ⟨⟨d, clause, text, answer, earlier, span, entries, selects, reads, rows⟩, _, _, number⟩ :=
    (pages_partition Scripted.keeps_dialect_exec Example.Shop.registry q
      (by decide : (0 : UInt64) < 2)).1 1 3 c result state rfl ran
  rw [ran, entries] at texts
  exact ⟨result, state, d, clause, text, answer, earlier, span, ran, entries, selects,
    (List.cons.inj texts).1, reads, rows _, number⟩

end Query

end RecordMapper
