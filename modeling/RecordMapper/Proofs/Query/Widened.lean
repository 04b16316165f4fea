import RecordMapper.Example.Shop
import RecordMapper.Proofs.Query.Reference
import RecordMapper.Proofs.Query.ScopePath
import RecordMapper.Proofs.Query.Session

/-!
Queries whose path of joins is made longer. The scope of the longer path begins as that of the
shorter one, so that a reference keeps the column that it names, or becomes ambiguous.
-/

set_option autoImplicit false

namespace RecordMapper

namespace Scripted

private theorem decidedBy_tableExists (table : String) :
    (Connection.tableExists table : Action Scripted Bool).DecidedBy tables := by
  intro s s' t t' a a' same ran ran'
  obtain ⟨answer, rfl⟩ := Prod.mk.inj ran
  obtain ⟨answer', rfl⟩ := Prod.mk.inj ran'
  cases answer
  cases answer'
  exact ⟨by rw [same], same⟩

private theorem decidedBy_columnsOfTable (table : String) :
    (Connection.columnsOfTable table : Action Scripted (OrderedMap String)).DecidedBy tables := by
  intro s s' t t' a a' same ran ran'
  obtain ⟨answer, rfl⟩ := Prod.mk.inj ran
  obtain ⟨answer', rfl⟩ := Prod.mk.inj ran'
  have columns : s.columnsOf table = s'.columnsOf table := by
    unfold columnsOf
    rw [same]
  exact ⟨Except.ok.inj (answer.symm.trans (columns.trans answer')), same⟩

end Scripted

namespace Scope

structure Continues (s s' : Scope) : Prop where
  tables : s.tables.entries <+: s'.tables.entries
  equalities : s.equalities <+: s'.equalities

namespace Continues

variable {s s' s'' : Scope}

theorem refl (s : Scope) : Continues s s := ⟨List.prefix_rfl, List.prefix_rfl⟩

private theorem trans (first : Continues s s') (second : Continues s' s'') : Continues s s'' :=
  ⟨first.tables.trans second.tables, first.equalities.trans second.equalities⟩

private theorem joined (s : Scope) (equalities : List KeyEquality) :
    Continues s { s with equalities := s.equalities ++ equalities } :=
  ⟨List.prefix_rfl, List.prefix_append _ _⟩

private theorem columns (goesOn : Continues s s') {table : String}
    (present : table ∈ s.tableNames) :
    s'.columns table = s.columns table := by
  obtain ⟨⟨_, entry⟩, held, rfl⟩ := List.mem_map.mp present
  have here : s.tables.get? _ = some entry := OrderedMap.get?_eq_some_iff_mem.mpr held
  have there : s'.tables.get? _ = some entry :=
    OrderedMap.get?_eq_some_iff_mem.mpr (goesOn.tables.subset held)
  simp [Scope.columns, here, there]

/-- The tables that list a column come first among those that list it later. -/
theorem tablesListing (goesOn : Continues s s') (column : String) :
    s.tablesListing column <+: s'.tablesListing column :=
  (goesOn.tables.filter _).map Prod.fst

private theorem resolve_qualified (goesOn : Continues s s') {reference : String}
    {target : ColumnRef}
    (qualified : Qualified reference) (resolved : s.resolve reference = .ok target) :
    s'.resolve reference = .ok target := by
  obtain ⟨before, after, cut⟩ := qualified_iff_cut.mp qualified
  obtain ⟨listed, same⟩ := (resolve_of_cut cut).mp resolved
  refine (resolve_of_cut cut).mpr ⟨?_, same⟩
  rw [goesOn.columns (mem_tableNames_of_mem_columns listed)]
  exact listed

private theorem resolve_bare (goesOn : Continues s s') {reference : String} {target : ColumnRef}
    (bare : ¬ Qualified reference) (resolved : s.resolve reference = .ok target) :
    s'.resolve reference = .ok target ∨
      s'.resolve reference = .error (.of (.ambiguousColumn (Text.trim reference)
        (s'.tablesListing (Text.trim reference)))) := by
  rw [resolve_of_not_qualified bare] at resolved ⊢
  obtain ⟨later, listing⟩ := goesOn.tablesListing (Text.trim reference)
  split at resolved
  · rename_i table single
    cases resolved
    rw [← listing, single]
    cases later with
    | nil => exact .inl rfl
    | cons other later => exact .inr rfl
  · cases resolved
  · cases resolved

end Continues

variable {σ : Type} [Connection σ] {registry : Registry}

private theorem continues_of_add {s s' : Scope} {table : String} {c c' : σ}
    (added : (add registry s table).runOn c = (.ok s', c')) : Continues s s' := by
  rw [add_eq] at added
  split at added
  · cases added
    exact .refl s
  · rename_i absent
    obtain ⟨entry, _, _, added⟩ := Action.runOn_bind_eq_ok.mp added
    cases added
    have fresh : table ∉ s.tables.entries.map Prod.fst := fun member =>
      absent (contains_iff_mem.mpr member)
    refine ⟨?_, List.prefix_rfl⟩
    change s.tables.entries <+: putEntry table entry s.tables.entries
    rw [putEntry_of_not_mem entry fresh]
    exact List.prefix_append _ _

private theorem continues_of_follow {joins : List String} {s s' : Scope} {source : String}
    {c c' : σ}
    (followed : (follow registry s source joins).runOn c = (.ok s', c')) : Continues s s' :=
  kept_of_follow (fun goesOn added => goesOn.trans (continues_of_add added))
    (fun equalities goesOn => goesOn.trans (.joined _ equalities)) (.refl s) followed

private theorem follow_append (s : Scope) (source : String) (path more : List String) :
    (follow registry s source (path ++ more) : Action σ Scope) =
      follow registry s source path >>= fun s =>
        follow registry s (path.getLastD source) more := by
  induction path generalizing s source with
  | nil => simp [follow]
  | cons target rest ih =>
      simp only [List.cons_append, List.getLastD_cons, follow]
      cases s.model? source with
      | none => rfl
      | some model => simp only [ih, bind_assoc]

/-- What builds a scope builds that of each path on the way. -/
theorem exists_build_of_longer {primary : String} {path more : List String} {s' : Scope} {c c' : σ}
    (longer : (build registry primary (path ++ more)).runOn c = (.ok s', c')) :
    ∃ s d, (build registry primary path).runOn c = (.ok s, d) ∧ Continues s s' := by
  obtain ⟨start, c₁, added, followed⟩ := Action.runOn_bind_eq_ok.mp longer
  rw [follow_append] at followed
  obtain ⟨s, c₂, begun, ended⟩ := Action.runOn_bind_eq_ok.mp followed
  exact ⟨s, c₂, Action.runOn_bind_eq_ok.mpr ⟨start, c₁, added, begun⟩, continues_of_follow ended⟩

/-- A longer path of joins leads to a scope that begins as that of the shorter path. A qualified
reference names the same column in both; a bare one names the same column or has become ambiguous,
and the complaint names the tables that list it in join order. The two scopes are found on
connections that agree in what decides their answers about tables. -/
theorem resolve_of_longer_path {τ : Type} {view : σ → τ}
    (tables : ∀ table, (Connection.tableExists table : Action σ Bool).DecidedBy view)
    (columns : ∀ table,
      (Connection.columnsOfTable table : Action σ (OrderedMap String)).DecidedBy view)
    {primary : String} {path more : List String} {s s' : Scope} {c c' d d' : σ}
    (same : view c = view d) (built : (build registry primary path).runOn c = (.ok s, c'))
    (longer : (build registry primary (path ++ more)).runOn d = (.ok s', d')) :
    s.tables.entries <+: s'.tables.entries ∧ s.equalities <+: s'.equalities ∧
      ∀ reference column, s.resolve reference = .ok column →
        (Qualified reference → s'.resolve reference = .ok column) ∧
        (¬ Qualified reference →
          s'.resolve reference = .ok column ∨
          s'.resolve reference = .error (.of (.ambiguousColumn (Text.trim reference)
            (s'.tableNames.filter fun table =>
              (s'.columns table).contains (Text.trim reference))))) ∧
        ∀ other, s'.resolve reference = .ok other → other = column := by
  obtain ⟨begun, _, built', goesOn⟩ := exists_build_of_longer longer
  have decided := closed_build (Action.DecidedBy.closed view) tables columns registry primary path
  obtain ⟨rfl, -⟩ := decided same built built'
  refine ⟨goesOn.tables, goesOn.equalities, fun reference column resolved => ?_⟩
  have kept (qualified : Qualified reference) := goesOn.resolve_qualified qualified resolved
  have keptOrNot (bare : ¬ Qualified reference) := goesOn.resolve_bare bare resolved
  refine ⟨kept, fun bare => ?_, fun other found => ?_⟩
  · rw [← tablesListing_eq]
    exact keptOrNot bare
  · by_cases qualified : Qualified reference
    · rw [kept qualified] at found
      exact (Except.ok.inj found).symm
    · rcases keptOrNot qualified with same | ambiguous
      · rw [same] at found
        exact (Except.ok.inj found).symm
      · rw [ambiguous] at found
        cases found

open Example in
/-- Customers joined with their purchases: both have names, and customers alone are vip. -/
theorem resolve_of_longer_path_purchases :
    ∃ s s' c d,
      (build Shop.registry "customer" []).runOn
          (Shop.describe { dialect := .mysql, database := "shop" }) = (.ok s, c) ∧
        (build Shop.registry "customer" ["purchase"]).runOn
          (Shop.describe { dialect := .postgresql, database := "shop" }) = (.ok s', d) ∧
        s'.resolve "vip" = .ok (.of "customer" "vip") ∧
        s'.resolve "customer.name" = .ok (.of "customer" "name") ∧
        s.resolve "name" = .ok (.of "customer" "name") ∧
        s'.resolve "name" = .error (.of (.ambiguousColumn "name" ["customer", "purchase"])) := by
  have single : ((build Shop.registry "customer" []).runOn
      (Shop.describe { dialect := .mysql, database := "shop" })).1.toOption.map
        (fun s => ["vip", "customer.name", "name"].map s.resolve) =
      some [.ok (.of "customer" "vip"), .ok (.of "customer" "name"), .ok (.of "customer" "name")] :=
    rfl
  have joined : ((build Shop.registry "customer" ["purchase"]).runOn
      (Shop.describe { dialect := .postgresql, database := "shop" })).1.toOption.map
        (fun s => ((s.resolve "vip").isOk, (s.resolve "name").isOk,
          s.tableNames.filter fun table => (s.columns table).contains "name")) =
      some (true, false, ["customer", "purchase"]) := rfl
  obtain ⟨s, c, built, read⟩ := Action.exists_of_map_toOption single
  obtain ⟨s', d, longer, read'⟩ := Action.exists_of_map_toOption joined
  simp only [List.map_cons, List.map_nil, List.cons.injEq, and_true, Prod.mk.injEq] at read read'
  obtain ⟨vip, qualified, name⟩ := read
  obtain ⟨ok, failed, listing⟩ := read'
  have described : (Shop.describe { dialect := .mysql, database := "shop" }).tables =
      (Shop.describe { dialect := .postgresql, database := "shop" }).tables := rfl
  rw [← List.nil_append ["purchase"]] at longer
  obtain ⟨_, _, keeps⟩ := resolve_of_longer_path Scripted.decidedBy_tableExists
    Scripted.decidedBy_columnsOfTable described built longer
  refine ⟨s, s', c, d, built, longer, ?_, (keeps _ _ qualified).1 (by decide), name, ?_⟩
  · rcases (keeps _ _ vip).2.1 (by decide) with same | ambiguous
    · exact same
    · rw [ambiguous] at ok
      cases ok
  · rcases (keeps _ _ name).2.1 (by decide) with same | ambiguous
    · rw [same] at failed
      cases failed
    · have trimmed : Text.trim "name" = "name" := by decide
      rw [ambiguous, trimmed, listing]

end Scope

end RecordMapper
