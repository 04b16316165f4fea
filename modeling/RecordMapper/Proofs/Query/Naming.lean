import RecordMapper.Example.Shop
import RecordMapper.Proofs.Query.Reference
import RecordMapper.Proofs.Query.ScopePath
import RecordMapper.Proofs.Query.Session
import RecordMapper.Proofs.Schema.Hop

/-!
Names for the columns of a scope. A column is named by its table, a dot or a colon, and itself; the
table is looked up in normal form, so its own name has to be in that form, and without a dot or colon
at which the reference would be cut too early.
-/

set_option autoImplicit false

namespace RecordMapper

/-! ## Tables that a query reaches -/

private theorem Name.normalize_defaultJoinTable {a b : String} (normal : Name.normalize a = a)
    (normal' : Name.normalize b = b) : Name.normalize (defaultJoinTable a b) = defaultJoinTable a b := by
  have joined {a b : String} (normal : Name.normalize a = a) (normal' : Name.normalize b = b) :
      Name.normalize (a ++ "_" ++ b) = a ++ "_" ++ b := by
    obtain ⟨trimmed, lower⟩ := Name.normalize_eq_self_iff.mp normal
    obtain ⟨trimmed', lower'⟩ := Name.normalize_eq_self_iff.mp normal'
    have text : (a ++ "_" ++ b).toList = a.toList ++ '_' :: b.toList := by simp
    rw [Name.normalize_eq_self_iff, text]
    refine ⟨trimmed.around (by decide) trimmed', ?_⟩
    intro c member
    rcases List.mem_append.mp member with first | rest
    · exact lower c first
    · rcases List.mem_cons.mp rest with rfl | last
      · decide
      · exact lower' c last
  unfold defaultJoinTable
  split
  · exact joined normal' normal
  · exact joined normal normal'

namespace Model

/-- A table that a declaration of the model names itself, as its through or join table. -/
def Spells (m : Model) (table : String) : Prop :=
  ∃ d ∈ m.relations, d.options.through = some table ∨ d.options.joinTable = some table

variable {m : Model} {target table : String}

private theorem spells_or_default_of_relationKeys {kind : RelationKind} {keys : RelationKeys}
    (declared : m.relationKeys kind target = .ok keys) (through : keys.through = some table) :
    m.Spells table ∨ table = defaultJoinTable m.table (Name.normalize target) := by
  unfold relationKeys at declared
  dsimp only at declared
  split at declared
  · cases declared
  · rename_i options found
    obtain ⟨d, first, rfl⟩ := Option.map_eq_some_iff.mp found
    have held := List.mem_of_find?_eq_some first
    cases declared
    cases kind with
    | belongsTo => cases through
    | hasOne => cases through
    | hasMany => cases through
    | hasOneThrough => exact .inl ⟨d, held, .inl through⟩
    | hasManyThrough => exact .inl ⟨d, held, .inl through⟩
    | hasAndBelongsToMany =>
        cases spelled : d.options.joinTable with
        | some name =>
            simp only [spelled, Option.getD_some, Option.some.injEq] at through
            exact .inl ⟨d, held, .inr (spelled.trans (congrArg some through))⟩
        | none =>
            simp only [spelled, Option.getD_none, Option.some.injEq] at through
            exact .inr through.symm

/-- A hop adds tables in normal form, but for one that its declaration names itself. -/
theorem spells_or_normal_of_hopTo {hop : JoinHop} (made : m.hopTo target = .ok hop)
    (named : Name.normalize m.table = m.table) (added : table ∈ hop.tables) :
    m.Spells table ∨ Name.normalize table = table := by
  obtain ⟨kind, keys, -, declared, hops⟩ := hopTo_eq_ok made
  obtain ⟨-, -, targeted⟩ := relationKeys_eq_ok declared
  have target_normal : Name.normalize keys.target = keys.target := by
    rw [targeted, Name.normalize_normalize]
  have between {table : String} (through : keys.through = some table) :
      m.Spells table ∨ Name.normalize table = table := by
    refine (spells_or_default_of_relationKeys declared through).imp_right ?_
    intro same
    rw [same]
    exact Name.normalize_defaultJoinTable named (Name.normalize_normalize _)
  cases hops with
  | toTarget =>
      obtain rfl := List.mem_singleton.mp added
      exact .inr target_normal
  | fromTarget =>
      obtain rfl := List.mem_singleton.mp added
      exact .inr target_normal
  | chained _ through | between _ through =>
      simp only [List.mem_cons, List.not_mem_nil, or_false] at added
      rcases added with rfl | rfl
      · exact between through
      · exact .inr target_normal

end Model

namespace Registry

def NormalTables (r : Registry) : Prop :=
  ∀ model ∈ r.models.values, Name.normalize model.table = model.table

private theorem normalTables_register {r : Registry} (normal : r.NormalTables) (table : String)
    {declare : Model → Model} (keeps : ∀ m, (declare m).table = m.table) :
    (r.register table declare).NormalTables := by
  intro model held
  obtain ⟨⟨key, _⟩, entered, rfl⟩ := List.mem_map.mp held
  have found := OrderedMap.get?_eq_some_iff_mem.mpr entered
  by_cases same : key = Name.modelKey (Name.normalize table)
  · subst same
    rw [register, OrderedMap.get?_insert_self] at found
    cases found
    rw [keeps]
    exact Name.normalize_normalize _
  · rw [register, OrderedMap.get?_insert_of_ne same] at found
    exact normal _ (List.mem_map_of_mem (OrderedMap.get?_eq_some_iff_mem.mp found))

def Declares (r : Registry) (m : Model) : Prop :=
  ∃ declared ∈ r.models.values, m.table = declared.table ∧ m.relations = declared.relations

variable {σ : Type} [Connection σ] {registry : Registry} {table : String} {m : Model} {c c' : σ}

private theorem declares_of_load (loaded : (registry.load table).runOn c = (.ok m, c')) :
    registry.Declares m := by
  obtain ⟨declared, resolved, same⟩ := load_eq_ok loaded
  refine ⟨declared, ?_, same⟩
  unfold resolve at resolved
  split at resolved
  · rename_i found
    cases resolved
    exact List.mem_map_of_mem (OrderedMap.get?_eq_some_iff_mem.mp found)
  · cases resolved

private theorem declares_of_load? (loaded : (registry.load? table).runOn c = (.ok (some m), c')) :
    registry.Declares m := by
  unfold load? at loaded
  split at loaded
  · obtain ⟨model, _, ran, returned⟩ := Action.runOn_bind_eq_ok.mp loaded
    cases returned
    exact declares_of_load ran
  · cases loaded

end Registry

namespace Scope

variable {σ : Type} [Connection σ] {registry : Registry}

def Declared (registry : Registry) (s : Scope) : Prop :=
  ∀ table model, s.model? table = some model → registry.Declares model

private theorem load?_of_entry {table : String} {found : ScopeTable} {m : Model} {c c' : σ}
    (ran : (entry registry table).runOn c = (.ok found, c')) (modelled : found.model = some m) :
    ∃ c'', (registry.load? table).runOn c = (.ok (some m), c'') := by
  obtain ⟨model, _, loaded, ran⟩ := Action.runOn_bind_eq_ok.mp ran
  cases model with
  | none =>
      obtain ⟨columns, _, _, returned⟩ := Action.runOn_bind_eq_ok.mp ran
      cases returned
      cases modelled
  | some model =>
      cases ran
      cases modelled
      exact ⟨_, loaded⟩

private theorem declared_of_add {s s' : Scope} {table : String} {c c' : σ}
    (declared : s.Declared registry)
    (added : (add registry s table).runOn c = (.ok s', c')) : s'.Declared registry := by
  rw [add_eq] at added
  split at added
  · cases added
    exact declared
  · obtain ⟨entry, _, found, added⟩ := Action.runOn_bind_eq_ok.mp added
    cases added
    intro other model held
    by_cases same : other = table
    · subst same
      obtain ⟨entry', here, modelled⟩ := Option.bind_eq_some_iff.mp held
      rw [OrderedMap.get?_insert_self] at here
      cases here
      obtain ⟨_, loaded⟩ := load?_of_entry found modelled
      exact Registry.declares_of_load? loaded
    · unfold model? at held
      rw [OrderedMap.get?_insert_of_ne same] at held
      exact declared other model held

private theorem declared_of_build {primary : String} {joins : List String} {s : Scope} {c c' : σ}
    (built : (build registry primary joins).runOn c = (.ok s, c')) : s.Declared registry := by
  obtain ⟨start, _, added, followed⟩ := Action.runOn_bind_eq_ok.mp built
  have empty : Declared registry {} := nofun
  exact kept_of_follow declared_of_add (fun _ declared => declared) (declared_of_add empty added)
    followed

/-- A table of a scope is the primary one or in normal form, unless a declaration names it itself. -/
theorem table_cases_of_build {primary : String} {joins : List String} {s : Scope} {c c' : σ}
    (named : registry.NormalTables)
    (built : (build registry primary joins).runOn c = (.ok s, c')) {table : String}
    (listed : table ∈ s.tableNames) :
    table = primary ∨ (∃ model ∈ registry.models.values, model.Spells table) ∨
      Name.normalize table = table := by
  obtain ⟨hops, path, -, names⟩ := exists_path_and_tables_of_build built
  rw [names, mem_addNew, List.mem_cons, List.mem_flatMap] at listed
  rcases listed with none | first | ⟨hop, taken, added⟩
  · cases none
  · exact .inl first
  · obtain ⟨source, model, target, found, made⟩ := path.exists_of_mem taken
    obtain ⟨declared, held, table', relations⟩ := declared_of_build built source model found
    have normal : Name.normalize model.table = model.table := by
      rw [table']
      exact named declared held
    refine .inr ((Model.spells_or_normal_of_hopTo made normal added).imp_left ?_)
    rintro ⟨d, member, spelled⟩
    exact ⟨declared, held, d, relations ▸ member, spelled⟩

end Scope

namespace Example

def tagRegistry (joinTable : String) : Registry :=
  let options : RelationOptions := { joinTable := some joinTable }
  (Registry.register {} "post" fun m => m.relate .hasAndBelongsToMany "tag" options).register "tag"
    fun m => m.relate .hasAndBelongsToMany "post" options

def tagDatabase (joinTable : String) : Scripted :=
  let s : Scripted := { dialect := .mysql, database := "blog" }
  ((s.describe "post" (.ofList [("id", "int"), ("title", "text")])).describe "tag"
    (.ofList [("id", "int"), ("label", "text")])).describe (Name.normalize joinTable)
      (.ofList [("post_id", "int"), ("tag_id", "int")])

private theorem normalTables_tagRegistry (joinTable : String) :
    (tagRegistry joinTable).NormalTables := by
  have empty : Registry.NormalTables {} := fun _ held => absurd held List.not_mem_nil
  unfold tagRegistry
  refine Registry.normalTables_register (Registry.normalTables_register empty _ ?_) _ ?_
  all_goals exact fun _ => rfl

end Example

/-! ## References that stand for a column -/

private theorem mapM_concat_eq_ok {ε α β : Type} {f : α → Except ε β} {items : List α}
    {results : List β}
    (ran : items.mapM f = .ok results) {item : α} {result : β} (last : f item = .ok result) :
    (items ++ [item]).mapM f = .ok (results ++ [result]) := by
  rw [List.mapM_append, ran]
  simp [last, bind, Except.bind, pure, Except.pure]

private theorem FilterBuilder.finish_push {b : FilterBuilder} {filter : Option Filter}
    (finished : b.finish = .ok filter) (operand : Filter) :
    (b.push operand).finish =
      .ok (some (filter.elim operand fun left => .combine .and left operand)) := by
  unfold finish at finished
  split at finished
  · cases finished
  split at finished
  · cases finished
  · rename_i closed complete
    cases finished
    have outer : b.outer = [] := by simpa using closed
    have pending : b.current.pending = [] := by simpa using complete
    simp only [finish, push, Frame.push, outer, pending, List.foldl_nil, List.isEmpty_nil,
      Bool.not_true, Bool.false_eq_true, if_false]
    cases b.current.operand <;> rfl

namespace Query

variable {q : Query} {d : Dialect} {s : Scope}

private theorem exists_condition_push {condition : Option Expr}
    (compiled : q.condition d s = .ok condition)
    {operand : Filter} {e : Expr} (lowered : operand.lower d s = .ok e) :
    ∃ whole, ({ q with filter := q.filter.push operand }).condition d s = .ok whole := by
  obtain ⟨filter, finished, compiled⟩ := bind_eq_ok.mp compiled
  have pushed := FilterBuilder.finish_push finished operand
  cases filter with
  | none =>
      exact ⟨_, bind_eq_ok.mpr ⟨_, pushed, bind_eq_ok.mpr ⟨e, lowered, rfl⟩⟩⟩
  | some left =>
      obtain ⟨first, loweredLeft, -⟩ := bind_eq_ok.mp compiled
      have joined : (Filter.combine .and left operand).lower d s = .ok (Combinator.and.join first e) :=
        bind_eq_ok.mpr ⟨first, loweredLeft, bind_eq_ok.mpr ⟨e, lowered, rfl⟩⟩
      exact ⟨_, bind_eq_ok.mpr ⟨_, pushed, bind_eq_ok.mpr ⟨_, joined, rfl⟩⟩⟩

end Query

namespace Scope

/-- A reference that stands for a column of a scope wherever a query may name one: it can be added to
the order, the groups and the filter of every query that compiles. -/
structure StandsFor (s : Scope) (reference : String) (column : ColumnRef) : Prop where
  resolve : s.resolve reference = .ok column
  orders : ∀ {q : Query} {d : Dialect} {select : Select} (direction : Direction),
    q.compileSelect d s = .ok select →
      (q.ordered [(reference, direction)]).compileSelect d s =
        .ok { select with orderBy := select.orderBy ++ [(column, direction)] }
  groups : ∀ {q : Query} {d : Dialect} {select : Select}, q.compileSelect d s = .ok select →
    (q.grouped [reference]).compileSelect d s =
      .ok { select with groupBy := select.groupBy ++ [column] }
  filters : ∀ {q : Query} {d : Dialect} {select : Select} (test : Test),
    (Filter.leaf reference test).lower d s = .ok (test.condition column) ∧
      (q.compileSelect d s = .ok select →
        ∃ filter, ({ q with filter := q.filter.push (.leaf reference test) }).compileSelect d s =
          .ok { select with filter })

variable {s : Scope} {reference : String} {column : ColumnRef}

private theorem standsFor_of_resolve (trimmed : Text.trim reference = reference)
    (resolved : s.resolve reference = .ok column) : s.StandsFor reference column where
  resolve := resolved
  orders := by
    intro q d select direction compiled
    obtain ⟨selected, ordered, grouped, condition, others⟩ :=
      Query.compileSelect_eq_ok_iff.mp compiled
    have key : Query.orderKey s (reference, direction) = .ok (column, direction) :=
      bind_eq_ok.mpr ⟨column, resolved, rfl⟩
    have added : (q.ordered [(reference, direction)]).orderBy =
        q.orderBy ++ [(reference, direction)] := by
      simp [Query.ordered, trimmed]
    have keys := mapM_concat_eq_ok ordered key
    rw [← added] at keys
    exact Query.compileSelect_eq_ok_iff.mpr ⟨selected, keys, grouped, condition, others⟩
  groups := by
    intro q d select compiled
    obtain ⟨selected, ordered, grouped, condition, others⟩ :=
      Query.compileSelect_eq_ok_iff.mp compiled
    have added : (q.grouped [reference]).groupBy = q.groupBy ++ [reference] := by
      simp [Query.grouped, trimmed]
    have columns := mapM_concat_eq_ok grouped resolved
    rw [← added] at columns
    exact Query.compileSelect_eq_ok_iff.mpr ⟨selected, ordered, columns, condition, others⟩
  filters := by
    intro q d select test
    have lowered : (Filter.leaf reference test).lower d s = .ok (test.condition column) :=
      bind_eq_ok.mpr ⟨column, resolved, rfl⟩
    refine ⟨lowered, fun compiled => ?_⟩
    obtain ⟨selected, ordered, grouped, condition, others⟩ :=
      Query.compileSelect_eq_ok_iff.mp compiled
    obtain ⟨whole, condition⟩ := Query.exists_condition_push condition lowered
    exact ⟨whole, Query.compileSelect_eq_ok_iff.mpr ⟨selected, ordered, grouped, condition, others⟩⟩

/-- A column is named by its table and itself, if the table is looked up as it is spelled and the
reference is cut where the table ends. -/
theorem resolve_of_listed {table column mark : String} {c : Char} (single : mark.toList = [c])
    (stops : separates c = true) (normal : Name.normalize table = table) (plain : ¬ Qualified table)
    (bare : Text.trim column = column) (listed : column ∈ s.columns table) :
    let reference := table ++ mark ++ column
    Text.trim reference = reference ∧ s.resolve reference = .ok (.of table column) := by
  intro reference
  have text : reference.toList = table.toList ++ c :: column.toList := by
    simp [reference, single]
  have trimmed : Text.trim reference = reference := by
    rw [Text.trim_eq_self_iff, text]
    exact (Name.normalize_eq_self_iff.mp normal).1.around (not_isBlank_of_separates stops)
      (Text.trim_eq_self_iff.mp bare)
  refine ⟨trimmed, ?_⟩
  have kept : ∀ x ∈ table.toList, separates x = false := fun x member =>
    eq_false_of_ne_true fun separate => plain ⟨x, member, separate⟩
  have cut : Text.cut? separates (Text.trim reference).toList =
      some (table.toList, column.toList) := by
    rw [trimmed, text]
    exact Text.cut?_append kept stops
  rw [resolve_of_cut cut, String.ofList_toList, String.ofList_toList, normal, bare]
  exact ⟨listed, rfl⟩

/-- The tables of a scope that are in normal form and without a separator in their names: each of
their columns is named by the table, a dot or a colon, and the column, wherever a query names one.
All tables are in normal form but for the primary one and those that a declaration names itself. -/
theorem columns_named_of_build {σ : Type} [Connection σ] {registry : Registry} {primary : String}
    {joins : List String} {s : Scope} {c c' : σ}
    (built : (build registry primary joins).runOn c = (.ok s, c')) :
    (∀ table ∈ s.tableNames, Name.normalize table = table → ¬ Qualified table →
      ∀ column ∈ s.columns table, Text.trim column = column →
        s.StandsFor (table ++ "." ++ column) (.of table column) ∧
        s.StandsFor (table ++ ":" ++ column) (.of table column)) ∧
      (registry.NormalTables → ∀ table ∈ s.tableNames, table = primary ∨
        (∃ model ∈ registry.models.values, model.Spells table) ∨
        Name.normalize table = table) := by
  refine ⟨fun table _ normal plain column listed bare => ?_, fun named table listed => ?_⟩
  · have stands {mark : String} {c : Char} (single : mark.toList = [c])
        (stops : separates c = true) :
        s.StandsFor (table ++ mark ++ column) (.of table column) := by
      obtain ⟨trimmed, resolved⟩ := resolve_of_listed single stops normal plain bare listed
      exact standsFor_of_resolve trimmed resolved
    have dot : ".".toList = ['.'] := by decide
    have colon : ":".toList = [':'] := by decide
    exact ⟨stands dot (by decide), stands colon (by decide)⟩
  · exact table_cases_of_build named built listed

open Example in
theorem columns_named_of_build_tagged :
    ∃ s c', (build (tagRegistry "post_tag") "post" ["tag"]).runOn (tagDatabase "post_tag") =
        (.ok s, c') ∧
      s.StandsFor "post_tag.tag_id" (.of "post_tag" "tag_id") ∧
      s.StandsFor "post_tag:tag_id" (.of "post_tag" "tag_id") ∧
      ∀ table ∈ s.tableNames, table = "post" ∨
        (∃ model ∈ (tagRegistry "post_tag").models.values, model.Spells table) ∨
        Name.normalize table = table := by
  have run : ((build (tagRegistry "post_tag") "post" ["tag"]).runOn
      (tagDatabase "post_tag")).1.toOption.map (fun s => (s.tableNames, s.columns "post_tag")) =
      some (["post", "post_tag", "tag"], ["post_id", "tag_id"]) := rfl
  obtain ⟨s, c', built, read⟩ := Action.exists_of_map_toOption run
  obtain ⟨tables, columns⟩ := Prod.mk.inj read
  obtain ⟨stands, spelled⟩ := columns_named_of_build built
  obtain ⟨dot, colon⟩ := stands "post_tag" (by simp [tables]) (by decide +kernel) (by decide)
    "tag_id" (by simp [columns]) (by decide)
  exact ⟨s, c', built, dot, colon, spelled (normalTables_tagRegistry "post_tag")⟩

open Example in
/-- A join table that its declarations spell in capitals is looked up in small letters, and one with
a dot in its name is looked up under the part before it, so that both names of a column are refused. -/
theorem joinTable_out_of_reach :
    (∃ s c', (build (tagRegistry "Post_Tag") "post" ["tag"]).runOn (tagDatabase "Post_Tag") =
        (.ok s, c') ∧
      "Post_Tag" ∈ s.tableNames ∧ "tag_id" ∈ s.columns "Post_Tag" ∧
      (s.resolve ("Post_Tag" ++ "." ++ "tag_id")).isOk = false ∧
      (s.resolve ("Post_Tag" ++ ":" ++ "tag_id")).isOk = false) ∧
    ∃ s c', (build (tagRegistry "post.tag") "post" ["tag"]).runOn (tagDatabase "post.tag") =
        (.ok s, c') ∧
      "post.tag" ∈ s.tableNames ∧ "tag_id" ∈ s.columns "post.tag" ∧
      (s.resolve ("post.tag" ++ "." ++ "tag_id")).isOk = false ∧
      (s.resolve ("post.tag" ++ ":" ++ "tag_id")).isOk = false := by
  have refused {table : String}
      (run : ((build (tagRegistry table) "post" ["tag"]).runOn (tagDatabase table)).1.toOption.map
        (fun s => (s.tableNames, s.columns table, (s.resolve (table ++ "." ++ "tag_id")).isOk,
          (s.resolve (table ++ ":" ++ "tag_id")).isOk)) =
        some (["post", table, "tag"], ["post_id", "tag_id"], false, false)) :
      ∃ s c', (build (tagRegistry table) "post" ["tag"]).runOn (tagDatabase table) = (.ok s, c') ∧
        table ∈ s.tableNames ∧ "tag_id" ∈ s.columns table ∧
        (s.resolve (table ++ "." ++ "tag_id")).isOk = false ∧
        (s.resolve (table ++ ":" ++ "tag_id")).isOk = false := by
    obtain ⟨s, c', built, read⟩ := Action.exists_of_map_toOption run
    simp only [Prod.mk.injEq] at read
    obtain ⟨tables, columns, dot, colon⟩ := read
    exact ⟨s, c', built, by simp [tables], by simp [columns], dot, colon⟩
  exact ⟨refused rfl, refused rfl⟩

end Scope

end RecordMapper
