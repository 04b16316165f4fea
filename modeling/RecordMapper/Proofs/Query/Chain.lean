import RecordMapper.Proofs.Database.Joined
import RecordMapper.Proofs.Query.Closed
import RecordMapper.Proofs.Schema.Name

/-!
What the joins of a query select. A path of relations leads from a row of the primary table over rows
of the tables that it visits. A joined row holds one row of each table, so that it stands for the
chains whose visits of one table are all at the same row.
-/

set_option autoImplicit false

namespace RecordMapper

/-! ## Chains of rows -/

def Engine.Agree (engine : Engine) (left : Row) (column : String) (right : Row) (other : String) :
    Prop :=
  engine.compare .eq (left.read column) (right.read other) = .true

namespace RelationKeys

variable (engine : Engine) (db : Database)

def visited (keys : RelationKeys) : List String :=
  match keys.kind with
  | .belongsTo | .hasOne | .hasMany => [keys.target]
  | .hasOneThrough | .hasManyThrough | .hasAndBelongsToMany => keys.through.toList ++ [keys.target]

def Joins (keys : RelationKeys) (source target : Row) : Prop :=
  match keys.kind with
  | .belongsTo => engine.Agree source keys.foreignKey target keys.referencedKey
  | .hasOne | .hasMany => engine.Agree target keys.foreignKey source keys.referencedKey
  | .hasOneThrough | .hasManyThrough | .hasAndBelongsToMany => False

def JoinsBy (keys : RelationKeys) (source middle target : Row) : Prop :=
  match keys.kind with
  | .belongsTo | .hasOne | .hasMany => False
  | .hasOneThrough =>
    engine.Agree middle keys.sourceKey source keys.sourceId ∧
      engine.Agree target keys.targetKey middle keys.throughId
  | .hasManyThrough | .hasAndBelongsToMany =>
    engine.Agree middle keys.sourceKey source keys.sourceId ∧
      engine.Agree middle keys.targetKey target keys.targetId

/-- A relation leads from a row to a row of its target, over the rows that are listed. -/
inductive Leads (keys : RelationKeys) (source : Row) : Joined → Row → Prop where
  | direct {place : Nat} {target : Row} (reached : db.row? (keys.target, place) = some target)
      (joined : keys.Joins engine source target) :
      Leads keys source [(keys.target, place)] target
  | through {table : String} {between place : Nat} {middle target : Row}
      (declared : keys.through = some table) (passed : db.row? (table, between) = some middle)
      (reached : db.row? (keys.target, place) = some target)
      (joined : keys.JoinsBy engine source middle target) :
      Leads keys source [(table, between), (keys.target, place)] target

end RelationKeys

section

variable (engine : Engine) (db : Database)

/-- The rows that follow a row along some relations, each by its table and place. -/
inductive Follows : Row → List RelationKeys → Joined → Prop where
  | stop (row : Row) : Follows row [] []
  | step {row next : Row} {keys : RelationKeys} {rest : List RelationKeys} {here later : Joined}
      (leads : keys.Leads engine db row here next) (follows : Follows next rest later) :
      Follows row (keys :: rest) (here ++ later)

inductive Chain (table : String) (path : List RelationKeys) : Joined → Prop where
  | mk {place : Nat} {row : Row} {visits : Joined} (started : db.row? (table, place) = some row)
      (follows : Follows engine db row path visits) : Chain table path ((table, place) :: visits)

end

def Joined.Consistent (visits : Joined) : Prop :=
  ∀ table place other, (table, place) ∈ visits → (table, other) ∈ visits → place = other

/-! ## Paths -/

namespace Scope

/-- The relations that a path of joins goes along, as the models of its tables declare them. -/
def route? (s : Scope) : String → List String → Option (List RelationKeys)
  | _, [] => some []
  | source, target :: rest => do
    let model ← s.model? source
    let kind ← (model.onlyKind target).toOption
    let keys ← (model.relationKeys kind target).toOption
    return keys :: (← s.route? target rest)

end Scope

inductive Course : String → List RelationKeys → List JoinHop → Prop where
  | nil (source : String) : Course source [] []
  | cons {keys : RelationKeys} {hop : JoinHop} {path : List RelationKeys} {hops : List JoinHop}
      (made : RelationKeys.Hops keys hop) (rest : Course keys.target path hops) :
      Course keys.source (keys :: path) (hop :: hops)

theorem RelationKeys.Hops.visited {keys : RelationKeys} {hop : JoinHop}
    (made : RelationKeys.Hops keys hop) : hop.tables = keys.visited := by
  unfold RelationKeys.visited
  cases made with
  | toTarget kind => rw [kind]
  | fromTarget kind => rcases kind with kind | kind <;> rw [kind]
  | chained kind through =>
      rw [kind, through]
      rfl
  | between kind through =>
      rcases kind with kind | kind <;> rw [kind, through] <;> rfl

theorem Scope.Path.exists_route {s : Scope} {source : String} {joins : List String}
    {hops : List JoinHop} (path : s.Path source joins hops) (named : s.Named)
    (normal : ∀ target ∈ joins, Name.normalize target = target) :
    ∃ route, s.route? source joins = some route ∧ Course source route hops := by
  induction path with
  | nil source => exact ⟨[], rfl, .nil source⟩
  | @cons source target rest model hop hops found declared path ih =>
      obtain ⟨same, normal⟩ := List.forall_mem_cons.mp normal
      obtain ⟨route, further, course⟩ := ih normal
      obtain ⟨kind, keys, only, options, made⟩ := Model.hopTo_eq_ok declared
      obtain ⟨_, start, goal⟩ := Model.relationKeys_eq_ok options
      rw [same] at only options goal
      rw [same] at goal
      have starts : keys.source = source := start.trans (named source model found)
      refine ⟨keys :: route, ?_, ?_⟩
      · simp [Scope.route?, found, only, options, further, Except.toOption]
      · rw [← starts]
        exact .cons made (goal ▸ course)

theorem Course.visited {source : String} {path : List RelationKeys} {hops : List JoinHop}
    (course : Course source path hops) :
    hops.flatMap JoinHop.tables = path.flatMap RelationKeys.visited := by
  induction course with
  | nil source => rfl
  | cons made rest ih => rw [List.flatMap_cons, List.flatMap_cons, made.visited, ih]

/-! ## Chains and joined rows -/

variable {engine : Engine} {db : Database}

theorem RelationKeys.Leads.names {keys : RelationKeys} {source next : Row} {visits : Joined}
    (leads : keys.Leads engine db source visits next) : visits.map Prod.fst = keys.visited := by
  unfold RelationKeys.visited
  cases leads with
  | direct reached joined =>
      unfold RelationKeys.Joins at joined
      cases kind : keys.kind <;> rw [kind] at joined <;> first | rfl | exact joined.elim
  | through declared passed reached joined =>
      unfold RelationKeys.JoinsBy at joined
      cases kind : keys.kind <;> rw [kind] at joined <;> first | rw [declared]; rfl | exact joined.elim

private theorem Follows.names {row : Row} {path : List RelationKeys} {visits : Joined}
    (follows : Follows engine db row path visits) :
    visits.map Prod.fst = path.flatMap RelationKeys.visited := by
  induction follows with
  | stop row => rfl
  | step leads follows ih => rw [List.map_append, List.flatMap_cons, leads.names, ih]

private theorem Follows.placed {row : Row} {path : List RelationKeys} {visits : Joined}
    (follows : Follows engine db row path visits) : ∀ visit ∈ visits, (db.row? visit).isSome := by
  induction follows with
  | stop row => exact List.forall_mem_nil _
  | step leads follows ih =>
      refine List.forall_mem_append.mpr ⟨?_, ih⟩
      cases leads with
      | direct reached joined => simp [reached]
      | through declared passed reached joined => simp [passed, reached]

section

variable {parts : Joined} (distinct : (parts.map Prod.fst).Nodup)

include distinct in
private theorem truth_condition_iff {table other : String} {place place' : Nat} {row row' : Row}
    (left : (table, place) ∈ parts) (held : db.row? (table, place) = some row)
    (right : (other, place') ∈ parts) (held' : db.row? (other, place') = some row')
    (column column' : String) :
    (KeyEquality.mk (.of table column) (.of other column')).condition.truth engine db parts =
        .true ↔
      engine.Agree row column row' column' := by
  rw [Expr.truth_condition, Database.value_of_mem distinct left held,
    Database.value_of_mem distinct right held']
  rfl

include distinct in
/-- The equalities of a hop hold in a joined row exactly if its relation joins the rows there. -/
theorem RelationKeys.Hops.holds_iff {keys : RelationKeys} {hop : JoinHop} (made : Hops keys hop)
    {start goal : Nat} {row next : Row} (from' : (keys.source, start) ∈ parts)
    (held : db.row? (keys.source, start) = some row) (to' : (keys.target, goal) ∈ parts)
    (reached : db.row? (keys.target, goal) = some next) :
    (hop.tables = [keys.target] ∧
        ((∀ e ∈ hop.equalities, e.condition.truth engine db parts = .true) ↔
          keys.Joins engine row next)) ∨
      ∃ table, keys.through = some table ∧ hop.tables = [table, keys.target] ∧
        ∀ between middle, (table, between) ∈ parts → db.row? (table, between) = some middle →
          ((∀ e ∈ hop.equalities, e.condition.truth engine db parts = .true) ↔
            keys.JoinsBy engine row middle next) := by
  -- One case for each shape of key equalities; only the last two pass over a row between.
  have equality := @truth_condition_iff engine db parts distinct
  unfold Joins JoinsBy
  cases made with
  | toTarget kind =>
      refine .inl ⟨rfl, ?_⟩
      rw [List.forall_mem_singleton, kind]
      exact equality from' held to' reached _ _
  | fromTarget kind =>
      refine .inl ⟨rfl, ?_⟩
      rw [List.forall_mem_singleton]
      rcases kind with kind | kind <;> rw [kind] <;> exact equality to' reached from' held _ _
  | chained kind through =>
      refine .inr ⟨_, through, rfl, ?_⟩
      intro between middle stop passed
      rw [List.forall_mem_cons, List.forall_mem_singleton, kind]
      exact and_congr (equality stop passed from' held _ _) (equality to' reached stop passed _ _)
  | between kind through =>
      refine .inr ⟨_, through, rfl, ?_⟩
      intro between middle stop passed
      rw [List.forall_mem_cons, List.forall_mem_singleton]
      rcases kind with kind | kind <;> rw [kind] <;>
        exact and_congr (equality stop passed from' held _ _) (equality stop passed to' reached _ _)

include distinct in
private theorem holds_of_leads {keys : RelationKeys} {hop : JoinHop}
    (made : RelationKeys.Hops keys hop)
    {place : Nat} {row next : Row} (start : (keys.source, place) ∈ parts)
    (held : db.row? (keys.source, place) = some row) {visits : Joined}
    (leads : keys.Leads engine db row visits next) (inside : ∀ visit ∈ visits, visit ∈ parts) :
    (∀ e ∈ hop.equalities, e.condition.truth engine db parts = .true) ∧
      ∃ place, (keys.target, place) ∈ parts ∧ db.row? (keys.target, place) = some next := by
  have names := leads.names.trans made.visited.symm
  cases leads with
  | direct reached joined =>
      have goal := inside _ List.mem_cons_self
      rcases made.holds_iff distinct start held goal reached with ⟨_, holds⟩ | ⟨_, _, tables, _⟩
      · exact ⟨holds.mpr joined, _, goal, reached⟩
      · rw [tables] at names
        cases names
  | through declared passed reached joined =>
      have goal := inside _ (List.mem_cons_of_mem _ List.mem_cons_self)
      rcases made.holds_iff distinct start held goal reached with
        ⟨tables, _⟩ | ⟨table, through, _, holds⟩
      · rw [tables] at names
        cases names
      · obtain rfl := Option.some.inj (declared.symm.trans through)
        exact ⟨(holds _ _ (inside _ List.mem_cons_self) passed).mpr joined, _, goal, reached⟩

include distinct in
/-- Along a chain whose rows are parts of a joined row, the key equalities of the path hold. -/
theorem holds_of_follows {source : String} {path : List RelationKeys} {hops : List JoinHop}
    (course : Course source path hops) {place : Nat} {row : Row} (start : (source, place) ∈ parts)
    (held : db.row? (source, place) = some row) {visits : Joined}
    (follows : Follows engine db row path visits) (inside : ∀ visit ∈ visits, visit ∈ parts) :
    ∀ e ∈ hops.flatMap JoinHop.equalities, e.condition.truth engine db parts = .true := by
  induction course generalizing place row visits with
  | nil source => exact List.forall_mem_nil _
  | cons made rest ih =>
      cases follows with
      | step leads follows =>
          obtain ⟨here, later⟩ := List.forall_mem_append.mp inside
          obtain ⟨equal, _, goal, reached⟩ := holds_of_leads distinct made start held leads here
          rw [List.flatMap_cons]
          exact List.forall_mem_append.mpr ⟨equal, ih goal reached follows later⟩

end

def Joined.visits (parts : Joined) (tables : List String) : Joined :=
  tables.map fun table => (table, (parts.lookup table).getD 0)

private theorem Joined.visit_mem {parts : Joined} (distinct : (parts.map Prod.fst).Nodup)
    {table : String}
    (listed : table ∈ parts.map Prod.fst) : (table, (parts.lookup table).getD 0) ∈ parts := by
  obtain ⟨⟨_, place⟩, member, rfl⟩ := List.mem_map.mp listed
  rw [(lookup_eq_some_iff_mem distinct).mpr member]
  exact member

theorem Joined.visits_of_mem {parts visits : Joined} (distinct : (parts.map Prod.fst).Nodup)
    (inside : ∀ visit ∈ visits, visit ∈ parts) : parts.visits (visits.map Prod.fst) = visits := by
  unfold Joined.visits
  rw [List.map_map]
  refine (List.map_congr_left ?_).trans (List.map_id visits)
  intro visit member
  have found := (lookup_eq_some_iff_mem distinct).mpr (inside visit member)
  simp [found]

section

variable {parts : Joined} (distinct : (parts.map Prod.fst).Nodup)
  (placed : ∀ part ∈ parts, (db.row? part).isSome)

include distinct placed in
theorem exists_row {table : String} (listed : table ∈ parts.map Prod.fst) :
    ∃ place row, (parts.lookup table).getD 0 = place ∧ (table, place) ∈ parts ∧
      db.row? (table, place) = some row := by
  have member := Joined.visit_mem distinct listed
  obtain ⟨row, held⟩ := Option.isSome_iff_exists.mp (placed _ member)
  exact ⟨_, row, rfl, member, held⟩

include distinct placed in
private theorem leads_of_holds {keys : RelationKeys} {hop : JoinHop}
    (made : RelationKeys.Hops keys hop)
    {place : Nat} {row : Row} (start : (keys.source, place) ∈ parts)
    (held : db.row? (keys.source, place) = some row)
    (listed : ∀ table ∈ hop.tables, table ∈ parts.map Prod.fst)
    (holds : ∀ e ∈ hop.equalities, e.condition.truth engine db parts = .true) :
    ∃ next, keys.Leads engine db row (parts.visits hop.tables) next ∧
      ∃ place, (keys.target, place) ∈ parts ∧ db.row? (keys.target, place) = some next := by
  have last : keys.target ∈ hop.tables := by cases made <;> simp
  obtain ⟨goal, next, same, to', reached⟩ := exists_row distinct placed (listed _ last)
  refine ⟨next, ?_, goal, to', reached⟩
  rcases made.holds_iff distinct start held to' reached with
    ⟨tables, joins⟩ | ⟨table, through, tables, joins⟩
  · rw [tables, Joined.visits, List.map_singleton, same]
    exact .direct reached (joins.mp holds)
  · have first : table ∈ hop.tables := by simp [tables]
    obtain ⟨between, middle, same', stop, passed⟩ := exists_row distinct placed (listed _ first)
    rw [tables, Joined.visits, List.map_cons, List.map_singleton, same, same']
    exact .through through passed reached ((joins between middle stop passed).mp holds)

include distinct placed in
/-- Where the key equalities of a path hold, the rows of a joined row follow each other. -/
theorem follows_of_holds {source : String} {path : List RelationKeys} {hops : List JoinHop}
    (course : Course source path hops) {place : Nat} {row : Row} (start : (source, place) ∈ parts)
    (held : db.row? (source, place) = some row)
    (listed : ∀ table ∈ hops.flatMap JoinHop.tables, table ∈ parts.map Prod.fst)
    (holds : ∀ e ∈ hops.flatMap JoinHop.equalities, e.condition.truth engine db parts = .true) :
    Follows engine db row path (parts.visits (hops.flatMap JoinHop.tables)) := by
  induction course generalizing place row with
  | nil source => exact .stop row
  | cons made rest ih =>
      obtain ⟨here, later⟩ := List.forall_mem_append.mp listed
      obtain ⟨equal, further⟩ := List.forall_mem_append.mp holds
      obtain ⟨next, leads, _, goal, reached⟩ :=
        leads_of_holds distinct placed made start held here equal
      rw [List.flatMap_cons, Joined.visits, List.map_append]
      exact .step leads (ih goal reached later further)

end

theorem Chain.names {table : String} {path : List RelationKeys} {visits : Joined}
    (chain : Chain engine db table path visits) :
    visits.map Prod.fst = table :: path.flatMap RelationKeys.visited := by
  cases chain with
  | mk started follows => rw [List.map_cons, follows.names]

theorem Chain.placed {table : String} {path : List RelationKeys} {visits : Joined}
    (chain : Chain engine db table path visits) : ∀ visit ∈ visits, (db.row? visit).isSome := by
  cases chain with
  | mk started follows => exact List.forall_mem_cons.mpr ⟨by simp [started], follows.placed⟩

namespace Joined

theorem consistent_visits (parts : Joined) (tables : List String) :
    (parts.visits tables).Consistent := by
  intro table place other first second
  obtain ⟨_, _, same⟩ := List.mem_map.mp first
  obtain ⟨_, _, same'⟩ := List.mem_map.mp second
  cases same
  cases same'
  rfl

theorem eraseDups_visits (parts : Joined) (tables : List String) :
    (parts.visits tables).eraseDups = parts.visits (addNew [] tables) := by
  rw [addNew_nil]
  unfold visits
  induction tables using List.reverseRecOn with
  | nil => rfl
  | append_singleton tables last ih =>
      have same : (last, (parts.lookup last).getD 0) ∈
          tables.map (fun table => (table, (parts.lookup table).getD 0)) ↔ last ∈ tables := by
        simp
      rw [List.map_append, List.map_singleton]
      by_cases present : last ∈ tables
      · rw [eraseDups_concat_of_mem (same.mpr present), eraseDups_concat_of_mem present, ih]
      · rw [eraseDups_concat_of_not_mem (mt same.mp present), eraseDups_concat_of_not_mem present,
          ih, List.map_append, List.map_singleton]

/-- Where the visits of each table are at one row, they are the visits that they name. -/
theorem Consistent.visits_names {visits : Joined} (consistent : visits.Consistent) :
    visits.visits (visits.map Prod.fst) = visits := by
  unfold Joined.visits
  rw [List.map_map]
  refine (List.map_congr_left ?_).trans (List.map_id visits)
  intro visit member
  cases found : visits.lookup visit.1 with
  | none =>
      have differ := List.lookup_eq_none_iff.mp found visit member
      simp at differ
  | some place =>
      obtain ⟨before, after, whole, _⟩ := List.lookup_eq_some_iff.mp found
      have inside : (visit.1, place) ∈ visits := by
        rw [whole]
        exact List.mem_append_right _ List.mem_cons_self
      have same := consistent visit.1 place visit.2 inside member
      simp [found, same]

end Joined

end RecordMapper
