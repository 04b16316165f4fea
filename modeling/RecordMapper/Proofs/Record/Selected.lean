import RecordMapper.Proofs.Record.Reached

/-!
How many links a record has to a table, next to how many of its rows following the relation selects.
The two statements read other tables: by way of a through table the links are counted from the
record's own row on, and by way of a join table they are not counted up to the target rows.
-/

set_option autoImplicit false

namespace RecordMapper

namespace Database

variable {db : Database} {engine : Engine} {first second column key id : String} {v : Value}

def stranded (db : Database) (engine : Engine) (first column key second id : String) (v : Value) :
    List Joined :=
  (db.matching engine [first] (some (.eq (.column (.of first column)) (.value v)))).filter
    fun parts => (db.rows second).all fun row =>
      engine.compare .eq (db.value parts (.of first key)) (row.read id) != .true

private theorem nodup_matching (tables : List String) (filter : Option Expr) :
    (db.matching engine tables filter).Nodup :=
  (db.nodup_joined tables).filter _

private theorem mem_matching_value {parts : Joined} :
    parts ∈ db.matching engine [first] (some (.eq (.column (.of first column)) (.value v))) ↔
      ∃ place row, parts = [(first, place)] ∧ db.row? (first, place) = some row ∧
        engine.compare .eq (row.read column) v = .true := by
  rw [mem_matching_single]
  refine exists_congr fun place => exists_congr fun row => ?_
  refine and_congr_right fun same => and_congr_right fun present => ?_
  rw [satisfies, Option.all_some, beq_iff_eq, Expr.truth_eq, same]
  simp only [Expr.eval, value_single present]

private theorem not_all_refers_iff {parts : Joined} :
    (!(db.rows second).all fun row =>
        engine.compare .eq (db.value parts (.of first key)) (row.read id) != .true) = true ↔
      ∃ q found, db.row? (second, q) = some found ∧
        engine.compare .eq (db.value parts (.of first key)) (found.read id) = .true := by
  simp only [row?, Bool.not_eq_true', List.all_eq_false, List.mem_iff_getElem?, bne_iff_ne,
    not_not, ← exists_and_right]
  exact exists_comm

section

variable (differ : first ≠ second)
  (single : ∀ {p q q' : Nat} {row found found' : Row}, db.row? (first, p) = some row →
    db.row? (second, q) = some found → db.row? (second, q') = some found' →
    engine.compare .eq (row.read key) (found.read id) = .true →
    engine.compare .eq (row.read key) (found'.read id) = .true → q = q')

include differ single

/-- The joined rows stand, each once, for the rows with a value that are not stranded. -/
theorem perm_take_matching (column : String) (v : Value) :
    ((db.matching engine [first, second] (Expr.conjAll? [
        .eq (.column (.of first column)) (.value v),
        .eq (.column (.of first key)) (.column (.of second id))])).map (List.take 1)).Perm
      ((db.matching engine [first] (some (.eq (.column (.of first column)) (.value v)))).filter
        fun parts => !(db.rows second).all fun row =>
          engine.compare .eq (db.value parts (.of first key)) (row.read id) != .true) := by
  refine (List.perm_ext_iff_of_nodup ?_ ((nodup_matching _ _).filter _)).mpr ?_
  · refine (nodup_matching _ _).map_on fun parts member parts' member' same => ?_
    obtain ⟨p, q, row, found, rfl, present, targeted, -, reached⟩ :=
      (mem_matching_linked differ).mp member
    obtain ⟨p', q', row', found', rfl, present', targeted', -, reached'⟩ :=
      (mem_matching_linked differ).mp member'
    obtain rfl : p = p' := by simpa using same
    obtain rfl := Option.some.inj (present.symm.trans present')
    rw [single present targeted targeted' reached reached']
  · intro parts
    rw [List.mem_map, List.mem_filter, not_all_refers_iff, mem_matching_value]
    constructor
    · rintro ⟨_, member, rfl⟩
      obtain ⟨p, q, row, found, rfl, present, targeted, holds, reached⟩ :=
        (mem_matching_linked differ).mp member
      refine ⟨⟨p, row, rfl, present, holds⟩, q, found, targeted, ?_⟩
      rw [List.take_succ_cons, List.take_zero, value_single present]
      exact reached
    · rintro ⟨⟨p, row, rfl, present, holds⟩, q, found, targeted, reached⟩
      rw [value_single present] at reached
      exact ⟨_, (mem_matching_linked differ).mpr
        ⟨p, q, row, found, rfl, present, targeted, holds, reached⟩, rfl⟩

private theorem length_matching_value :
    (db.matching engine [first] (some (.eq (.column (.of first column)) (.value v)))).length =
      (db.matching engine [first, second] (Expr.conjAll? [
        .eq (.column (.of first column)) (.value v),
        .eq (.column (.of first key)) (.column (.of second id))])).length +
      (db.stranded engine first column key second id v).length := by
  have kept := (perm_take_matching differ single column v).length_eq
  rw [List.length_eq_length_filter_add fun parts => (db.rows second).all fun row =>
      engine.compare .eq (db.value parts (.of first key)) (row.read id) != .true,
    ← kept, List.length_map, stranded, Nat.add_comm]

end

end Database

namespace Record

variable {engine : Engine} {db : Database} {r other : Record} {keys : RelationKeys} {hop : JoinHop}

/-- The number of links that are counted where following the relation selects `n` rows. By way of a
through table there are none without a row of the record itself, and by way of a join table the rows
that lead nowhere are counted as well. -/
def tally (engine : Engine) (db : Database) (r other : Record) (keys : RelationKeys) (n : Nat) : Nat :=
  match keys.kind with
  | .hasOneThrough | .hasManyThrough =>
    if (db.rows r.table).any fun row => (row.read r.model.primaryKey).number? == some r.id then n
    else 0
  | .hasAndBelongsToMany =>
    n + (db.stranded engine (keys.through.getD "") keys.sourceKey keys.targetKey other.table
      other.model.primaryKey (.int r.id)).length
  | _ => n

/-- The row with the number of a record is the one that its identifier finds. -/
theorem finds_of_number (numbers : engine.ComparesNumbers)
    (keyed : db.Keyed r.table r.model.primaryKey) {place : Nat} {row : Row}
    (present : db.row? (r.table, place) = some row)
    (number : (row.read r.model.primaryKey).number? = some r.id) : r.Finds engine db place := by
  intro other row' present'
  obtain ⟨n, number'⟩ := keyed.number present'
  rw [Engine.compare_eq_true_iff numbers number' rfl]
  constructor
  · rintro rfl
    exact keyed.unique present' present number' number
  · rintro rfl
    obtain rfl := Option.some.inj (present.symm.trans present')
    exact Option.some.inj (number'.symm.trans number)

section

variable (numbers : engine.ComparesNumbers) (source : keys.source = r.table)
  (goal : keys.target = other.table) (distinct : (r.table :: hop.tables).Nodup)
  (identifies : keys.Identifies r.model other.model) (made : RelationKeys.Hops keys hop)

include numbers source goal distinct identifies made

private theorem exists_tally_through
    (kind : keys.kind = .hasOneThrough ∨ keys.kind = .hasManyThrough)
    (symmetric : engine.Symmetric) (keyed : db.Keyed r.table r.model.primaryKey)
    (alike : ∀ {place row}, db.row? (r.table, place) = some row →
      engine.ComparesAsRead (row.read r.model.primaryKey)) :
    ∃ query, r.linkQuery other keys false = .ok query ∧
      (query.reads engine db).length =
        tally engine db r other keys (reachedRows engine db r hop).length := by
  obtain ⟨query, asked, reads⟩ :=
    reads_through engine db source goal made kind
  have sourceId : keys.sourceId = r.model.primaryKey := by
    unfold RelationKeys.Identifies at identifies
    rcases kind with kind | kind <;> simp only [kind] at identifies <;> exact identifies.1
  have own : keys.ownKey = r.model.primaryKey := by
    unfold RelationKeys.ownKey
    rcases kind with kind | kind <;> rw [kind] <;> exact sourceId
  have tallied : tally engine db r other keys (reachedRows engine db r hop).length =
      if (db.rows r.table).any fun row => (row.read r.model.primaryKey).number? == some r.id then
        (reachedRows engine db r hop).length
      else 0 := by
    unfold tally
    rcases kind with kind | kind <;> rw [kind]
  refine ⟨query, asked, ?_⟩
  rw [reads, tallied]
  split
  · rename_i standing
    obtain ⟨row, member, number⟩ := List.any_eq_true.mp standing
    obtain ⟨place, present⟩ := List.mem_iff_getElem?.mp member
    have number : (row.read r.model.primaryKey).number? = some r.id := beq_iff_eq.mp number
    have same (v : Value) : engine.compare .eq v (row.read keys.ownKey) =
        engine.compare .eq v (r.keyValue keys.ownKey) := by
      rw [own, keyValue_primaryKey rfl, symmetric.compare, ← (alike present).compare,
        FieldType.fromDatabase_integer (Value.toInt64_of_number? number), symmetric.compare]
    rw [filter_matching_own present same symmetric made source (List.nodup_cons.mp distinct).1
      (finds_of_number numbers keyed present number), List.length_map]
    rfl
  · rename_i missing
    rw [List.length_eq_zero_iff, List.filter_eq_nil_iff]
    intro parts member satisfied
    obtain ⟨names, placed, -⟩ := Database.mem_matching.mp member
    obtain ⟨⟨_, place⟩, rest, rfl, rfl, -⟩ := List.map_eq_cons_iff.mp names
    obtain ⟨row, present⟩ := Option.isSome_iff_exists.mp (placed _ List.mem_cons_self)
    obtain ⟨n, number⟩ := keyed.number present
    rw [Database.satisfies, Option.all_some, beq_iff_eq, idCondition, Expr.truth_eq, Expr.eval,
      Expr.eval, Database.value_cons_self present,
      Engine.compare_eq_true_iff numbers number rfl] at satisfied
    refine missing (List.any_eq_true.mpr ⟨row, List.mem_of_getElem? present, ?_⟩)
    rw [number, satisfied, beq_self_eq_true]

private theorem exists_tally_join (kind : keys.kind = .hasAndBelongsToMany)
    (keyed' : db.Keyed other.table other.model.primaryKey)
    (refers : db.Refers (keys.through.getD "") keys.targetKey) :
    ∃ query, r.linkQuery other keys false = .ok query ∧
      (query.reads engine db).length =
        tally engine db r other keys (reachedRows engine db r hop).length := by
  obtain ⟨sourceId, targetId⟩ :
      keys.sourceId = r.model.primaryKey ∧ keys.targetId = other.model.primaryKey := by
    unfold RelationKeys.Identifies at identifies
    simpa only [kind] using identifies
  obtain ⟨join, through, differ, reached⟩ :=
    exists_reachedRows_between engine db source goal distinct made (.inr kind)
  rw [through, Option.getD_some] at refers
  have asked : r.linkQuery other keys false = .ok {
      returning := [.count "count"]
      tables := [join]
      filter := some (.eq (.column (.of join keys.sourceKey)) (.value (.int r.id))) } := by
    unfold linkQuery RelationKeys.throughTable
    rw [kind, through, keyValue_primaryKey sourceId]
    rfl
  refine ⟨_, asked, ?_⟩
  rw [reached, keyValue_primaryKey sourceId, targetId]
  unfold tally
  rw [kind, through]
  refine Database.length_matching_value differ ?_
  intro p q q' row found found' present targeted targeted' same same'
  obtain ⟨m, held, number⟩ := (Engine.compare_eq_true_iff_of_readable numbers (refers present)
    (.inr (keyed'.number targeted))).mp same
  obtain ⟨m', held', number'⟩ := (Engine.compare_eq_true_iff_of_readable numbers (refers present)
    (.inr (keyed'.number targeted'))).mp same'
  obtain rfl := Option.some.inj (held.symm.trans held')
  exact keyed'.unique targeted targeted' number number'

end

/-- A count of the links of a record is a count of joined rows, which the rows that the relation leads
to determine. -/
theorem exists_linkQuery_tally (symmetric : engine.Symmetric) (numbers : engine.ComparesNumbers)
    (source : keys.source = r.table) (goal : keys.target = other.table)
    (distinct : (r.table :: hop.tables).Nodup) (identifies : keys.Identifies r.model other.model)
    (made : RelationKeys.Hops keys hop) (leads : keys.kind ≠ .belongsTo)
    (keyed : db.Keyed r.table r.model.primaryKey)
    (keyed' : db.Keyed other.table other.model.primaryKey)
    (alike : ∀ {place row}, db.row? (r.table, place) = some row →
      engine.ComparesAsRead (row.read r.model.primaryKey))
    (refers : keys.kind = .hasAndBelongsToMany →
      db.Refers (keys.through.getD "") keys.targetKey) :
    ∃ query, r.linkQuery other keys false = .ok query ∧
      (query.reads engine db).length =
        tally engine db r other keys (reachedRows engine db r hop).length := by
  obtain kind | kind | kind : (keys.kind = .hasOne ∨ keys.kind = .hasMany) ∨
      (keys.kind = .hasOneThrough ∨ keys.kind = .hasManyThrough) ∨
        keys.kind = .hasAndBelongsToMany := by
    cases kind : keys.kind <;> simp [kind] at leads ⊢
  · obtain ⟨query, asked, reads⟩ := reads_direct engine db source goal distinct made kind
    refine ⟨query, asked, ?_⟩
    rw [reads]
    unfold tally
    rcases kind with kind | kind <;> rw [kind]
  · exact exists_tally_through numbers source goal distinct identifies made kind symmetric keyed
      alike
  · exact exists_tally_join numbers source goal distinct identifies made kind keyed' (refers kind)

section

variable {σ : Type} [Connection σ]

/-- The rows of the target that following a relation from a record selects, where the record does not
hold the key itself. -/
def selectedRows (r : Record) (registry : Registry) (kind : RelationKind) (table : String) :
    Action σ (Model × List Row) :=
  match kind with
  | .belongsTo | .hasOne | .hasMany => r.directRows registry kind table
  | .hasOneThrough | .hasManyThrough | .hasAndBelongsToMany => r.throughRows registry kind table

/-- Following a relation selects rows and reads records from them. -/
theorem related_eq_selectedRows (registry : Registry) {kind : RelationKind} (leads : kind ≠ .belongsTo)
    (table : String) :
    (r.related registry table (some kind) : Action σ (List Record)) =
      (do
        let (m, rows) ← r.selectedRows registry kind table
        Action.ofExcept (if kind = .hasOne ∨ kind = .hasOneThrough then
          (atMostOne m kind rows).map Option.toList else ofRows m rows)) := by
  cases kind with
  | belongsTo => exact absurd rfl leads
  | hasMany | hasManyThrough | hasAndBelongsToMany => rfl
  | hasOne | hasOneThrough =>
      have returns (found : Except Error (Option Record)) :
          (do return (← Action.ofExcept found).toList : Action σ (List Record)) =
            Action.ofExcept (found.map Option.toList) := by
        cases found <;> rfl
      unfold related hasOne hasOneThrough selectedRows
      simp only [pure_bind, bind_assoc, returns]
      rfl

variable {engine : Engine} {output : Output} {key : String → String} {held : σ → Database}
  {registry : Registry} {kind : RelationKind} {m : Model} {c : σ}

section

variable {table : String} {rows : List Row} {between c' : σ}
  (declared : r.model.relationKeys kind table = .ok keys) (resolved : keys.hop = .ok hop)
  (named : m.table = keys.target) (apart : r.table ∉ keys.visited) (persisted : 0 < r.id)
  (loaded : (registry.load table).runOn c = (.ok m, between))
  (answered : (Connection.runQuery (r.following keys hop)).runOn between = (.ok rows, c'))

include declared resolved named apart persisted loaded answered

private theorem runOn_directRows (direct : keys.kind = .hasOne ∨ keys.kind = .hasMany) :
    (r.directRows registry kind table).runOn c = (.ok (m, rows), c') := by
  obtain ⟨-, source, -⟩ := Model.relationKeys_eq_ok declared
  obtain ⟨hop', resolved', statement⟩ := following_direct named source apart direct
  obtain rfl := Except.ok.inj (resolved.symm.trans resolved')
  rw [statement] at answered
  have standing : r.requirePersisted = .ok () := if_pos (decide_eq_true persisted)
  unfold directRows
  rw [standing, declared, Action.runOn_bind_ok (Action.runOn_ofExcept _ _),
    Action.runOn_bind_ok (Action.runOn_ofExcept _ _), Action.runOn_bind_ok loaded,
    Action.runOn_bind_ok answered]
  rfl

private theorem runOn_throughRows
    (indirect : keys.kind = .hasOneThrough ∨ keys.kind = .hasManyThrough ∨
      keys.kind = .hasAndBelongsToMany) :
    (r.throughRows registry kind table).runOn c = (.ok (m, rows), c') := by
  obtain ⟨-, source, -⟩ := Model.relationKeys_eq_ok declared
  obtain ⟨through, found⟩ : ∃ through, keys.throughTable = .ok through := by
    unfold RelationKeys.throughTable
    cases RelationKeys.hops_of_hop resolved with
    | chained _ through | between _ through => exact ⟨_, by rw [through]⟩
    | toTarget belongs => simp [belongs] at indirect
    | fromTarget direct => rcases direct with direct | direct <;> simp [direct] at indirect
  obtain ⟨hop', resolved', statement⟩ := following_through named source apart indirect found
  obtain rfl := Except.ok.inj (resolved.symm.trans resolved')
  rw [statement] at answered
  have standing : r.requirePersisted = .ok () := if_pos (decide_eq_true persisted)
  unfold throughRows
  rw [standing, declared, Action.runOn_bind_ok (Action.runOn_ofExcept _ _),
    Action.runOn_bind_ok (Action.runOn_ofExcept _ _), found,
    Action.runOn_bind_ok (Action.runOn_ofExcept _ _), Action.runOn_bind_ok loaded,
    Action.runOn_bind_ok answered]
  rfl

end

private theorem exists_selectedRows (law : Connection.Executes σ engine output key held)
    (declared : r.model.relationKeys kind other.table = .ok keys) (resolved : keys.hop = .ok hop)
    (leads : kind ≠ .belongsTo) (named : m.table = keys.target)
    (distinct : (r.table :: hop.tables).Nodup) (persisted : 0 < r.id)
    (loads : ((registry.load other.table).runOn c).1 = .ok m) :
    ∃ rows c', (r.selectedRows registry kind other.table).runOn c = (.ok (m, rows), c') ∧
      rows.Perm ((reachedRows engine (held c) r hop).map ((held c).rowOf keys.target)) := by
  have made := RelationKeys.hops_of_hop resolved
  obtain ⟨kind', -⟩ := Model.relationKeys_eq_ok declared
  have apart : r.table ∉ keys.visited := made.visited ▸ (List.nodup_cons.mp distinct).1
  have kept := Registry.keeps_load law.tableExists law.columnsOfTable registry other.table c
  obtain ⟨c', answered⟩ :=
    law.exists_runQuery (r.following keys hop) ((registry.load other.table).runOn c).2
  rw [kept] at answered
  refine ⟨(r.following keys hop).answer engine output (held c), c', ?_,
    answer_following made (List.nodup_cons.mp distinct).2⟩
  have direct := runOn_directRows declared resolved named apart persisted (Prod.ext loads rfl) answered
  have indirect :=
    runOn_throughRows declared resolved named apart persisted (Prod.ext loads rfl) answered
  cases kind with
  | belongsTo => exact absurd rfl leads
  | hasOne => exact direct (.inl kind')
  | hasMany => exact direct (.inr kind')
  | hasOneThrough => exact indirect (.inl kind')
  | hasManyThrough => exact indirect (.inr (.inl kind'))
  | hasAndBelongsToMany => exact indirect (.inr (.inr kind'))

/-- Of the links of a record to a table as many are counted as following the relation selects rows, but
for those that the two statements do not share. -/
theorem linkCountAny_eq_tally (law : Connection.Executes σ engine output key held)
    (symmetric : engine.Symmetric) (numbers : engine.ComparesNumbers)
    (only : r.model.onlyKind other.table = .ok kind)
    (declared : r.model.relationKeys kind other.table = .ok keys) (resolved : keys.hop = .ok hop)
    (leads : kind ≠ .belongsTo) (named : other.table = keys.target)
    (identifies : keys.Identifies r.model other.model) (distinct : (r.table :: keys.visited).Nodup)
    (persisted : 0 < r.id) (loads : ((registry.load other.table).runOn c).1 = .ok other.model)
    (keyed : (held c).Keyed r.table r.model.primaryKey)
    (keyed' : (held c).Keyed other.table other.model.primaryKey)
    (alike : ∀ {place row}, (held c).row? (r.table, place) = some row →
      engine.ComparesAsRead (row.read r.model.primaryKey))
    (refers : kind = .hasAndBelongsToMany →
      (held c).Refers (keys.through.getD "") keys.targetKey) :
    ∃ rows c', (r.selectedRows registry kind other.table).runOn c = (.ok (other.model, rows), c') ∧
      (∀ n s, (linkCountAny other).runOn (r, c) = (.ok n, s) →
        n.toNat = tally engine (held c) r other keys rows.length) ∧
      (tally engine (held c) r other keys rows.length < 2 ^ 63 →
        ∃ n s, (linkCountAny other).runOn (r, c) = (.ok n, s)) := by
  obtain ⟨kind', source, -⟩ := Model.relationKeys_eq_ok declared
  have made := RelationKeys.hops_of_hop resolved
  rw [← made.visited] at distinct
  obtain ⟨rows, c', ran, same⟩ :=
    exists_selectedRows law declared resolved leads named distinct persisted loads
  obtain ⟨query, asked, length⟩ := exists_linkQuery_tally symmetric numbers source named.symm distinct
    identifies made (kind'.symm ▸ leads) keyed keyed' alike fun join => refers (kind'.symm.trans join)
  obtain ⟨counts, ungrouped, whole⟩ := linkQuery_counts asked
  have selected := same.length_eq
  rw [List.length_map] at selected
  rw [← selected] at length
  refine ⟨rows, c', ran, ?_, ?_⟩
  · intro n s counted
    replace counted := congrArg Prod.fst counted
    rw [linkCountAny, Action.runOn_observed_fst] at counted
    obtain ⟨kind₁, keys₁, query₁, only₁, declared₁, asked₁, counted⟩ :=
      countLinks_eq_ok (Prod.ext counted rfl)
    obtain rfl := Except.ok.inj (only.symm.trans only₁)
    obtain rfl := Except.ok.inj (declared.symm.trans declared₁)
    obtain rfl := Except.ok.inj (asked.symm.trans asked₁)
    obtain ⟨number, -, -⟩ := law.toAnswers.runCount counts ungrouped whole counted
    rw [number, length]
  · intro small
    obtain ⟨n, c₁, counted⟩ := law.exists_runCount counts ungrouped whole (length ▸ small)
    refine ⟨n, (r, c₁), ?_⟩
    rw [linkCountAny, Action.runOn_observed, runOn_countLinks only declared asked, counted]

end

end Record

/-! ## A post and its tag -/

namespace Example.Shop

def post : Model where
  table := "post"
  fields := .ofList [("title", .text)]
  relations := [⟨.hasAndBelongsToMany, "tag", {}⟩]

def tag : Model where
  table := "tag"
  fields := .ofList [("label", .text)]
  relations := [⟨.hasAndBelongsToMany, "post", {}⟩]

def tagKeys : RelationKeys where
  kind := .hasAndBelongsToMany
  source := "post"
  target := "tag"
  through := some "post_tag"
  sourceKey := "post_id"
  sourceId := "id"
  throughId := "id"
  targetKey := "tag_id"
  targetId := "id"

def savedPost : Record := { Record.ofModel post with id := 1 }

def tagged : Memory numeric output (fun _ => "id") :=
  { store with held := { rows := fun
    | "post" => [.ofList [("id", .int 1)]]
    | "tag" => [.ofList [("id", .int 2)]]
    | "post_tag" =>
      [.ofList [("post_id", .int 1), ("tag_id", .int 2)],
        .ofList [("post_id", .int 1), ("tag_id", .int 3)]]
    | _ => [] } }

def tagging : Linking (Memory numeric output fun _ => "id") where
  source := .ofModel post
  target := .ofModel tag
  middle := none
  connection := store

end Example.Shop

open Example in
theorem Record.linkCountAny_eq_tally_tags :
    ∃ rows c' n s,
      (Shop.savedPost.selectedRows Shop.registry .hasAndBelongsToMany "tag").runOn Shop.tagged =
        (.ok (Shop.tag, rows), c') ∧
      (linkCountAny (.ofModel Shop.tag)).runOn (Shop.savedPost, Shop.tagged) = (.ok n, s) ∧
      rows.length = 1 ∧ n.toNat = 2 := by
  have only : Shop.savedPost.model.onlyKind (ofModel Shop.tag).table = .ok .hasAndBelongsToMany := by
    decide +kernel
  have declared : Shop.savedPost.model.relationKeys .hasAndBelongsToMany (ofModel Shop.tag).table =
      .ok Shop.tagKeys := by
    decide +kernel
  obtain ⟨hop, resolved⟩ : ∃ hop, Shop.tagKeys.hop = .ok hop := ⟨_, rfl⟩
  have leads : RelationKind.hasAndBelongsToMany ≠ .belongsTo := nofun
  have distinct : (Shop.savedPost.table :: Shop.tagKeys.visited).Nodup := by decide +kernel
  have keyed : Shop.tagged.held.Keyed "post" "id" := .of_rows (by decide) (by decide)
  have keyed' : Shop.tagged.held.Keyed "tag" "id" := .of_rows (by decide) (by decide)
  have refers : Shop.tagged.held.Refers "post_tag" "tag_id" := .of_rows (by decide)
  have alike {place : Nat} {row : Row} (present : Shop.tagged.held.row? ("post", place) = some row) :
      numeric.ComparesAsRead (row.read "id") := by
    match place with
    | 0 =>
        cases present
        exact fun n read other => by cases read; rfl
    | _ + 1 => cases present
  have identifies : Shop.tagKeys.Identifies Shop.savedPost.model Shop.tag := ⟨rfl, rfl⟩
  have loads : ((Shop.registry.load "tag").runOn Shop.tagged).1 = .ok Shop.tag := rfl
  obtain ⟨rows, c', ran, tallied, counted⟩ :=
    linkCountAny_eq_tally (r := Shop.savedPost) (c := Shop.tagged) Memory.executes
      symmetric_numeric comparesNumbers_numeric only declared resolved leads rfl identifies distinct
      (by decide) loads keyed keyed' alike fun _ => refers
  have selects : (((Shop.savedPost.selectedRows Shop.registry .hasAndBelongsToMany
      (ofModel Shop.tag).table).runOn Shop.tagged).1.toOption.map fun selected =>
        selected.2.length) = some 1 := by
    decide +kernel
  rw [ran] at selects
  have length : rows.length = 1 := Option.some.inj selects
  rw [length, show tally numeric Shop.tagged.held _ _ _ 1 = 2 by decide] at tallied counted
  obtain ⟨n, s, asked⟩ := counted (by decide)
  exact ⟨rows, c', n, s, ran, asked, length, tallied n s asked⟩

/-- A post is linked to a tag, and the tag is destroyed. One link of the post to tags is counted, and
following the relation selects none. -/
theorem Record.destroyed_tag_is_counted :
    ((Example.Shop.registry.load "post").runOn Example.Shop.store).1 = .ok Example.Shop.post ∧
      ((Example.Shop.registry.load "tag").runOn Example.Shop.store).1 = .ok Example.Shop.tag ∧
      ((do
        Linking.link Example.Shop.registry
        let _ ← Linking.onTarget destroy
        let l ← get
        let n ← Linking.onSource (linkCountAny l.target)
        let (_, rows) ← Linking.onConnection
          (l.source.selectedRows Example.Shop.registry .hasAndBelongsToMany "tag")
        return (n.toNat, rows.length)).runOn Example.Shop.tagging).1 = .ok (1, 0) :=
  ⟨rfl, rfl, by decide +kernel⟩

end RecordMapper
