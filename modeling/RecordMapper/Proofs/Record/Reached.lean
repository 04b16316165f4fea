import RecordMapper.Proofs.Record.Connecting
import RecordMapper.Proofs.Record.Followed

/-!
Whether two records are linked, next to following the relation between their tables. The statement
that counts the links of two records names other tables than the one that follows the relation, and
takes other keys from memory; a record is counted where it is reached.
-/

set_option autoImplicit false

namespace RecordMapper

def RelationKeys.Identifies (keys : RelationKeys) (source target : Model) : Prop :=
  match keys.kind with
  | .belongsTo => keys.referencedKey = target.primaryKey
  | .hasOne | .hasMany => keys.referencedKey = source.primaryKey
  | .hasOneThrough | .hasManyThrough | .hasAndBelongsToMany =>
    keys.sourceId = source.primaryKey ∧ keys.targetId = target.primaryKey

namespace Database

variable {db : Database} {engine : Engine} {first second : String}

/-- One more condition leaves those of the joined rows that satisfy it as well. -/
theorem matching_append (db : Database) (engine : Engine) (tables : List String) (es : List Expr)
    (e : Expr) :
    db.matching engine tables (Expr.conjAll? (es ++ [e])) =
      (db.matching engine tables (Expr.conjAll? es)).filter (db.satisfies engine (some e)) := by
  unfold matching
  rw [List.filter_filter]
  refine List.filter_congr fun parts _ => ?_
  rw [Bool.eq_iff_iff, Bool.and_eq_true, satisfies_conjAll?, satisfies_conjAll?,
    List.forall_mem_append, List.forall_mem_singleton, satisfies, Option.all_some, beq_iff_eq,
    and_comm]

private theorem matching_cons (db : Database) (engine : Engine) (tables : List String) (e : Expr)
    (es : List Expr) :
    db.matching engine tables (Expr.conjAll? (e :: es)) =
      (db.matching engine tables (Expr.conjAll? es)).filter (db.satisfies engine (some e)) := by
  rw [← matching_append]
  unfold matching
  refine List.filter_congr fun parts _ => ?_
  rw [Bool.eq_iff_iff, satisfies_conjAll?, satisfies_conjAll?, List.forall_mem_append,
    List.forall_mem_singleton, List.forall_mem_cons, and_comm]

private theorem mem_matching_two {filter : Option Expr} {parts : Joined} :
    parts ∈ db.matching engine [first, second] filter ↔
      ∃ p₁ p₂ r₁ r₂, parts = [(first, p₁), (second, p₂)] ∧ db.row? (first, p₁) = some r₁ ∧
        db.row? (second, p₂) = some r₂ ∧ db.satisfies engine filter parts = true := by
  rw [mem_matching]
  constructor
  · rintro ⟨names, placed, satisfied⟩
    obtain ⟨⟨_, p₁⟩, rest, rfl, rfl, single⟩ := List.map_eq_cons_iff.mp names
    obtain ⟨⟨_, p₂⟩, rfl, rfl⟩ := List.map_eq_singleton_iff.mp single
    rw [List.forall_mem_cons, List.forall_mem_singleton] at placed
    simp only [Option.isSome_iff_exists] at placed
    obtain ⟨⟨r₁, present₁⟩, r₂, present₂⟩ := placed
    exact ⟨p₁, p₂, r₁, r₂, rfl, present₁, present₂, satisfied⟩
  · rintro ⟨p₁, p₂, r₁, r₂, rfl, present₁, present₂, satisfied⟩
    refine ⟨rfl, ?_, satisfied⟩
    simp [present₁, present₂]

/-- The rows of a table with a value, each with the rows of another table that its key refers to. -/
theorem mem_matching_linked {column key id : String} {v : Value} (differ : first ≠ second)
    {parts : Joined} :
    parts ∈ db.matching engine [first, second] (Expr.conjAll? [
        .eq (.column (.of first column)) (.value v),
        .eq (.column (.of first key)) (.column (.of second id))]) ↔
      ∃ p₁ p₂ r₁ r₂, parts = [(first, p₁), (second, p₂)] ∧ db.row? (first, p₁) = some r₁ ∧
        db.row? (second, p₂) = some r₂ ∧ engine.compare .eq (r₁.read column) v = .true ∧
        engine.compare .eq (r₁.read key) (r₂.read id) = .true := by
  rw [mem_matching_two]
  refine exists_congr fun p₁ => exists_congr fun p₂ => exists_congr fun r₁ =>
    exists_congr fun r₂ => ?_
  refine and_congr_right fun same => and_congr_right fun present₁ =>
    and_congr_right fun present₂ => ?_
  rw [satisfies_conjAll?, List.forall_mem_cons, List.forall_mem_singleton, Expr.truth_eq,
    Expr.truth_eq, same]
  simp only [Expr.eval, value_cons_self present₁, value_cons_of_ne differ.symm,
    value_single present₂]

end Database

namespace Record

def reachedRows (engine : Engine) (db : Database) (r : Record) (hop : JoinHop) : List Joined :=
  db.matching engine hop.tables
    (Expr.conjAll? (hop.equalities.map fun e => e.pinned r.table r.keyValue))

/-- There are links between two records if a relation leads from the one to the row of the other. -/
def LinkedIfReached (engine : Engine) (db : Database) (r other : Record) (keys : RelationKeys)
    (hop : JoinHop) (place : Nat) : Prop :=
  ∃ rows, linkingRows engine db r other keys = .ok rows ∧
    (rows ≠ [] ↔ ∃ parts ∈ reachedRows engine db r hop, (other.table, place) ∈ parts)

variable {engine : Engine} {db : Database} {r other : Record} {place place' : Nat} {row row' : Row}
  {keys : RelationKeys} {hop : JoinHop}

private theorem InStep.satisfies_idCondition_iff_mem (inStep : r.InStep engine db place row)
    {parts : Joined}
    (distinct : (parts.map Prod.fst).Nodup) (listed : r.table ∈ parts.map Prod.fst)
    (placed : ∀ part ∈ parts, (db.row? part).isSome) :
    db.satisfies engine (some (r.idCondition r.id)) parts = true ↔ (r.table, place) ∈ parts := by
  obtain ⟨⟨_, here⟩, member, rfl⟩ := List.mem_map.mp listed
  obtain ⟨found, present⟩ := Option.isSome_iff_exists.mp (placed _ member)
  rw [Database.satisfies, Option.all_some, beq_iff_eq, idCondition, Expr.truth_eq, Expr.eval,
    Expr.eval, Database.value_of_mem distinct member present, inStep.found present]
  constructor
  · rintro rfl
    exact member
  · intro member'
    have first := (lookup_eq_some_iff_mem distinct).mpr member
    exact Option.some.inj (first.symm.trans ((lookup_eq_some_iff_mem distinct).mpr member'))

/-- The key of a record's row is as good as its identifier. -/
theorem InStep.compare_primaryKey (inStep : r.InStep engine db place row)
    (symmetric : engine.Symmetric) (alike : engine.ComparesAsRead (row.read r.model.primaryKey))
    (v : Value) :
    engine.compare .eq v (row.read r.model.primaryKey) = engine.compare .eq v (.int r.id) := by
  rw [symmetric.compare, ← alike.compare, ← keyValue_of_hydrated inStep.held (.inl rfl),
    keyValue_primaryKey rfl, symmetric.compare]

private theorem satisfies_idCondition_cons {table : String} (differ : r.table ≠ table) {id : Int64}
    {parts : Joined} :
    db.satisfies engine (some (r.idCondition id)) ((table, place) :: parts) =
      db.satisfies engine (some (r.idCondition id)) parts := by
  rw [Database.satisfies, Database.satisfies, Option.all_some, Option.all_some, idCondition,
    Expr.truth_eq, Expr.truth_eq, Expr.eval, Expr.eval, Expr.eval, Expr.eval,
    Database.value_cons_of_ne differ]

/-- The links of two records are those of the one that also have the identifier of the other. -/
theorem linkingRows_of_reads (kind : keys.kind = .hasOne ∨ keys.kind = .hasMany ∨
      (keys.kind = .hasOneThrough ∨ keys.kind = .hasManyThrough) ∧
        keys.targetId = other.model.primaryKey)
    {query : Select} (asked : r.linkQuery other keys false = .ok query) :
    linkingRows engine db r other keys = .ok ((query.reads engine db).filter
      (db.satisfies engine (some (other.idCondition other.id)))) := by
  have narrowed {tables : List String} (conditions : List Expr) {last : Expr}
      (whole : (pure { returning := [.count "count"], tables
                       filter := Expr.conjAll? (conditions ++ []) } : Except Error Select) =
        .ok query) :
      (do return (← (pure { returning := [.count "count"], tables
                            filter := Expr.conjAll? (conditions ++ [last]) } :
        Except Error Select)).reads engine db : Except Error (List Joined)) =
          .ok ((query.reads engine db).filter (db.satisfies engine (some last))) := by
    cases whole
    rw [List.append_nil]
    exact congrArg Except.ok (Database.matching_append db engine tables conditions last)
  unfold linkingRows
  unfold linkQuery at asked ⊢
  rcases kind with kind | kind | ⟨kind | kind, targetId⟩
  · rw [kind] at asked ⊢
    exact narrowed [_] asked
  · rw [kind] at asked ⊢
    exact narrowed [_] asked
  all_goals
    rw [kind] at asked ⊢
    obtain ⟨through, named, returned⟩ := bind_eq_ok.mp asked
    rw [named, keyValue_primaryKey targetId, targetId]
    exact narrowed [_, _, _] returned

section

variable (source : keys.source = r.table) (goal : keys.target = other.table)
  (distinct : (r.table :: hop.tables).Nodup) (identifies : keys.Identifies r.model other.model)
  (made : RelationKeys.Hops keys hop)

include goal distinct made

/-- A joined row of the record leads to the other's row if the other's identifier is in it. -/
theorem satisfies_idCondition_iff_reached (inStep' : other.InStep engine db place' row')
    {parts : Joined} (member : parts ∈ reachedRows engine db r hop) :
    db.satisfies engine (some (other.idCondition other.id)) parts = true ↔
      (other.table, place') ∈ parts := by
  obtain ⟨names, placed, -⟩ := Database.mem_matching.mp member
  refine inStep'.satisfies_idCondition_iff_mem ?_ ?_ placed
  · rw [names]
    exact (List.nodup_cons.mp distinct).2
  · rw [names, ← goal]
    exact target_mem_tables made

include source

section

variable (engine) (db)

/-- The links of a record in a direct relation are the rows that it leads to. -/
theorem reads_direct (kind : keys.kind = .hasOne ∨ keys.kind = .hasMany) :
    ∃ query, r.linkQuery other keys false = .ok query ∧
      query.reads engine db = reachedRows engine db r hop := by
  have differ : keys.target ≠ r.table :=
    fun same => (List.nodup_cons.mp distinct).1 (same ▸ target_mem_tables made)
  have asked : r.linkQuery other keys false = .ok {
      returning := [.count "count"]
      tables := [other.table]
      filter := Expr.conjAll? [.eq (.column (.of other.table keys.foreignKey))
        (.value (r.keyValue keys.referencedKey))] } := by
    unfold linkQuery
    rcases kind with kind | kind <;> rw [kind] <;> rfl
  refine ⟨_, asked, ?_⟩
  cases made with
  | fromTarget =>
      rw [goal] at differ
      simp [Select.reads, reachedRows, KeyEquality.pinned, ColumnRef.of, source, goal, differ]
  | toTarget kind' | chained kind' => simp [kind'] at kind
  | between kind' => rcases kind' with kind' | kind' <;> simp [kind'] at kind

omit distinct in
/-- The links of a record in a relation through another table are the joined rows from its own row on. -/
theorem reads_through (kind : keys.kind = .hasOneThrough ∨ keys.kind = .hasManyThrough) :
    ∃ query, r.linkQuery other keys false = .ok query ∧
      query.reads engine db = (db.matching engine (r.table :: hop.tables)
        (Expr.conjAll? (hop.equalities.map KeyEquality.condition))).filter
          (db.satisfies engine (some (r.idCondition r.id))) := by
  rw [← Database.matching_cons]
  have asked {through : String} (named : keys.through = some through) :
      r.linkQuery other keys false = .ok {
        returning := [.count "count"]
        tables := [r.table, through, other.table]
        filter := Expr.conjAll? [r.idCondition r.id,
          .eq (.column (.of through keys.sourceKey)) (.column (.of r.table keys.sourceId)),
          reachesTarget keys through other.table] } := by
    unfold linkQuery RelationKeys.throughTable
    rw [named]
    rcases kind with kind | kind <;> rw [kind] <;> rfl
  cases made with
  | chained kind' through =>
      refine ⟨_, asked through, ?_⟩
      simp [Select.reads, KeyEquality.condition, reachesTarget, kind', source, goal]
  | between kind' through =>
      refine ⟨_, asked through, ?_⟩
      replace kind' : keys.kind = .hasManyThrough :=
        kind.resolve_left fun other => by simp [other] at kind'
      simp [Select.reads, KeyEquality.condition, reachesTarget, kind', source, goal]
  | toTarget kind' => simp [kind'] at kind
  | fromTarget kind' => rcases kind' with kind' | kind' <;> simp [kind'] at kind

/-- The rows that a relation between two keys leads to, by way of the table that holds both. -/
theorem exists_reachedRows_between
    (kind : keys.kind = .hasManyThrough ∨ keys.kind = .hasAndBelongsToMany) :
    ∃ between, keys.through = some between ∧ between ≠ other.table ∧
      reachedRows engine db r hop = db.matching engine [between, other.table] (Expr.conjAll? [
        .eq (.column (.of between keys.sourceKey)) (.value (r.keyValue keys.sourceId)),
        .eq (.column (.of between keys.targetKey)) (.column (.of other.table keys.targetId))]) := by
  cases made with
  | @between between _ through =>
      rw [source, goal] at *
      simp only [List.nodup_cons, List.mem_cons, List.not_mem_nil, or_false, not_or] at distinct
      obtain ⟨⟨own, own'⟩, differ, -⟩ := distinct
      refine ⟨between, through, differ, ?_⟩
      simp [reachedRows, KeyEquality.pinned, KeyEquality.condition, ColumnRef.of, Ne.symm own,
        Ne.symm own']
  | toTarget kind' | chained kind' => simp [kind'] at kind
  | fromTarget kind' => rcases kind' with kind' | kind' <;> simp [kind'] at kind

end

private theorem linkedIfReached_direct (kind : keys.kind = .hasOne ∨ keys.kind = .hasMany)
    (inStep' : other.InStep engine db place' row') :
    LinkedIfReached engine db r other keys hop place' := by
  obtain ⟨query, asked, reads⟩ := reads_direct engine db source goal distinct made kind
  refine ⟨_, linkingRows_of_reads (kind.imp_right .inl) asked, ?_⟩
  rw [reads]
  simp only [ne_eq, List.filter_eq_nil_iff, not_forall, not_not, exists_prop]
  exact exists_congr fun parts => and_congr_right fun member =>
    satisfies_idCondition_iff_reached goal distinct made inStep' member

include identifies

private theorem linkedIfReached_through
    (kind : keys.kind = .hasOneThrough ∨ keys.kind = .hasManyThrough)
    (symmetric : engine.Symmetric) (inStep : r.InStep engine db place row)
    (alike : engine.ComparesAsRead (row.read keys.ownKey))
    (inStep' : other.InStep engine db place' row') :
    LinkedIfReached engine db r other keys hop place' := by
  obtain ⟨sourceId, targetId⟩ :
      keys.sourceId = r.model.primaryKey ∧ keys.targetId = other.model.primaryKey := by
    unfold RelationKeys.Identifies at identifies
    rcases kind with kind | kind <;> simpa only [kind] using identifies
  have own : keys.ownKey = r.model.primaryKey := by
    unfold RelationKeys.ownKey
    rcases kind with kind | kind <;> rw [kind] <;> exact sourceId
  have apart := (List.nodup_cons.mp distinct).1
  have differ : other.table ≠ r.table := by
    rw [← goal]
    exact fun same => apart (same ▸ target_mem_tables made)
  obtain ⟨query, asked, reads⟩ := reads_through engine db source goal made kind
  refine ⟨_, linkingRows_of_reads (.inr (.inr ⟨kind, targetId⟩)) asked, ?_⟩
  rw [reads, filter_matching_own inStep.present
    (compare_ownKey symmetric inStep (.inl own) alike) symmetric made source apart
    inStep.found]
  simp only [List.filter_map, ne_eq, List.map_eq_nil_iff, List.filter_eq_nil_iff, not_forall,
    not_not, exists_prop]
  refine exists_congr fun parts => and_congr_right fun member => ?_
  rw [Function.comp_apply, satisfies_idCondition_cons differ]
  exact satisfies_idCondition_iff_reached goal distinct made inStep' member

/-- A join row counts as a link if it holds the two identifiers, and leads to the other's row. -/
theorem linkedIfReached_join (kind : keys.kind = .hasAndBelongsToMany)
    (symmetric : engine.Symmetric) (inStep' : other.InStep engine db place' row')
    (alike' : engine.ComparesAsRead (row'.read other.model.primaryKey)) :
    LinkedIfReached engine db r other keys hop place' := by
  obtain ⟨sourceId, targetId⟩ :
      keys.sourceId = r.model.primaryKey ∧ keys.targetId = other.model.primaryKey := by
    unfold RelationKeys.Identifies at identifies
    simpa only [kind] using identifies
  obtain ⟨join, through, differ, reached⟩ :=
    exists_reachedRows_between engine db source goal distinct made (.inr kind)
  refine ⟨_, linkingRows_hasAndBelongsToMany kind through sourceId targetId, ?_⟩
  rw [reached, keyValue_primaryKey sourceId, targetId]
  constructor
  · intro filled
    obtain ⟨parts, member⟩ := List.exists_mem_of_ne_nil _ filled
    obtain ⟨p, r₁, rfl, present, holds, refers⟩ := Database.mem_matching_pair.mp member
    rw [← inStep'.compare_primaryKey symmetric alike'] at refers
    exact ⟨_, (Database.mem_matching_linked differ).mpr
      ⟨p, place', r₁, row', rfl, present, inStep'.present, holds, refers⟩, by simp⟩
  · rintro ⟨parts, reached, member⟩
    obtain ⟨p, p₂, r₁, r₂, rfl, present, present', holds, refers⟩ :=
      (Database.mem_matching_linked differ).mp reached
    obtain rfl : place' = p₂ := by simpa [differ.symm] using member
    obtain rfl := Option.some.inj (present'.symm.trans inStep'.present)
    rw [inStep'.compare_primaryKey symmetric alike'] at refers
    exact List.ne_nil_of_mem (Database.mem_matching_pair.mpr ⟨p, r₁, rfl, present, holds, refers⟩)

/-- The row of a record counts as its link if its key is the other's identifier, as which it is
followed. -/
theorem linkedIfReached_belongsTo (kind : keys.kind = .belongsTo)
    (symmetric : engine.Symmetric) (inStep : r.InStep engine db place row)
    (integral : keys.foreignKey = r.model.primaryKey ∨
      r.model.fields.get? keys.foreignKey = some .integer)
    (alike : engine.ComparesAsRead (row.read keys.foreignKey))
    (inStep' : other.InStep engine db place' row')
    (alike' : engine.ComparesAsRead (row'.read other.model.primaryKey)) :
    LinkedIfReached engine db r other keys hop place' := by
  have referenced : keys.referencedKey = other.model.primaryKey := by
    unfold RelationKeys.Identifies at identifies
    simpa only [kind] using identifies
  have own : keys.ownKey = keys.foreignKey := by
    rw [RelationKeys.ownKey, kind]
  rw [← own] at integral alike
  have reached : reachedRows engine db r hop = db.matching engine [other.table]
      (some (.eq (.column (.of other.table other.model.primaryKey))
        (.value (r.keyValue keys.ownKey)))) := by
    rw [own, ← referenced]
    cases made with
    | toTarget => simp [reachedRows, KeyEquality.pinned, ColumnRef.of, Expr.conjAll?, source, goal]
    | fromTarget kind' | between kind' => rcases kind' with kind' | kind' <;> simp [kind] at kind'
    | chained kind' => simp [kind] at kind'
  have refers : engine.compare .eq (row'.read other.model.primaryKey) (r.keyValue keys.ownKey) =
      engine.compare .eq (row.read keys.ownKey) (.int other.id) := by
    rw [← compare_ownKey symmetric inStep integral alike, symmetric.compare,
      inStep'.compare_primaryKey symmetric alike']
  refine ⟨_, linkingRows_belongsTo kind referenced, ?_⟩
  rw [reached, ← own]
  constructor
  · intro filled
    obtain ⟨parts, member⟩ := List.exists_mem_of_ne_nil _ filled
    obtain ⟨p, row₁, rfl, present, holds, identified⟩ := Database.mem_matching_pair.mp member
    obtain rfl := (inStep.found present).mp identified
    obtain rfl := Option.some.inj (present.symm.trans inStep.present)
    refine ⟨_, Database.mem_matching_single.mpr ⟨place', row', rfl, inStep'.present, ?_⟩,
      List.mem_singleton_self _⟩
    rw [Database.satisfies, Option.all_some, beq_iff_eq, Expr.truth_eq, Expr.eval, Expr.eval,
      Database.value_single inStep'.present, refers, holds]
  · rintro ⟨parts, reached, member⟩
    obtain ⟨p, row₁, rfl, present, holds⟩ := Database.mem_matching_single.mp reached
    obtain rfl : place' = p := congrArg Prod.snd (List.mem_singleton.mp member)
    obtain rfl := Option.some.inj (present.symm.trans inStep'.present)
    rw [Database.satisfies, Option.all_some, beq_iff_eq, Expr.truth_eq, Expr.eval, Expr.eval,
      Database.value_single inStep'.present, refers] at holds
    exact List.ne_nil_of_mem (Database.mem_matching_pair.mpr
      ⟨place, row, rfl, inStep.present, holds, (inStep.found inStep.present).mpr rfl⟩)

/-- Whatever the relation of two records in step with their rows, there are links between them if
following the relation leads from the one to the other's row. -/
theorem linkedIfReached (symmetric : engine.Symmetric) (inStep : r.InStep engine db place row)
    (integral : keys.kind = .belongsTo → keys.foreignKey = r.model.primaryKey ∨
      r.model.fields.get? keys.foreignKey = some .integer)
    (alike : engine.ComparesAsRead (row.read keys.ownKey))
    (inStep' : other.InStep engine db place' row')
    (alike' : engine.ComparesAsRead (row'.read other.model.primaryKey)) :
    LinkedIfReached engine db r other keys hop place' := by
  cases made with
  | toTarget kind =>
      have own : keys.ownKey = keys.foreignKey := by
        rw [RelationKeys.ownKey, kind]
      exact linkedIfReached_belongsTo source goal distinct identifies (.toTarget kind) kind symmetric
        inStep (integral kind) (own ▸ alike) inStep' alike'
  | fromTarget kind =>
      exact linkedIfReached_direct source goal distinct (.fromTarget kind) kind inStep'
  | chained kind through =>
      exact linkedIfReached_through source goal distinct identifies (.chained kind through)
        (.inl kind) symmetric inStep alike inStep'
  | between kind through =>
      have made := RelationKeys.Hops.between kind through
      rcases kind with kind | kind
      · exact linkedIfReached_through source goal distinct identifies made (.inr kind) symmetric
          inStep alike inStep'
      · exact linkedIfReached_join source goal distinct identifies made kind symmetric inStep' alike'

end

section

variable {σ : Type} [Connection σ] {output : Output} {key : String → String} {held : σ → Database}
  {registry : Registry} {kind : RelationKind} {target : String} {m : Model} {rows : List Row}
  {records : List Record} {c c' : σ}

private theorem runOn_related_none (only : r.model.onlyKind target = .ok kind) (registry : Registry)
    (c : σ) :
    (r.related registry target none).runOn c = (r.related registry target (some kind)).runOn c := by
  unfold related
  rw [only, Action.runOn_bind_ok (Action.runOn_ofExcept _ _)]
  rfl

/-- The records that a relation leads to are those of the target rows of the joined rows that it
leads to. -/
theorem related_eq_ok (law : Connection.Executes σ engine output key held)
    (declared : r.model.relationKeys kind target = .ok keys) (named : m.table = keys.target)
    (distinct : (r.table :: keys.visited).Nodup)
    (loads : ((registry.load target).runOn c).1 = .ok m)
    (ran : (r.related registry target (some kind)).runOn c = (.ok records, c')) :
    ∃ hop rows, keys.hop = .ok hop ∧ ofRows m rows = .ok records ∧
      rows.Perm ((reachedRows engine (held c) r hop).map ((held c).rowOf keys.target)) := by
  obtain ⟨kind', source, -⟩ := Model.relationKeys_eq_ok declared
  rcases follows_of_related named source (List.nodup_cons.mp distinct).1 loads declared ran with
    ⟨belongs, ⟨hop, resolved⟩, absent, rfl⟩ | ⟨hop, rows, follows⟩
  · refine ⟨hop, [], resolved, rfl, ?_⟩
    rw [reachedRows, matching_of_null_key (RelationKeys.hops_of_hop resolved) source
      (kind'.trans belongs) absent, List.map_nil]
  · have made := RelationKeys.hops_of_hop follows.made
    rw [← made.visited] at distinct
    obtain ⟨answered, -⟩ := law.runQuery follows.asked
    have kept := Registry.keeps_load law.tableExists law.columnsOfTable registry target c
    rw [kept] at answered
    exact ⟨hop, rows, follows.made, follows.read,
      answered ▸ answer_following made (List.nodup_cons.mp distinct).2⟩

omit [Connection σ] in
/-- Of the records that are read from the target rows, one has the identifier of a record in step with
its row if they are led to this row. -/
theorem exists_id_eq_iff (numbers : engine.ComparesNumbers) (goal : keys.target = other.table)
    (distinct : hop.tables.Nodup) (made : RelationKeys.Hops keys hop)
    (inStep' : other.InStep engine db place' row')
    (keyed : db.Keyed other.table other.model.primaryKey)
    (read : ofRows other.model rows = .ok records)
    (same : rows.Perm ((reachedRows engine db r hop).map (db.rowOf keys.target))) :
    (∃ reached ∈ records, reached.id = other.id) ↔
      ∃ parts ∈ reachedRows engine db r hop, (other.table, place') ∈ parts := by
  have rowOf {parts : Joined} (inside : parts ∈ reachedRows engine db r hop) {p : Nat} {found : Row}
      (member : (other.table, p) ∈ parts) (present : db.row? (other.table, p) = some found) :
      db.rowOf keys.target parts = found := by
    obtain ⟨names, -, -⟩ := Database.mem_matching.mp inside
    have first := (lookup_eq_some_iff_mem (names ▸ distinct)).mpr member
    rw [goal, Database.rowOf, first, Option.bind_some, present, Option.getD_some]
  constructor
  · rintro ⟨reached, member, identified⟩
    obtain ⟨found, inside, hydrated⟩ := exists_of_mapM_eq_ok read member
    obtain ⟨parts, leads, rfl⟩ := List.mem_map.mp (same.subset inside)
    obtain ⟨names, placed, -⟩ := Database.mem_matching.mp leads
    have listed : other.table ∈ parts.map Prod.fst := by
      rw [names, ← goal]
      exact target_mem_tables made
    obtain ⟨⟨_, p⟩, member, rfl⟩ := List.mem_map.mp listed
    obtain ⟨found, present⟩ := Option.isSome_iff_exists.mp (placed _ member)
    rw [rowOf leads member present] at hydrated
    obtain ⟨n, number⟩ := keyed.number present
    obtain ⟨-, rfl⟩ := number?_of_hydrated hydrated number
    obtain rfl : p = place' :=
      (inStep'.found present).mp ((Engine.compare_eq_true_iff numbers number rfl).mpr identified)
    exact ⟨parts, leads, member⟩
  · rintro ⟨parts, leads, member⟩
    have inside : row' ∈ rows := by
      rw [same.mem_iff, ← rowOf leads member inStep'.present]
      exact List.mem_map_of_mem leads
    obtain ⟨reached, member, hydrated⟩ := exists_result_of_mapM_eq_ok read inside
    obtain ⟨v, n, present, number, rfl⟩ := hydrated_eq_ok_iff.mp hydrated
    obtain ⟨v', n', present', number', identified⟩ := hydrated_eq_ok_iff.mp inStep'.held
    obtain rfl := Option.some.inj (present.symm.trans present')
    obtain rfl := Except.ok.inj (number.symm.trans number')
    exact ⟨_, member, (congrArg Record.id identified).symm⟩

/-- Whether two records are linked is whether following the relation from the one reaches the other:
there is one answer to both, as long as the links can be counted in 63 bits. -/
theorem areLinked_iff_reached (law : Connection.Executes σ engine output key held)
    (symmetric : engine.Symmetric) (numbers : engine.ComparesNumbers)
    (only : r.model.onlyKind other.table = .ok kind)
    (declared : r.model.relationKeys kind other.table = .ok keys)
    (named : other.table = keys.target)
    (identifies : keys.Identifies r.model other.model)
    (distinct : (r.table :: keys.visited).Nodup)
    (integral : kind = .belongsTo → r.model.fields.get? keys.foreignKey = some .integer)
    (loads : ((registry.load other.table).runOn c).1 = .ok other.model)
    (inStep : r.InStep engine (held c) place row)
    (inStep' : other.InStep engine (held c) place' row')
    (keyed : (held c).Keyed other.table other.model.primaryKey)
    (alike : engine.ComparesAsRead (row.read keys.ownKey))
    (alike' : engine.ComparesAsRead (row'.read other.model.primaryKey))
    (ran : (r.related registry other.table none).runOn c = (.ok records, c')) :
    (∀ linked s, (areLinked other).runOn (r, c) = (.ok linked, s) →
      (linked = true ↔ ∃ reached ∈ records, reached.id = other.id)) ∧
    ∃ rows, linkingRows engine (held c) r other keys = .ok rows ∧ (rows.length < 2 ^ 63 →
      ∃ linked s, (areLinked other).runOn (r, c) = (.ok linked, s)) := by
  obtain ⟨kind', source, -⟩ := Model.relationKeys_eq_ok declared
  rw [runOn_related_none only] at ran
  obtain ⟨hop, found, resolved, read, same⟩ := related_eq_ok law declared named distinct loads ran
  have made := RelationKeys.hops_of_hop resolved
  rw [← made.visited] at distinct
  have reaches := exists_id_eq_iff numbers named.symm (List.nodup_cons.mp distinct).2 made inStep'
    keyed read same
  obtain ⟨rows, links, linked_iff⟩ := linkedIfReached source named.symm distinct identifies made
    symmetric inStep (fun belongs => .inr (integral (kind'.symm.trans belongs))) alike inStep' alike'
  refine ⟨?_, rows, links, ?_⟩
  · intro linked s asked
    obtain ⟨n, s', counted, returned⟩ := Action.runOn_bind_eq_ok.mp asked
    obtain rfl : decide (0 < n) = linked := Except.ok.inj (congrArg Prod.fst returned)
    replace counted := congrArg Prod.fst counted
    rw [linkCount, Action.runOn_observed_fst] at counted
    obtain ⟨kind₁, keys₁, query, only₁, declared₁, asks, counted⟩ :=
      countLinks_eq_ok (Prod.ext counted rfl)
    obtain rfl := Except.ok.inj (only.symm.trans only₁)
    obtain rfl := Except.ok.inj (declared.symm.trans declared₁)
    obtain ⟨counts, ungrouped, whole⟩ := linkQuery_counts asks
    obtain ⟨number, -, -⟩ := law.toAnswers.runCount counts ungrouped whole counted
    obtain rfl := Except.ok.inj (links.symm.trans (bind_eq_ok.mpr ⟨query, asks, rfl⟩))
    rw [reaches, ← linked_iff, decide_eq_true_iff, UInt64.lt_iff_toNat_lt, number]
    exact List.length_pos_iff
  · intro small
    obtain ⟨query, n, c₁, -, counts, counted, -⟩ :=
      countLinks_of_linkingRows law only declared links small
    have asked : (linkCount other).runOn (r, c) = (.ok n, (r, c₁)) := by
      rw [linkCount, Action.runOn_observed, counts, counted]
    exact ⟨_, _, Action.runOn_bind_ok asked⟩

end

end Record

/-! ## A purchase and its customer -/

def Example.Shop.firstPurchase : Record :=
  { Record.ofModel (model "purchase") with id := 7, fields := .ofList [("customer_id", .int 1)] }

private theorem Example.Shop.firstPurchase_inStep :
    firstPurchase.InStep numeric rows 0 (.ofList [("id", .int 7), ("customer_id", .int 1)]) where
  present := rfl
  held := rfl
  found {other row'} present := by
    match other with
    | 0 | 1 | 2 =>
        cases present
        decide
    | _ + 3 => cases present

private theorem Example.Shop.keyed_customer : rows.Keyed "customer" "id" :=
  .of_rows (by decide) (by decide)

open Example in
theorem Record.areLinked_iff_reached_customer :
    ∃ records c' s,
      (Shop.firstPurchase.related Shop.registry "customer" none).runOn Shop.store =
        (.ok records, c') ∧
      records.map Record.id = [1] ∧
      (areLinked Shop.firstCustomer).runOn (Shop.firstPurchase, Shop.store) = (.ok true, s) := by
  have identifies : Shop.customerKeys.Identifies Shop.firstPurchase.model Shop.firstCustomer.model :=
    rfl
  have distinct : ("purchase" :: Shop.customerKeys.visited).Nodup := by decide +kernel
  have whole (m : Int64) : numeric.ComparesAsRead (.int m) := fun n read other => by
    cases read
    rfl
  have alike : numeric.ComparesAsRead
      (Row.read (.ofList [("id", .int 7), ("customer_id", .int 1)]) Shop.customerKeys.ownKey) :=
    whole 1
  have alike' : numeric.ComparesAsRead
      (Row.read (.ofList [("id", .int 1)]) Shop.firstCustomer.model.primaryKey) :=
    whole 1
  have runs : ((Shop.firstPurchase.related Shop.registry "customer" none).runOn
      Shop.store).1.toOption.map (List.map Record.id) = some [1] := by
    decide +kernel
  obtain ⟨records, c', ran, reached⟩ := Action.exists_of_map_toOption runs
  obtain ⟨linked_iff, rows, links, counted⟩ :=
    areLinked_iff_reached Memory.executes
      symmetric_numeric comparesNumbers_numeric Shop.onlyKind_purchase Shop.relationKeys_purchase
      rfl identifies distinct (fun _ => rfl) rfl Shop.firstPurchase_inStep
      Shop.firstCustomer_inStep Shop.keyed_customer alike alike' ran
  have few : (linkingRows numeric Shop.rows Shop.firstPurchase Shop.firstCustomer
      Shop.customerKeys).toOption.map List.length = some 1 := by
    decide +kernel
  rw [show linkingRows numeric Shop.rows _ _ _ = .ok rows from links] at few
  have length : rows.length = 1 := Option.some.inj few
  obtain ⟨linked, s, asked⟩ := counted (by rw [length]; decide)
  have member : (1 : Int64) ∈ records.map Record.id := reached ▸ List.mem_singleton_self _
  obtain rfl := (linked_iff linked s asked).mpr (List.mem_map.mp member)
  exact ⟨records, c', s, ran, reached, asked⟩

end RecordMapper
