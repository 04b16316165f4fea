import RecordMapper.Example.Store
import RecordMapper.Proofs.Record.Released
import RecordMapper.Proofs.Schema.Hop

/-!
Unlinking two records. An unlinking that succeeds takes their link away and no other, unless it has
nothing to send: the record that would be changed remembers the key as cleared already, or the row
that would be deleted has an identifier under which no record is saved.
-/

set_option autoImplicit false

namespace RecordMapper

private theorem Value.toText_int_ne_empty (n : Int64) : (Value.int n).toText ≠ "" := by
  intro empty
  have numeral := Sql.isSignedNumeral_toString n.toInt
  rw [show toString n.toInt = "" from empty] at numeral
  cases numeral

/-! ## The rows between two records -/

namespace Record

variable {σ : Type} [Connection σ] {engine : Engine} {output : Output} {key : String → String}
  {held : σ → Database} (law : Connection.Executes σ engine output key held)
  {registry : Registry} {keys : RelationKeys} {r : Record} {c c' : σ}

include law in
/-- The records between two others are those of the rows that hold their keys. -/
theorem middleRecords_eq_ok {other : Option Record} {middles : List Record}
    (ran : (r.middleRecords registry keys other).runOn c = (.ok middles, c')) :
    ∃ through m rows, keys.through = some through ∧
      ((registry.load through).runOn c).1 = .ok m ∧
      List.Perm rows (((held c).matching engine [through] (some (match other with
        | some other => .conj
          (.eq (.column (.of through keys.sourceKey)) (.value (r.keyValue keys.sourceId)))
          (.eq (.column (.of through keys.targetKey)) (.value (other.keyValue keys.targetId)))
        | none =>
          .eq (.column (.of through keys.sourceKey)) (.value (r.keyValue keys.sourceId))))).map
        fun parts => (parts.head?.bind (held c).row?).getD ∅) ∧
      ofRows m rows = .ok middles ∧
      held c' = held c := by
  obtain ⟨through, m, between, rows, found, loaded, asked, made⟩ := steps_of_middleRecords ran
  have kept := Registry.keeps_load law.tableExists law.columnsOfTable registry through c
  rw [loaded] at kept
  obtain ⟨rfl, kept'⟩ := law.toAnswers.runQuery asked
  refine ⟨through, m, _, RelationKeys.through_of_throughTable found, by rw [loaded], ?_, made,
    kept'.trans kept⟩
  rw [kept]
  cases other <;> exact Select.answer_of_table

private theorem destroyed_eq_ok {id : Int64} {outcome : Bool × Record}
    (ran : (r.destroyed id : Action σ (Bool × Record)).runOn c = (.ok outcome, c')) :
    ¬0 < id ∧ c' = c ∨ 0 < id ∧ ∃ response, (Connection.run (.delete {
      table := r.table, filter := some (r.idCondition id) })).runOn c = (.ok response, c') := by
  unfold destroyed at ran
  split at ran
  · rename_i unsaved
    cases ran
    exact .inl ⟨Int64.not_lt.mpr unsaved, rfl⟩
  · rename_i saved
    obtain ⟨response, _, executed, returned⟩ := Action.runOn_bind_eq_ok.mp ran
    cases returned
    exact .inr ⟨Int64.not_le.mp saved, response, executed⟩

end Record

/-! ## Releasing -/

namespace Linking

/-- Unlinking two records has nothing to send, though they may be linked: the key is null in the
record that would be changed, or the row that would be deleted has no number of a saved record. -/
def Idle (load : String → Except Error Model) (keys : RelationKeys) (db : Database)
    (source target : Record) : Prop :=
  match keys.kind with
  | .belongsTo => source.RemembersNull keys.foreignKey
  | .hasOne | .hasMany => target.RemembersNull keys.foreignKey
  | .hasManyThrough => ∃ through m place row id, keys.through = some through ∧
      load through = .ok m ∧ db.row? (through, place) = some row ∧
      db.Holds keys source.model target.model source.id target.id row ∧
      (row.read m.primaryKey).number? = some id ∧ ¬0 < id
  | .hasOneThrough | .hasAndBelongsToMany => False

/-- The models of the tables between are those of the keys: rows of a chain are found by their
primary keys, and rows between two others are deleted by theirs. -/
def Between (load : String → Except Error Model) (keys : RelationKeys) (db : Database) : Prop :=
  ∀ through m, keys.through = some through → load through = .ok m →
    (keys.kind = .hasOneThrough → m.primaryKey = keys.throughId) ∧
    (keys.kind = .hasManyThrough → m.table = through ∧ db.Keyed through m.primaryKey)

variable {σ : Type}

structure Same (l l' : Linking σ) : Prop where
  source : l'.source.model = l.source.model
  target : l'.target.model = l.target.model
  sourceId : l'.source.id = l.source.id
  targetId : l'.target.id = l.target.id

/-- The rows that link two records are those of their models and numbers. -/
theorem linkingRows_of_same {engine : Engine} {keys : RelationKeys} {l l' : Linking σ}
    (same : l.Same l') (fits : keys.Fits l.source.model l.target.model) (db : Database) :
    Record.linkingRows engine db l'.source l'.target keys =
      Record.linkingRows engine db l.source l.target keys := by
  obtain ⟨source, target, sourceId, targetId⟩ := same
  have tables : l'.source.table = l.source.table ∧ l'.target.table = l.target.table :=
    ⟨congrArg Model.table source, congrArg Model.table target⟩
  cases fits with
  | belongsTo kind referenced =>
      rw [Record.linkingRows_belongsTo kind referenced,
        Record.linkingRows_belongsTo kind (target ▸ referenced), tables.1, source, sourceId,
        targetId]
  | hasMany kind referenced =>
      rw [Record.linkingRows_hasMany kind referenced,
        Record.linkingRows_hasMany kind (source ▸ referenced), tables.2, target, sourceId, targetId]
  | hasOneThrough kind through named apart first last =>
      rw [Record.linkingRows_through (.inl kind) named first last,
        Record.linkingRows_through (.inl kind) named (source ▸ first) (target ▸ last), tables.1,
        tables.2, source, target, sourceId, targetId]
  | hasManyThrough kind through named apart first last =>
      rw [Record.linkingRows_through (.inr kind) named first last,
        Record.linkingRows_through (.inr kind) named (source ▸ first) (target ▸ last), tables.1,
        tables.2, source, target, sourceId, targetId]
  | hasAndBelongsToMany kind join named apart first last =>
      rw [Record.linkingRows_hasAndBelongsToMany kind named first last,
        Record.linkingRows_hasAndBelongsToMany kind named (source ▸ first) (target ▸ last),
        sourceId, targetId]

/-- What releasing two linked records leaves: either it had nothing to send, or their link is taken
away. -/
inductive Releases (engine : Engine) (load : String → Except Error Model) (keys : RelationKeys)
    (held : σ → Database) (l l' : Linking σ) : Prop where
  | idle (same : l.Same l') (idle : Idle load keys (held l.connection) l.source l.target)
      (kept : held l'.connection = held l.connection)
  | frees (same : l.Same l') (busy : ¬Idle load keys (held l.connection) l.source l.target)
      (frees : Frees engine keys l (held l.connection) (held l'.connection))

variable [Connection σ]

def loaded (registry : Registry) (l : Linking σ) (table : String) : Except Error Model :=
  ((registry.load table).runOn l.connection).1

section

variable {engine : Engine} {output : Output} {key : String → String} {held : σ → Database}
  (law : Connection.Executes σ engine output key held) (numbers : engine.ComparesNumbers)
  {registry : Registry} {keys : RelationKeys} {l l' : Linking σ}
  (relates : (held l.connection).Relates keys l.source.model l.target.model)
  (persisted : 0 < l.source.id) (persisted' : 0 < l.target.id) {rows : List Joined}
  (links : Record.linkingRows engine (held l.connection) l.source l.target keys = .ok rows)
  (filled : rows ≠ []) (released : (release registry keys).runOn l = (.ok (), l'))

include law numbers relates links filled released

include persisted in
private theorem releases_of_belongsTo (kind : keys.kind = .belongsTo)
    (referenced : keys.referencedKey = l.target.model.primaryKey) :
    Releases engine (l.loaded registry) keys held l l' := by
  unfold release at released
  rw [Action.runOn_bind_ok (Action.runOn_get l), kind] at released
  obtain ⟨stored, same⟩ := onSide_eq_ok .source released
  obtain ⟨model, id, outcome⟩ :=
    Record.cleared_of_store law numbers persisted relates.source stored
  have same : l.Same l' := ⟨model, by rw [same], id, by rw [same]⟩
  rcases outcome with ⟨idle, kept⟩ | ⟨busy, clears⟩
  · exact .idle same (by rw [Idle, kind]; exact idle) kept
  · exact .frees same (by rw [Idle, kind]; exact busy)
      (frees_of_belongsTo numbers relates links filled kind referenced clears)

include persisted' in
private theorem releases_of_hasMany (kind : keys.kind = .hasOne ∨ keys.kind = .hasMany)
    (referenced : keys.referencedKey = l.source.model.primaryKey) :
    Releases engine (l.loaded registry) keys held l l' := by
  have stores : (onTarget (store keys.foreignKey .null)).runOn l = (.ok (), l') := by
    unfold release at released
    rw [Action.runOn_bind_ok (Action.runOn_get l)] at released
    rcases kind with kind | kind
    all_goals
      rw [kind] at released
      exact released
  obtain ⟨stored, same⟩ := onSide_eq_ok .target stores
  obtain ⟨model, id, outcome⟩ :=
    Record.cleared_of_store law numbers persisted' relates.target stored
  have same : l.Same l' := ⟨by rw [same], model, by rw [same], id⟩
  have idle_iff : Idle (l.loaded registry) keys (held l.connection) l.source l.target ↔
      l.target.RemembersNull keys.foreignKey := by
    rcases kind with kind | kind <;> rw [Idle, kind]
  rcases outcome with ⟨idle, kept⟩ | ⟨busy, clears⟩
  · exact .idle same (idle_iff.mpr idle) kept
  · exact .frees same (fun idle => busy (idle_iff.mp idle))
      (frees_of_hasMany numbers relates links filled kind referenced clears)

variable (between : Between (l.loaded registry) keys (held l.connection))

include between

include persisted' in
private theorem releases_of_hasOneThrough (kind : keys.kind = .hasOneThrough) {through : String}
    (named : keys.through = some through)
    (apart : [l.source.table, through, l.target.table].Nodup)
    (sourceId : keys.sourceId = l.source.model.primaryKey)
    (targetId : keys.targetId = l.target.model.primaryKey) :
    Releases engine (l.loaded registry) keys held l l' := by
  unfold release RelationKeys.throughTable at released
  rw [Action.runOn_bind_ok (Action.runOn_get l), kind] at released
  simp only [named] at released
  rw [Action.runOn_bind_ok (Action.runOn_ofExcept _ l)] at released
  obtain ⟨middles, l₁, asked, released⟩ := Action.runOn_bind_eq_ok.mp released
  obtain ⟨asked, same₁⟩ := onConnection_eq_ok asked
  obtain ⟨_, m, rows', named', loads, -, made, kept⟩ := Record.middleRecords_eq_ok law asked
  obtain rfl := Option.some.inj (named.symm.trans named')
  split at released
  · rename_i reached
    obtain ⟨stored, same⟩ := onSide_eq_ok .target released
    rw [same₁] at stored
    have busy : ¬l.target.RemembersNull keys.targetKey := by
      rintro ⟨null, -⟩
      obtain ⟨middle, member, text⟩ := List.any_eq_true.mp reached
      obtain ⟨row, -, hydrated⟩ := exists_of_mapM_eq_ok made member
      obtain ⟨_, id, -, -, rfl⟩ := Record.hydrated_eq_ok_iff.mp hydrated
      obtain ⟨set, assigned, -⟩ := Record.of_store stored
      obtain ⟨other, -⟩ := Record.assigned_null assigned
      rw [Record.keyValue_primaryKey ((between _ m named loads).1 kind).symm, Record.keyValue,
        if_neg other, null] at text
      exact Value.toText_int_ne_empty id (beq_iff_eq.mp text)
    have keyed := relates.target
    rw [← kept] at keyed
    obtain ⟨model, id, outcome⟩ := Record.cleared_of_store law numbers persisted' keyed stored
    rw [kept] at outcome
    rcases outcome with ⟨idle, -⟩ | ⟨-, clears⟩
    · exact absurd idle busy
    · exact .frees ⟨by rw [same, same₁], model, by rw [same, same₁], id⟩
        (by rw [Idle, kind]; exact not_false)
        (frees_of_hasOneThrough numbers relates links filled kind named apart sourceId targetId
          clears)
  · cases released

omit released in
/-- Of the records between two linked ones there is at least one. If it is the only one, its row
holds the link, and no other row does. -/
theorem middle_of_linked (kind : keys.kind = .hasManyThrough) {through : String}
    (named : keys.through = some through) (sourceId : keys.sourceId = l.source.model.primaryKey)
    (targetId : keys.targetId = l.target.model.primaryKey) {middles : List Record} {c : σ}
    (asked : (l.source.middleRecords registry keys (some l.target)).runOn l.connection =
      (.ok middles, c)) :
    middles ≠ [] ∧ held c = held l.connection ∧ ∀ middle, middles = [middle] →
      l.loaded registry through = .ok middle.model ∧ ∃ place row,
        (held l.connection).row? (through, place) = some row ∧
        (held l.connection).Holds keys l.source.model l.target.model l.source.id l.target.id row ∧
        (row.read middle.model.primaryKey).number? = some middle.id ∧
        ∀ {place' row'}, (held l.connection).row? (through, place') = some row' →
          (held l.connection).Holds keys l.source.model l.target.model l.source.id l.target.id row' →
            place' = place := by
  obtain ⟨_, m, found, named', loads, answer, made, kept⟩ := Record.middleRecords_eq_ok law asked
  obtain rfl := Option.some.inj (named.symm.trans named')
  dsimp only at answer
  rw [Record.keyValue_primaryKey sourceId, Record.keyValue_primaryKey targetId] at answer
  have holding := Database.mem_matching_holds_iff numbers (.inl kind) named relates.refers
    l.source.id l.target.id
  obtain ⟨place, row, present, holds⟩ := exists_holding numbers relates links filled
  rw [RelationKeys.holder_between (.inl kind) named] at present
  have member := (holding _).mpr ⟨place, row, rfl, present, holds⟩
  have records := forall₂_of_mapM_eq_ok made
  have many := records.length_eq
  rw [answer.length_eq, List.length_map] at many
  refine ⟨?_, kept, ?_⟩
  · rintro rfl
    rw [List.eq_nil_of_length_eq_zero many] at member
    cases member
  · rintro middle rfl
    obtain ⟨parts, only⟩ := List.length_eq_one_iff.mp many
    rw [only] at member answer
    obtain rfl := List.mem_singleton.mp member
    obtain ⟨row', _, hydrated, -, rfl⟩ := List.forall₂_cons_right_iff.mp records
    obtain ⟨rfl, -⟩ : row' = row ∧ _ := by
      simpa [present] using answer
    obtain ⟨n, number⟩ := ((between through m named loads).2 kind).2.number present
    obtain ⟨model, rfl⟩ := Record.number?_of_hydrated hydrated number
    refine ⟨by rw [model]; exact loads, place, row', present, holds, by rw [model]; exact number, ?_⟩
    intro place' row' present' holds'
    have member' := (holding _).mpr ⟨place', row', rfl, present', holds'⟩
    rw [only] at member'
    cases List.mem_singleton.mp member'
    rfl

private theorem releases_of_hasManyThrough (kind : keys.kind = .hasManyThrough) {through : String}
    (named : keys.through = some through)
    (apart : [l.source.table, through, l.target.table].Nodup)
    (sourceId : keys.sourceId = l.source.model.primaryKey)
    (targetId : keys.targetId = l.target.model.primaryKey) :
    Releases engine (l.loaded registry) keys held l l' := by
  unfold release at released
  rw [Action.runOn_bind_ok (Action.runOn_get l), kind] at released
  obtain ⟨middles, l₁, asked, released⟩ := Action.runOn_bind_eq_ok.mp released
  obtain ⟨asked, same₁⟩ := onConnection_eq_ok asked
  obtain ⟨some', kept, single⟩ := middle_of_linked law numbers relates links filled between kind
    named sourceId targetId asked
  rcases middles with _ | ⟨middle, _ | ⟨next, others⟩⟩
  · exact absurd rfl some'
  · obtain ⟨loads, place, row, present, holds, number, only⟩ := single middle rfl
    obtain ⟨table, keyed⟩ := (between through _ named loads).2 kind
    obtain ⟨outcome, l₂, destroyed, returned⟩ := Action.runOn_bind_eq_ok.mp released
    cases returned
    obtain ⟨destroyed, same⟩ := onConnection_eq_ok destroyed
    have same : l.Same l' := by
      rw [same, same₁]
      exact ⟨rfl, rfl, rfl, rfl⟩
    rcases Record.destroyed_eq_ok destroyed with ⟨unsaved, idle⟩ | ⟨saved, response, executed⟩
    · refine .idle same ?_ (by rw [idle, kept])
      rw [Idle, kind]
      exact ⟨through, _, place, row, _, named, loads, present, holds, number, unsaved⟩
    · refine .frees same ?_ ?_
      · rw [Idle, kind]
        rintro ⟨through', m, place', row', id, named', loads', present', holds', number', unsaved⟩
        obtain rfl := Option.some.inj (named.symm.trans named')
        obtain rfl := Except.ok.inj (loads.symm.trans loads')
        obtain rfl := only present' holds'
        obtain rfl := Option.some.inj (present.symm.trans present')
        obtain rfl := Option.some.inj (number.symm.trans number')
        exact unsaved saved
      · have effect := law.executed _ _ response _ executed
        rw [kept] at effect
        generalize held l'.connection = db' at effect ⊢
        cases effect
        have differ : through ≠ l.source.table ∧ through ≠ l.target.table := by
          simp only [List.nodup_cons, List.mem_cons] at apart
          tauto
        unfold Record.idCondition Record.table
        rw [table]
        exact frees_of_deleted_row numbers relates (.inl kind) named differ keyed present holds only
          number _
  · obtain ⟨_, _, found, failed⟩ := Action.runOn_bind_eq_ok.mp released
    cases failed

omit between links filled in
private theorem releases_of_hasAndBelongsToMany (kind : keys.kind = .hasAndBelongsToMany)
    {join : String}
    (named : keys.through = some join) (apart : join ≠ l.source.table ∧ join ≠ l.target.table)
    (sourceId : keys.sourceId = l.source.model.primaryKey)
    (targetId : keys.targetId = l.target.model.primaryKey) :
    Releases engine (l.loaded registry) keys held l l' := by
  unfold release RelationKeys.throughTable at released
  rw [Action.runOn_bind_ok (Action.runOn_get l), kind] at released
  simp only [named] at released
  rw [Action.runOn_bind_ok (Action.runOn_ofExcept _ l), Record.keyValue_primaryKey sourceId,
    Record.keyValue_primaryKey targetId] at released
  obtain ⟨response, l₁, deleted, returned⟩ := Action.runOn_bind_eq_ok.mp released
  cases returned
  obtain ⟨executed, same⟩ := onConnection_eq_ok deleted
  refine .frees ?_ ?_ ?_
  · rw [same]
    exact ⟨rfl, rfl, rfl, rfl⟩
  · rw [Idle, kind]
    exact not_false
  · have effect := law.executed _ _ response _ executed
    generalize held l'.connection = db' at effect ⊢
    cases effect
    exact frees_of_deleted_pair numbers relates (.inr kind) named apart _

include persisted persisted'

/-- Releasing two linked records takes their link away, whatever their relation, unless it has
nothing to send. -/
theorem releases_of_release : Releases engine (l.loaded registry) keys held l l' := by
  cases relates.fits with
  | belongsTo kind referenced =>
      exact releases_of_belongsTo law numbers relates persisted links filled released kind
        referenced
  | hasMany kind referenced =>
      exact releases_of_hasMany law numbers relates persisted' links filled released kind referenced
  | hasOneThrough kind through named apart sourceId targetId =>
      exact releases_of_hasOneThrough law numbers relates persisted' links filled released between
        kind named apart sourceId targetId
  | hasManyThrough kind through named apart sourceId targetId =>
      exact releases_of_hasManyThrough law numbers relates links filled released between kind named
        apart sourceId targetId
  | hasAndBelongsToMany kind join named apart sourceId targetId =>
      exact releases_of_hasAndBelongsToMany law numbers relates released kind named apart sourceId
        targetId

end

/-! ## Unlinking -/

section

variable {registry : Registry} {l l' : Linking σ}

/-- What unlinking does before it takes a link away, and whether it takes one away. -/
theorem disconnect_eq_ok (ran : (disconnect registry).runOn l = (.ok (), l')) :
    0 < l.source.id ∧ 0 < l.target.id ∧ ∃ keys asked counted n,
      (onConnection (l.source.complementaryKeys registry l.target)).runOn l = (.ok keys, asked) ∧
      (count true).runOn asked = (.ok n, counted) ∧
      (n = 0 ∧ l' = counted ∨ n ≠ 0 ∧ (release registry keys).runOn counted = (.ok (), l')) := by
  have saved {r : Record} {outcome : Unit} {l₁ : Linking σ}
      (ran : (Action.ofExcept r.requirePersisted).runOn l = (.ok outcome, l₁)) :
      0 < r.id ∧ l₁ = l := by
    obtain ⟨persisted, rfl⟩ := Prod.mk.inj ((Action.runOn_ofExcept _ _).symm.trans ran)
    cases positive : r.isPersisted with
    | true => exact ⟨of_decide_eq_true positive, rfl⟩
    | false =>
        rw [Record.requirePersisted, positive] at persisted
        cases persisted
  unfold disconnect at ran
  rw [Action.runOn_bind_ok (Action.runOn_get l)] at ran
  obtain ⟨_, l₁, first, ran⟩ := Action.runOn_bind_eq_ok.mp ran
  obtain ⟨persisted, rfl⟩ := saved first
  obtain ⟨_, l₂, second, ran⟩ := Action.runOn_bind_eq_ok.mp ran
  obtain ⟨persisted', rfl⟩ := saved second
  obtain ⟨keys, asked, resolved, ran⟩ := Action.runOn_bind_eq_ok.mp ran
  obtain ⟨n, counted, number, ran⟩ := Action.runOn_bind_eq_ok.mp ran
  refine ⟨persisted, persisted', keys, asked, counted, n, resolved, number, ?_⟩
  split at ran
  · rename_i none
    cases ran
    exact .inl ⟨beq_iff_eq.mp none, rfl⟩
  · rename_i some'
    exact .inr ⟨fun none => some' (beq_iff_eq.mpr none), ran⟩

end

section

variable {engine : Engine} {output : Output} {key : String → String} {held : σ → Database}
  (law : Connection.Executes σ engine output key held) (numbers : engine.ComparesNumbers)
  {registry : Registry} {kind : RelationKind} {keys : RelationKeys} {l l' : Linking σ}

include law in
private theorem loaded_of_schema
    (schema : Connection.schema l'.connection = Connection.schema l.connection) :
    l'.loaded registry = l.loaded registry :=
  funext fun table => Registry.readsOnly_load law registry table schema

section

variable (only : l.source.model.onlyKind l.target.table = .ok kind)
  (named : l.source.model.relationKeys kind l.target.table = .ok keys)
  (unlinked : (unlink registry).runOn l = (.ok (), l'))

include law only named unlinked

/-- Unlinking counts the links between two records, and releases them if there are any. -/
theorem released_of_unlink :
    0 < l.source.id ∧ 0 < l.target.id ∧ ∃ rows c,
      Record.linkingRows engine (held l.connection) l.source l.target keys = .ok rows ∧
      rows.length < 2 ^ 63 ∧ held c = held l.connection ∧
      Connection.schema c = Connection.schema l.connection ∧
      (rows = [] ∧ l' = { l with connection := c } ∨
        rows ≠ [] ∧ (release registry keys).runOn { l with connection := c } = (.ok (), l')) := by
  obtain ⟨persisted, persisted', keys', asked, counted, n, resolved, ran, rest⟩ :=
    disconnect_eq_ok (remembering_eq_ok_iff.mp unlinked)
  obtain ⟨resolved', same⟩ := onConnection_eq_ok resolved
  obtain ⟨kind', only', named'⟩ := Record.complementaryKeys_eq_ok resolved'
  obtain rfl := Except.ok.inj (only.symm.trans only')
  obtain rfl := Except.ok.inj (named.symm.trans named')
  have kept := keeps_complementaryKeys law.tableExists law.columnsOfTable registry l.source
    l.target l.connection
  have schema := keeps_complementaryKeys law.schema_tableExists law.schema_columnsOfTable registry
    l.source l.target l.connection
  rw [resolved'] at kept schema
  rw [same] at ran
  obtain ⟨query, compiled, number, small, kept', schema', same'⟩ :=
    counts_of_count law (l := { l with connection := asked.connection }) only named ran
  dsimp only at number small kept' schema' same'
  rw [kept] at number small
  rw [same'] at rest
  refine ⟨persisted, persisted', query.reads engine (held l.connection), counted.connection,
    bind_eq_ok.mpr ⟨query, compiled, rfl⟩, small, kept'.trans kept, schema'.trans schema, ?_⟩
  rcases rest with ⟨rfl, rfl⟩ | ⟨some', released⟩
  · exact .inl ⟨List.eq_nil_of_length_eq_zero number.symm, rfl⟩
  · refine .inr ⟨fun none => some' ?_, released⟩
    rw [none] at number
    exact UInt64.toNat_inj.mp number

variable (relates : (held l.connection).Relates keys l.source.model l.target.model)
  (between : Between (l.loaded registry) keys (held l.connection))

include numbers relates between

private theorem unlinked_iff_of_unlink : l.Same l' ∧ ∃ rows rows',
    Record.linkingRows engine (held l.connection) l.source l.target keys = .ok rows ∧
    Record.linkingRows engine (held l'.connection) l.source l.target keys = .ok rows' ∧
    rows'.length < 2 ^ 63 ∧
    (rows' = [] ↔
      rows = [] ∨ ¬Idle (l.loaded registry) keys (held l.connection) l.source l.target) ∧
    (held l.connection).Spares (l.Holding keys (held l.connection)) (held l'.connection) ∧
    ∀ part, part.1 = l.source.table ∨ part.1 = l.target.table →
      ((held l.connection).row? part).isSome → ((held l'.connection).row? part).isSome := by
  obtain ⟨persisted, persisted', rows, c, links, small, kept, schema, rest⟩ :=
    released_of_unlink law only named unlinked
  rcases rest with ⟨rfl, rfl⟩ | ⟨filled, released⟩
  · refine ⟨⟨rfl, rfl, rfl, rfl⟩, [], [], links, ?_, small, by simp, ?_, ?_⟩ <;> rw [kept]
    · exact links
    · exact .refl _
    · exact fun _ _ present => present
  · have loads : loaded registry { l with connection := c } = l.loaded registry :=
      loaded_of_schema law schema
    rw [← kept] at relates between links
    rw [← loads] at between
    have releases := releases_of_release law numbers (l := { l with connection := c }) relates
      persisted persisted' links filled released between
    rw [loads] at releases
    cases releases with
    | idle same idle kept' =>
        rw [kept] at links idle kept'
        refine ⟨⟨same.1, same.2, same.3, same.4⟩, rows, rows, links, ?_, small, ?_, ?_, ?_⟩
        · rw [kept']
          exact links
        · exact ⟨.inl, fun outcome => outcome.elim id fun busy => absurd idle busy⟩
        · rw [kept']
          exact .refl _
        · rw [kept']
          exact fun _ _ present => present
    | frees same busy frees =>
        rw [kept] at links busy frees
        exact ⟨⟨same.1, same.2, same.3, same.4⟩, rows, [], links, frees.unlinked, by decide,
          by simp [busy], frees.spares, frees.stays⟩

end

end

/-! ## In the shop -/

open Example

private theorem relates_purchase :
    Shop.rows.Relates Shop.customerKeys (Shop.model "purchase") (Shop.model "customer") where
  fits := .belongsTo rfl (by decide +kernel)
  refers := by
    rw [show Shop.customerKeys.foreignKeys (Shop.model "purchase").table
      (Shop.model "customer").table = [("purchase", "customer_id")] by decide +kernel]
    exact List.forall_mem_singleton.mpr (.of_rows (by decide +kernel))
  through := nofun
  target := .of_rows (by decide +kernel) (by decide +kernel)
  source := .of_rows (by decide +kernel) (by decide +kernel)

end Linking

end RecordMapper
