import RecordMapper.Proofs.Record.Counted
import RecordMapper.Proofs.Record.Linking

/-!
Writing the keys that link two records. Each kind of relation writes them into other rows, and the
rows that are counted as links read them back.
-/

set_option autoImplicit false

namespace RecordMapper

/-! ## The rows that link two records -/

/-- The columns of a table in which linking two records writes keys into rows that are there. -/
def RelationKeys.columns (keys : RelationKeys) (source target table : String) : List String :=
  match keys.kind with
  | .belongsTo => if table = source then [keys.foreignKey] else []
  | .hasOne | .hasMany => if table = target then [keys.foreignKey] else []
  | .hasOneThrough =>
    if table = target then [keys.targetKey]
    else if keys.through = some table then [keys.sourceKey] else []
  | .hasManyThrough => if keys.through = some table then [keys.sourceKey, keys.targetKey] else []
  | .hasAndBelongsToMany => []

/-- The keys of a relation that refers to rows by their primary keys. The rows of a third table, if
it goes by way of one, hold two keys that are not to be taken for each other. -/
inductive RelationKeys.Fits (keys : RelationKeys) (source target : Model) : Prop where
  | belongsTo (kind : keys.kind = .belongsTo) (referenced : keys.referencedKey = target.primaryKey)
  | hasMany (kind : keys.kind = .hasOne ∨ keys.kind = .hasMany)
      (referenced : keys.referencedKey = source.primaryKey)
  | hasOneThrough (kind : keys.kind = .hasOneThrough) (through : String)
      (named : keys.through = some through)
      (apart : [source.table, through, target.table].Nodup)
      (sourceId : keys.sourceId = source.primaryKey) (targetId : keys.targetId = target.primaryKey)
  | hasManyThrough (kind : keys.kind = .hasManyThrough) (through : String)
      (named : keys.through = some through)
      (apart : [source.table, through, target.table].Nodup)
      (sourceId : keys.sourceId = source.primaryKey) (targetId : keys.targetId = target.primaryKey)
      (differ : keys.sourceKey ≠ keys.targetKey)
  | hasAndBelongsToMany (kind : keys.kind = .hasAndBelongsToMany) (join : String)
      (named : keys.through = some join)
      (apart : join ≠ source.table ∧ join ≠ target.table)
      (sourceId : keys.sourceId = source.primaryKey) (targetId : keys.targetId = target.primaryKey)
      (differ : keys.sourceKey ≠ keys.targetKey)

namespace Record

/-- The joined rows that a count of the links between two records reads. -/
def linkingRows (engine : Engine) (db : Database) (r other : Record) (keys : RelationKeys) :
    Except Error (List Joined) := do
  return (← r.linkQuery other keys true).reads engine db

section

variable {engine : Engine} {db : Database} {r other : Record} {keys : RelationKeys}

/-- A statement that counts links is about conditions on keys. -/
theorem linkQuery_eq_ok {exact' : Bool} {query : Select}
    (asked : r.linkQuery other keys exact' = .ok query) :
    ∃ tables conditions, (∀ e ∈ conditions, e.ComparesKeys) ∧
      query = { returning := [.count "count"], tables, filter := Expr.conjAll? conditions } := by
  have returns {tables : List String} {conditions : List Expr} {last : Expr}
      (compare : ∀ e ∈ conditions, e.ComparesKeys) (compares : last.ComparesKeys)
      (returned : (pure { returning := [.count "count"], tables
                          filter := Expr.conjAll? (conditions ++ if exact' then [last] else []) } :
        Except Error Select) = .ok query) :
      ∃ tables conditions, (∀ e ∈ conditions, e.ComparesKeys) ∧
        query = { returning := [.count "count"], tables, filter := Expr.conjAll? conditions } := by
    refine ⟨tables, _, ?_, (Except.ok.inj returned).symm⟩
    cases exact' with
    | true => exact List.forall_mem_append.mpr ⟨compare, List.forall_mem_singleton.mpr compares⟩
    | false => exact List.forall_mem_append.mpr ⟨compare, List.forall_mem_nil _⟩
  unfold linkQuery at asked
  cases kind : keys.kind with
  | belongsTo | hasOne | hasMany =>
      rw [kind] at asked
      exact returns (List.forall_mem_singleton.mpr (.value ..)) (.value ..) asked
  | hasOneThrough | hasManyThrough =>
      rw [kind] at asked
      obtain ⟨through, _, returned⟩ := bind_eq_ok.mp asked
      refine returns ?_ (.value ..) returned
      refine List.forall_mem_cons.mpr ⟨.value .., List.forall_mem_cons.mpr ⟨.column ..,
        List.forall_mem_singleton.mpr ?_⟩⟩
      unfold reachesTarget
      rw [kind]
      exact .column ..
  | hasAndBelongsToMany =>
      rw [kind] at asked
      obtain ⟨join, _, returned⟩ := bind_eq_ok.mp asked
      exact returns (List.forall_mem_singleton.mpr (.value ..)) (.value ..) returned

theorem linkQuery_counts {exact' : Bool} {query : Select}
    (asked : r.linkQuery other keys exact' = .ok query) :
    query.returning = [.count "count"] ∧ query.groupBy = [] ∧ query.window = none := by
  obtain ⟨tables, conditions, -, rfl⟩ := linkQuery_eq_ok asked
  exact ⟨rfl, rfl, rfl⟩

theorem keyValue_primaryKey {column : String} (primary : column = r.model.primaryKey) :
    r.keyValue column = .int r.id :=
  if_pos primary

theorem linkingRows_belongsTo (kind : keys.kind = .belongsTo)
    (referenced : keys.referencedKey = other.model.primaryKey) :
    linkingRows engine db r other keys = .ok (db.matching engine [r.table] (Expr.conjAll? [
      .eq (.column (.of r.table keys.foreignKey)) (.value (.int other.id)),
      .eq (.column (.of r.table r.model.primaryKey)) (.value (.int r.id))])) := by
  unfold linkingRows linkQuery
  rw [kind, keyValue_primaryKey referenced]
  rfl

theorem linkingRows_hasMany (kind : keys.kind = .hasOne ∨ keys.kind = .hasMany)
    (referenced : keys.referencedKey = r.model.primaryKey) :
    linkingRows engine db r other keys = .ok (db.matching engine [other.table] (Expr.conjAll? [
      .eq (.column (.of other.table keys.foreignKey)) (.value (.int r.id)),
      .eq (.column (.of other.table other.model.primaryKey)) (.value (.int other.id))])) := by
  unfold linkingRows linkQuery
  rw [keyValue_primaryKey referenced]
  rcases kind with kind | kind
  all_goals
    rw [kind]
    rfl

theorem linkingRows_through (kind : keys.kind = .hasOneThrough ∨ keys.kind = .hasManyThrough)
    {through : String} (named : keys.through = some through)
    (sourceId : keys.sourceId = r.model.primaryKey)
    (targetId : keys.targetId = other.model.primaryKey) :
    linkingRows engine db r other keys = .ok (db.matching engine [r.table, through, other.table]
      (Database.chained r.table through other.table r.model.primaryKey keys.sourceKey
        (reachesTarget keys through other.table) other.model.primaryKey r.id other.id)) := by
  unfold linkingRows linkQuery RelationKeys.throughTable
  rw [named, keyValue_primaryKey targetId, sourceId, targetId]
  rcases kind with kind | kind
  all_goals
    rw [kind]
    rfl

theorem linkingRows_hasAndBelongsToMany (kind : keys.kind = .hasAndBelongsToMany) {join : String}
    (named : keys.through = some join) (sourceId : keys.sourceId = r.model.primaryKey)
    (targetId : keys.targetId = other.model.primaryKey) :
    linkingRows engine db r other keys = .ok (db.matching engine [join] (Expr.conjAll? [
      .eq (.column (.of join keys.sourceKey)) (.value (.int r.id)),
      .eq (.column (.of join keys.targetKey)) (.value (.int other.id))])) := by
  unfold linkingRows linkQuery RelationKeys.throughTable
  rw [named, keyValue_primaryKey sourceId, keyValue_primaryKey targetId, kind]
  rfl

end

section

variable {key : String → String} {columns : List String} {db db' : Database} {r r' : Record}
  {place : Nat} {row : Row}

theorem Ready.row_of_persisted (ready : r.Ready key columns db) (persisted : 0 < r.id) :
    ∃ place row, db.row? (r.table, place) = some row ∧
      (row.read r.model.primaryKey).number? = some r.id := by
  cases ready.known with
  | new unsaved => exact absurd persisted unsaved
  | standing place row stands => exact ⟨place, row, stands.present, stands.number⟩

private theorem SavedAs.row_and_number (saved : r.SavedAs columns db r' db' place row) :
    db'.row? (r.table, place) = some row ∧
      (row.read r.model.primaryKey).number? = some r'.id := by
  refine ⟨saved.put.present, ?_⟩
  rw [← saved.model]
  exact saved.stands.number

end

end Record

/-! ## Counting links -/

section

variable {σ : Type} [Connection σ] {engine : Engine} {output : Output} {key : String → String}
  {held : σ → Database} (law : Connection.Executes σ engine output key held)
  {kind : RelationKind} {keys : RelationKeys} {l l' : Linking σ}

include law in
theorem Linking.counts_of_count (only : l.source.model.onlyKind l.target.table = .ok kind)
    (named : l.source.model.relationKeys kind l.target.table = .ok keys) {exact' : Bool} {n : UInt64}
    (ran : (count exact').runOn l = (.ok n, l')) :
    ∃ query, l.source.linkQuery l.target keys exact' = .ok query ∧
      n.toNat = (query.reads engine (held l.connection)).length ∧
      (query.reads engine (held l.connection)).length < 2 ^ 63 ∧
      held l'.connection = held l.connection ∧
      Connection.schema l'.connection = Connection.schema l.connection ∧
      l' = { l with connection := l'.connection } := by
  have schema : Connection.schema l'.connection = Connection.schema l.connection := by
    have kept := keeps_count law.schema_run exact' l
    rw [ran] at kept
    exact kept
  obtain ⟨kind', keys', query, only', named', asked, counted, same⟩ := count_eq_ok ran
  obtain rfl := Except.ok.inj (only.symm.trans only')
  obtain rfl := Except.ok.inj (named.symm.trans named')
  obtain ⟨counts, ungrouped, whole⟩ := Record.linkQuery_counts asked
  obtain ⟨number, small, kept⟩ := law.toAnswers.runCount counts ungrouped whole counted
  exact ⟨query, asked, number, small, kept, schema, same⟩

include law in
/-- The links between two records are counted by one statement. -/
theorem Record.countLinks_of_linkingRows {r other : Record} {c : σ}
    (only : r.model.onlyKind other.table = .ok kind)
    (named : r.model.relationKeys kind other.table = .ok keys) {rows : List Joined}
    (linked : linkingRows engine (held c) r other keys = .ok rows) (small : rows.length < 2 ^ 63) :
    ∃ query n c', query.returning = [.count "count"] ∧
      (r.countLinks other true : Action σ UInt64).runOn c = (Connection.runCount query).runOn c ∧
      (Connection.runCount query).runOn c = (.ok n, c') ∧ n.toNat = rows.length ∧
      held c' = held c := by
  obtain ⟨query, asked, returned⟩ := bind_eq_ok.mp linked
  obtain rfl := Except.ok.inj returned
  obtain ⟨counts, ungrouped, whole⟩ := linkQuery_counts asked
  obtain ⟨n, c', counted⟩ := law.exists_runCount counts ungrouped whole small
  obtain ⟨number, -, kept⟩ := law.toAnswers.runCount counts ungrouped whole counted
  exact ⟨query, n, c', counts, runOn_countLinks only named asked c, counted, number, kept⟩

end

/-! ## What linking relies on -/

namespace Linking

variable {σ : Type} [Connection σ]

inductive Takes (registry : Registry) (keys : RelationKeys) (l : Linking σ) (r : Record) : Prop where
  | given (given : l.middle = some r)
  | made (through : String) (named : keys.through = some through) (missing : l.middle = none)
      (made : ((registry.create through).runOn l.connection).1 = .ok r)

/-- What linking two records by the keys of a relation relies on. Their tables, and that of the
record between them, are read as their models say. -/
structure Prepared (registry : Registry) (key : String → String)
    (view : String → String → Value → Value) (keys : RelationKeys) (db : Database)
    (l : Linking σ) : Prop where
  apart : l.source.table ≠ l.target.table
  fits : keys.Fits l.source.model l.target.model
  source : l.source.Ready key (keys.columns l.source.table l.target.table l.source.table) db
  target : l.target.Ready key (keys.columns l.source.table l.target.table l.target.table) db
  viewSource : view l.source.table = l.source.model.reading
  viewTarget : view l.target.table = l.target.model.reading
  between : keys.kind = .hasOneThrough ∨ keys.kind = .hasManyThrough →
    ∀ r, l.Takes registry keys r → keys.through = some r.table ∧
      (keys.kind = .hasOneThrough → r.model.primaryKey = keys.throughId) ∧
      r.Ready key (keys.columns l.source.table l.target.table r.table) db ∧
      view r.table = r.model.reading

/-- What linking leaves: the two records are saved and linked, and all rows that were there read as
they did outside of the keys of the relation. -/
structure Links (engine : Engine) (view : String → String → Value → Value) (keys : RelationKeys)
    (l : Linking σ) (db : Database) (l' : Linking σ) (db' : Database) : Prop where
  source : l'.source.model = l.source.model
  target : l'.target.model = l.target.model
  persisted : 0 < l'.source.id ∧ 0 < l'.target.id
  reads : db.ReadsAs view (keys.columns l.source.table l.target.table) db'
  linked : ∃ rows, Record.linkingRows engine db' l'.source l'.target keys = .ok rows ∧
    0 < rows.length ∧ rows.length < 2 ^ 63

section

variable {engine : Engine} {output : Output} {key : String → String} {held : σ → Database}
  (law : Connection.Executes σ engine output key held) (numbers : engine.ComparesNumbers)
  {registry : Registry} {view : String → String → Value → Value} {keys : RelationKeys}
  {l l' : Linking σ} (prepared : l.Prepared registry key view keys (held l.connection))
  (established : (establish registry keys).runOn l = (.ok (), l'))

include law in
theorem takes_of_onMiddle {α : Type} {action : Action (Record × σ) α} {a : α} {through : String}
    (named : keys.through = some through)
    (ran : (onMiddle registry through action).runOn l = (.ok a, l')) :
    ∃ middle between middle', l.Takes registry keys middle ∧ held between = held l.connection ∧
      action.runOn (middle, between) = (.ok a, (middle', l'.connection)) ∧
      l' = { l with middle := some middle', connection := l'.connection } := by
  obtain ⟨middle, between, middle', ⟨given, rfl⟩ | ⟨missing, made⟩, acted, same⟩ :=
    onMiddle_eq_ok ran
  · exact ⟨middle, _, middle', .given given, rfl, acted, same⟩
  · have kept : (registry.create through : Action σ Record).Keeps held :=
      .bind (Registry.keeps_load law.tableExists law.columnsOfTable registry through) fun _ =>
        .pure _
    have kept := kept l.connection
    rw [made] at kept
    exact ⟨middle, between, middle', .made through named missing (by rw [made]), kept, acted, same⟩

section

include law established

private theorem stores_of_hasOneThrough (kind : keys.kind = .hasOneThrough) {through : String}
    (named : keys.through = some through) :
    ∃ middle between middle' c, l.Takes registry keys middle ∧ held between = held l.connection ∧
      (store keys.sourceKey (l.source.keyValue keys.sourceId)).runOn (middle, between) =
        (.ok (), (middle', c)) ∧
      (store keys.targetKey (middle'.keyValue keys.throughId)).runOn (l.target, c) =
        (.ok (), (l'.target, l'.connection)) ∧
      l'.source = l.source := by
  unfold establish RelationKeys.throughTable at established
  rw [Action.runOn_bind_ok (Action.runOn_get l), kind] at established
  simp only [named] at established
  rw [Action.runOn_bind_ok (Action.runOn_ofExcept _ l)] at established
  obtain ⟨found, l₁, first, rest⟩ := Action.runOn_bind_eq_ok.mp established
  obtain ⟨middle, between, middle', takes, kept, acted, same⟩ := takes_of_onMiddle law named first
  obtain ⟨_, ⟨middle₁, c₁⟩, stored, returned⟩ := Action.runOn_bind_eq_ok.mp acted
  rw [Action.runOn_bind_ok (Action.runOn_get (middle₁, c₁))] at returned
  obtain ⟨key', states⟩ := Prod.mk.inj returned
  obtain ⟨rfl, rfl⟩ := Prod.mk.inj states
  obtain rfl := Except.ok.inj key'
  obtain ⟨stored', same'⟩ := onSide_eq_ok .target rest
  refine ⟨middle, between, middle₁, l₁.connection, takes, kept, stored, ?_, ?_⟩
  · rw [show l.target = l₁.target by rw [same]]
    exact stored'
  · rw [same', same]

private theorem stores_of_hasManyThrough (kind : keys.kind = .hasManyThrough) {through : String}
    (named : keys.through = some through) :
    ∃ middle between set middle', l.Takes registry keys middle ∧
      held between = held l.connection ∧
      middle.assigned keys.sourceKey (l.source.keyValue keys.sourceId) = .ok set ∧
      (store keys.targetKey (l.target.keyValue keys.targetId)).runOn (set, between) =
        (.ok (), (middle', l'.connection)) ∧
      l'.source = l.source ∧ l'.target = l.target := by
  unfold establish RelationKeys.throughTable at established
  rw [Action.runOn_bind_ok (Action.runOn_get l), kind] at established
  simp only [named] at established
  rw [Action.runOn_bind_ok (Action.runOn_ofExcept _ l)] at established
  obtain ⟨middle, between, middle', takes, kept, acted, same⟩ :=
    takes_of_onMiddle law named established
  obtain ⟨_, ⟨set, c⟩, first, rest⟩ := Action.runOn_bind_eq_ok.mp acted
  obtain ⟨assigned, rfl⟩ := Record.assigned_of_setColumn first
  exact ⟨middle, c, set, middle', takes, kept, assigned, rest, by rw [same], by rw [same]⟩

omit law in
private theorem inserts_of_hasAndBelongsToMany (kind : keys.kind = .hasAndBelongsToMany)
    {join : String}
    (named : keys.through = some join) :
    ∃ response, (Connection.run (.insert {
        table := join
        columns := [(keys.sourceKey, l.source.keyValue keys.sourceId),
          (keys.targetKey, l.target.keyValue keys.targetId)] })).runOn l.connection =
        (.ok response, l'.connection) ∧
      l'.source = l.source ∧ l'.target = l.target := by
  unfold establish RelationKeys.throughTable at established
  rw [Action.runOn_bind_ok (Action.runOn_get l), kind] at established
  simp only [named] at established
  rw [Action.runOn_bind_ok (Action.runOn_ofExcept _ l)] at established
  obtain ⟨response, l₁, ran, returned⟩ := Action.runOn_bind_eq_ok.mp established
  cases returned
  obtain ⟨executed, same⟩ := onConnection_eq_ok ran
  exact ⟨response, executed, by rw [same], by rw [same]⟩

end

include law numbers prepared established

private theorem links_of_belongsTo (persisted' : 0 < l.target.id) (kind : keys.kind = .belongsTo)
    (referenced : keys.referencedKey = l.target.model.primaryKey) :
    Links engine view keys l (held l.connection) l' (held l'.connection) := by
  unfold establish at established
  rw [Action.runOn_bind_ok (Action.runOn_get l), kind] at established
  obtain ⟨stored, same⟩ := onSide_eq_ok .source established
  rw [Record.keyValue_primaryKey referenced] at stored
  have member : keys.foreignKey ∈
      keys.columns l.source.table l.target.table l.source.table := by
    simp [RelationKeys.columns, kind]
  obtain ⟨place, row, saved, holds, -⟩ :=
    Record.savedAs_of_store law numbers prepared.source member stored
  have target : l'.target = l.target := by rw [same]
  refine ⟨saved.model, by rw [target], ⟨saved.stands.positive, target ▸ persisted'⟩,
    saved.readsAs prepared.viewSource (List.Subset.refl _), ?_⟩
  rw [← target] at referenced holds
  refine ⟨_, Record.linkingRows_belongsTo kind referenced, ?_⟩
  rw [Database.length_matching_held numbers (saved.ready prepared.source).keyed
    saved.stands.present saved.stands.number holds]
  decide

private theorem links_of_hasMany (persisted : 0 < l.source.id)
    (kind : keys.kind = .hasOne ∨ keys.kind = .hasMany)
    (referenced : keys.referencedKey = l.source.model.primaryKey) :
    Links engine view keys l (held l.connection) l' (held l'.connection) := by
  have stores : (onTarget (store keys.foreignKey (l.source.keyValue keys.referencedKey))).runOn l =
      (.ok (), l') := by
    unfold establish at established
    rw [Action.runOn_bind_ok (Action.runOn_get l)] at established
    rcases kind with kind | kind
    all_goals
      rw [kind] at established
      exact established
  obtain ⟨stored, same⟩ := onSide_eq_ok .target stores
  rw [Record.keyValue_primaryKey referenced] at stored
  have member : keys.foreignKey ∈
      keys.columns l.source.table l.target.table l.target.table := by
    rcases kind with kind | kind
    all_goals simp [RelationKeys.columns, kind]
  obtain ⟨place, row, saved, holds, -⟩ :=
    Record.savedAs_of_store law numbers prepared.target member stored
  have source : l'.source = l.source := by rw [same]
  refine ⟨by rw [source], saved.model, ⟨source ▸ persisted, saved.stands.positive⟩,
    saved.readsAs prepared.viewTarget (List.Subset.refl _), ?_⟩
  rw [← source] at referenced holds
  refine ⟨_, Record.linkingRows_hasMany kind referenced, ?_⟩
  rw [Database.length_matching_held numbers (saved.ready prepared.target).keyed
    saved.stands.present saved.stands.number holds]
  decide

private theorem links_of_hasOneThrough (persisted : 0 < l.source.id)
    (kind : keys.kind = .hasOneThrough)
    {through : String} (named : keys.through = some through)
    (apart : [l.source.table, through, l.target.table].Nodup)
    (sourceId : keys.sourceId = l.source.model.primaryKey)
    (targetId : keys.targetId = l.target.model.primaryKey) :
    Links engine view keys l (held l.connection) l' (held l'.connection) := by
  obtain ⟨middle, between, middle', c, takes, kept, stored, stored', source⟩ :=
    stores_of_hasOneThrough law established kind named
  obtain ⟨table, primary, ready, views⟩ := prepared.between (.inl kind) middle takes
  obtain rfl : through = middle.table := Option.some.inj (named.symm.trans table)
  have differ : middle.table ≠ l.target.table ∧ l.source.table ≠ middle.table := by
    simp only [List.nodup_cons, List.mem_cons] at apart
    tauto
  have member : keys.sourceKey ∈
      keys.columns l.source.table l.target.table middle.table := by
    simp [RelationKeys.columns, kind, named, differ.1]
  have member' : keys.targetKey ∈
      keys.columns l.source.table l.target.table l.target.table := by
    simp [RelationKeys.columns, kind]
  rw [Record.keyValue_primaryKey sourceId] at stored
  rw [← kept] at ready
  obtain ⟨place, row, saved, holds, -⟩ :=
    Record.savedAs_of_store law numbers ready member stored
  have ready' := saved.ready ready
  rw [kept] at saved
  have primary' : keys.throughId = middle'.model.primaryKey := by
    rw [saved.model]
    exact (primary kind).symm
  have target := prepared.target.puts_elsewhere saved.put differ.1
  rw [Record.keyValue_primaryKey primary'] at stored'
  obtain ⟨place', row', saved', holds', -⟩ :=
    Record.savedAs_of_store law numbers target member' stored'
  obtain ⟨place₀, row₀, present, number⟩ := prepared.source.row_of_persisted persisted
  have linked : Record.linkingRows engine (held l'.connection) l.source l'.target keys = _ :=
    Record.linkingRows_through (.inl kind) named sourceId (by rw [saved'.model]; exact targetId)
  rw [show l'.target.table = l.target.table from congrArg Model.table saved'.model, saved'.model,
    Record.reachesTarget, kind, primary', saved.model] at linked
  refine ⟨by rw [source], saved'.model, ⟨source ▸ persisted, saved'.stands.positive⟩, ?_, ?_⟩
  · exact Database.ReadsAs.trans (saved.readsAs views (List.Subset.refl _))
      (saved'.readsAs prepared.viewTarget (List.Subset.refl _))
  · rw [source]
    refine ⟨_, linked, ?_⟩
    rw [Database.length_matching_chained_of_held numbers apart
      ((prepared.source.keyed.puts_elsewhere saved.put differ.2.symm).puts_elsewhere saved'.put
        prepared.apart.symm)
      saved'.keyed (saved.keyed.puts_elsewhere saved'.put differ.1.symm)
      ((saved'.put.other_table prepared.apart).trans
        ((saved.put.other_table differ.2).trans present))
      ((saved'.put.other_table differ.1).trans saved.put.present) saved'.put.present number
      saved'.row_and_number.2 holds saved.row_and_number.2 holds']
    decide

private theorem links_of_hasManyThrough (persisted : 0 < l.source.id) (persisted' : 0 < l.target.id)
    (kind : keys.kind = .hasManyThrough) {through : String} (named : keys.through = some through)
    (apart : [l.source.table, through, l.target.table].Nodup)
    (sourceId : keys.sourceId = l.source.model.primaryKey)
    (targetId : keys.targetId = l.target.model.primaryKey)
    (differ : keys.sourceKey ≠ keys.targetKey)
    (unlinked : Record.linkingRows engine (held l.connection) l.source l.target keys = .ok []) :
    Links engine view keys l (held l.connection) l' (held l'.connection) := by
  obtain ⟨middle, between, set, middle', takes, kept, assigned, stored, source, target⟩ :=
    stores_of_hasManyThrough law established kind named
  obtain ⟨table, -, ready, views⟩ := prepared.between (.inr kind) middle takes
  obtain rfl : through = middle.table := Option.some.inj (named.symm.trans table)
  have columns : keys.columns l.source.table l.target.table middle.table =
      [keys.sourceKey, keys.targetKey] := by
    simp [RelationKeys.columns, kind, named]
  rw [Record.keyValue_primaryKey sourceId] at assigned
  rw [Record.keyValue_primaryKey targetId] at stored
  rw [← kept] at ready
  obtain ⟨ready', model, given, -⟩ :=
    ready.assigned (by rw [columns]; exact List.mem_cons_self) assigned
  obtain ⟨place, row, saved, holds', others⟩ := Record.savedAs_of_store law numbers ready'
    (by rw [columns]; exact List.mem_cons_of_mem _ List.mem_cons_self) stored
  have saved := saved.of_model model
  have holds := others keys.sourceKey (by rw [columns]; exact List.mem_cons_self) differ _ given
  rw [kept] at saved
  obtain ⟨place₁, row₁, present, number⟩ := prepared.source.row_of_persisted persisted
  obtain ⟨place₃, row₃, present', number'⟩ := prepared.target.row_of_persisted persisted'
  have linking (db : Database) : Record.linkingRows engine db l.source l.target keys = _ :=
    Record.linkingRows_through (.inr kind) named sourceId targetId
  have unlinked' := linking (held l.connection)
  have linked := linking (held l'.connection)
  rw [Record.reachesTarget, kind, targetId] at unlinked' linked
  refine ⟨by rw [source], by rw [target], ⟨source ▸ persisted, target ▸ persisted'⟩,
    saved.readsAs views (List.Subset.refl _), ?_⟩
  rw [source, target]
  refine ⟨_, linked, ?_⟩
  rw [Database.length_matching_chained_of_put numbers apart prepared.source.keyed
    prepared.target.keyed saved.put present present' number number' holds holds'
    (Except.ok.inj (unlinked'.symm.trans unlinked))]
  decide

omit prepared in
private theorem links_of_hasAndBelongsToMany (persisted : 0 < l.source.id)
    (persisted' : 0 < l.target.id)
    (kind : keys.kind = .hasAndBelongsToMany) {join : String} (named : keys.through = some join)
    (sourceId : keys.sourceId = l.source.model.primaryKey)
    (targetId : keys.targetId = l.target.model.primaryKey)
    (unlinked : Record.linkingRows engine (held l.connection) l.source l.target keys = .ok []) :
    Links engine view keys l (held l.connection) l' (held l'.connection) := by
  obtain ⟨response, ran, source, target⟩ :=
    inserts_of_hasAndBelongsToMany established kind named
  rw [Record.keyValue_primaryKey sourceId, Record.keyValue_primaryKey targetId] at ran
  have effect := law.executed _ _ response _ ran
  have linking (db : Database) : Record.linkingRows engine db l.source l.target keys = _ :=
    Record.linkingRows_hasAndBelongsToMany kind named sourceId targetId
  have unlinked' := linking (held l.connection)
  have linked := linking (held l'.connection)
  generalize held l'.connection = db' at effect linked ⊢
  cases effect with
  | insert _ _ row given =>
      have put := Database.puts_appended (held l.connection) join row
      have read {column : String} {n : Int64}
          (member : (column, Value.int n) ∈ [(keys.sourceKey, Value.int l.source.id),
            (keys.targetKey, Value.int l.target.id)]) : (row.read column).number? = some n := by
        rw [given column _ member (.inr (by rintro ⟨⟩))]
        rfl
      refine ⟨by rw [source], by rw [target], ⟨source ▸ persisted, target ▸ persisted'⟩, ?_, ?_⟩
      · refine put.readsAs fun present => ?_
        rw [show (held l.connection).row? (join, ((held l.connection).rows join).length) = none from
          List.getElem?_eq_none (le_refl _)] at present
        cases present
      · rw [source, target]
        refine ⟨_, linked, ?_⟩
        rw [Database.length_matching_put numbers put (read List.mem_cons_self)
          (read (List.mem_cons_of_mem _ List.mem_cons_self))
          (Except.ok.inj (unlinked'.symm.trans unlinked))]
        decide

/-- Whatever the relation, its keys link the records once they are written. -/
theorem links_of_establish (persisted : 0 < l.source.id) (persisted' : 0 < l.target.id)
    (unlinked : Record.linkingRows engine (held l.connection) l.source l.target keys = .ok []) :
    Links engine view keys l (held l.connection) l' (held l'.connection) := by
  cases prepared.fits with
  | belongsTo kind referenced =>
      exact links_of_belongsTo law numbers prepared established persisted' kind referenced
  | hasMany kind referenced =>
      exact links_of_hasMany law numbers prepared established persisted kind referenced
  | hasOneThrough kind through named apart sourceId targetId =>
      exact links_of_hasOneThrough law numbers prepared established persisted kind named apart
        sourceId targetId
  | hasManyThrough kind through named apart sourceId targetId differ =>
      exact links_of_hasManyThrough law numbers prepared established persisted persisted' kind
        named apart sourceId targetId differ unlinked
  | hasAndBelongsToMany kind join named apart sourceId targetId differ =>
      exact links_of_hasAndBelongsToMany law numbers established persisted persisted' kind named
        sourceId targetId unlinked

end

end Linking

end RecordMapper
