import RecordMapper.Example.Store
import RecordMapper.Proofs.Record.Linked

/-!
Linking two records. Whatever their relation, a link that succeeds is counted afterwards, all rows
that were there read as before outside of the keys of the relation, and linking once more counts the
link and sends nothing else.
-/

set_option autoImplicit false

namespace RecordMapper.Linking

variable {σ : Type} [Connection σ]

/-! ## What comes before the keys are written -/

section

variable {registry : Registry} {key : String → String} {view : String → String → Value → Value}
  {keys : RelationKeys} {db db' : Database} {l : Linking σ}

theorem Prepared.ready (prepared : l.Prepared registry key view keys db) (side : Side) :
    (l.record side).Ready key (keys.columns l.source.table l.target.table (l.record side).table)
      db := by
  cases side with
  | source => exact prepared.source
  | target => exact prepared.target

private theorem Prepared.views (prepared : l.Prepared registry key view keys db) (side : Side) :
    view (l.record side).table = (l.record side).model.reading := by
  cases side with
  | source => exact prepared.viewSource
  | target => exact prepared.viewTarget

private theorem Prepared.apart_other (prepared : l.Prepared registry key view keys db)
    (side : Side) :
    (l.record side.other).table ≠ (l.record side).table := by
  cases side with
  | source => exact prepared.apart.symm
  | target => exact prepared.apart

/-- What linking relies on is told by the models of the two records, and their rows. -/
theorem Prepared.of_models {l' : Linking σ} (prepared : l.Prepared registry key view keys db)
    (models : ∀ side, (l'.record side).model = (l.record side).model)
    (ready : ∀ side, (l'.record side).Ready key
      (keys.columns l.source.table l.target.table (l.record side).table) db')
    (between : ∀ r, l'.Takes registry keys r → l.Takes registry keys r)
    (kept : keys.kind = .hasOneThrough ∨ keys.kind = .hasManyThrough →
      ∀ r, l.Takes registry keys r →
        r.Ready key (keys.columns l.source.table l.target.table r.table) db') :
    l'.Prepared registry key view keys db' := by
  have source : l'.source.table = l.source.table := congrArg Model.table (models .source)
  have target : l'.target.table = l.target.table := congrArg Model.table (models .target)
  have sourceModel : l'.source.model = l.source.model := models .source
  have targetModel : l'.target.model = l.target.model := models .target
  refine ⟨?_, ?_, ?_, ?_, ?_, ?_, ?_⟩
  · rw [source, target]
    exact prepared.apart
  · rw [sourceModel, targetModel]
    exact prepared.fits
  · rw [source, target]
    exact ready .source
  · rw [source, target]
    exact ready .target
  · rw [source, sourceModel]
    exact prepared.viewSource
  · rw [target, targetModel]
    exact prepared.viewTarget
  · intro kind r takes
    obtain ⟨named, primary, -, views⟩ := prepared.between kind r (between r takes)
    rw [source, target]
    exact ⟨named, primary, kept kind r (between r takes), views⟩

private theorem Prepared.apart_of_takes (prepared : l.Prepared registry key view keys db)
    (kind : keys.kind = .hasOneThrough ∨ keys.kind = .hasManyThrough) {r : Record}
    (takes : l.Takes registry keys r) (side : Side) : r.table ≠ (l.record side).table := by
  have table := (prepared.between kind r takes).1
  have outside {through : String} (named : keys.through = some through)
      (apart : [l.source.model.table, through, l.target.model.table].Nodup) :
      r.table ≠ (l.record side).table := by
    obtain rfl : through = r.table := Option.some.inj (named.symm.trans table)
    simp only [List.nodup_cons, List.mem_cons] at apart
    unfold Record.table at *
    cases side <;> tauto
  cases prepared.fits with
  | hasOneThrough _ through named apart => exact outside named apart
  | hasManyThrough _ through named apart => exact outside named apart
  | belongsTo kind' => simp [kind'] at kind
  | hasMany kind' => rcases kind' with kind' | kind' <;> simp [kind'] at kind
  | hasAndBelongsToMany kind' => simp [kind'] at kind

end

section

variable {engine : Engine} {output : Output} {key : String → String} {held : σ → Database}
  (law : Connection.Executes σ engine output key held) {registry : Registry}
  {view : String → String → Value → Value} {keys : RelationKeys} {l : Linking σ} {c c' : σ}

include law in
theorem Takes.of_schema {r : Record} {l' : Linking σ} (takes : l'.Takes registry keys r)
    (middle : l'.middle = l.middle)
    (schema : Connection.schema l'.connection = Connection.schema l.connection) :
    l.Takes registry keys r := by
  have reads (through : String) :
      (registry.create through : Action σ Record).ReadsOnly Connection.schema :=
    .bind (Registry.readsOnly_load law registry through)
      (Registry.keeps_load law.schema_tableExists law.schema_columnsOfTable registry through)
      fun _ => .pure _
  cases takes with
  | given given => exact .given (middle ▸ given)
  | made through named missing made =>
      exact .made through named (middle ▸ missing) ((reads through schema.symm).trans made)

variable (prepared : l.Prepared registry key view keys (held l.connection))

include law prepared

private theorem Prepared.of_connection
    (schema : Connection.schema c' = Connection.schema l.connection)
    (same : held c' = held l.connection) :
    Prepared registry key view keys (held c') { l with connection := c' } := by
  rw [same]
  exact prepared.of_models (fun _ => rfl) prepared.ready (fun _ takes => takes.of_schema law rfl schema)
    fun kind r takes => (prepared.between kind r takes).2.2.1

private theorem Prepared.of_saved (side : Side) {r' : Record} {place : Nat} {row : Row}
    (schema : Connection.schema c' = Connection.schema l.connection)
    (saved : (l.record side).SavedAs
      (keys.columns l.source.table l.target.table (l.record side).table) (held l.connection) r'
      (held c') place row) :
    Prepared registry key view keys (held c') (l.put r' c' side) := by
  refine prepared.of_models (side.forall_of ?_ ?_) (side.forall_of ?_ ?_) ?_ ?_
  · rw [record_put_self]
    exact saved.model
  · rw [record_put_other]
  · rw [record_put_self]
    exact saved.ready (prepared.ready side)
  · rw [record_put_other]
    exact (prepared.ready side.other).puts_elsewhere saved.put (prepared.apart_other side).symm
  · intro r takes
    refine takes.of_schema law (middle_put l r' c' side) ?_
    rw [connection_put]
    exact schema
  · intro kind r takes
    obtain ⟨-, -, ready, -⟩ := prepared.between kind r takes
    exact ready.puts_elsewhere saved.put (prepared.apart_of_takes kind takes side).symm

end

/-! ## Linking -/

/-- A step of linking from one state to another: it keeps the relation between the records, and all
rows that were there read as they did outside of its keys. -/
structure Leads (held : σ → Database) (view : String → String → Value → Value)
    (keys : RelationKeys) (l l' : Linking σ) : Prop where
  source : l'.source.model = l.source.model
  target : l'.target.model = l.target.model
  schema : Connection.schema l'.connection = Connection.schema l.connection
  reads : (held l.connection).ReadsAs view (keys.columns l.source.table l.target.table)
    (held l'.connection)

section

variable {engine : Engine} {held : σ → Database} {view : String → String → Value → Value}
  {kind : RelationKind} {keys : RelationKeys} {l l' l'' : Linking σ}

theorem Leads.tables (leads : Leads held view keys l l') :
    l'.source.table = l.source.table ∧ l'.target.table = l.target.table :=
  ⟨congrArg Model.table leads.source, congrArg Model.table leads.target⟩

private theorem Leads.trans (first : Leads held view keys l l')
    (second : Leads held view keys l' l'') :
    Leads held view keys l l'' := by
  have reads := second.reads
  rw [first.tables.1, first.tables.2] at reads
  exact ⟨second.source.trans first.source, second.target.trans first.target,
    second.schema.trans first.schema, Database.ReadsAs.trans first.reads reads⟩

private theorem Leads.links (first : Leads held view keys l l')
    (links : Links engine view keys l' (held l'.connection) l'' (held l''.connection)) :
    Links engine view keys l (held l.connection) l'' (held l''.connection) := by
  have reads := links.reads
  rw [first.tables.1, first.tables.2] at reads
  exact ⟨links.source.trans first.source, links.target.trans first.target, links.persisted,
    Database.ReadsAs.trans first.reads reads, links.linked⟩

private theorem Leads.relation (leads : Leads held view keys l l')
    (only : l.source.model.onlyKind l.target.table = .ok kind)
    (named : l.source.model.relationKeys kind l.target.table = .ok keys) :
    l'.source.model.onlyKind l'.target.table = .ok kind ∧
      l'.source.model.relationKeys kind l'.target.table = .ok keys := by
  rw [leads.source, leads.tables.2]
  exact ⟨only, named⟩

end

section

variable {engine : Engine} {output : Output} {key : String → String} {held : σ → Database}
  (law : Connection.Executes σ engine output key held) {registry : Registry}
  {view : String → String → Value → Value} {kind : RelationKind} {keys : RelationKeys}
  {l l' : Linking σ}

variable (numbers : engine.ComparesNumbers)
  (prepared : l.Prepared registry key view keys (held l.connection))

section

include law prepared

/-- A step that only asks leaves everything as it is. -/
theorem leads_of_asking (same : l' = { l with connection := l'.connection })
    (kept : held l'.connection = held l.connection)
    (schema : Connection.schema l'.connection = Connection.schema l.connection) :
    l'.Prepared registry key view keys (held l'.connection) ∧ Leads held view keys l l' := by
  refine ⟨same ▸ prepared.of_connection law schema kept, ?_, ?_, schema, ?_⟩
  · rw [same]
  · rw [same]
  · rw [kept]
    exact Database.ReadsAs.refl _

include numbers

private theorem leads_of_saveIfNew (side : Side)
    (ran : (onSide side saveIfNew).runOn l = (.ok (), l')) :
    l'.Prepared registry key view keys (held l'.connection) ∧ Leads held view keys l l' ∧
      0 < (l'.record side).id ∧ l'.record side.other = l.record side.other := by
  obtain ⟨saved, same⟩ := onSide_eq_ok side ran
  have schema :=
    keeps_saveIfNew law.schema_run law.schema_lastInsertId (l.record side, l.connection)
  rw [saved] at schema
  obtain ⟨place, row, saved⟩ := Record.savedAs_of_saveIfNew law numbers (prepared.ready side) saved
  have unmoved : l'.record side.other = l.record side.other := by rw [same, record_put_other]
  have models : ∀ s, (l'.record s).model = (l.record s).model :=
    side.forall_of saved.model (by rw [unmoved])
  refine ⟨?_, ⟨models .source, models .target, schema, ?_⟩, saved.stands.positive, unmoved⟩
  · rw [same, connection_put]
    exact prepared.of_saved law side schema saved
  · exact saved.readsAs (prepared.views side) (List.Subset.refl _)

end

section

variable (only : l.source.model.onlyKind l.target.table = .ok kind)
  (named : l.source.model.relationKeys kind l.target.table = .ok keys)

include law numbers prepared only named

private theorem links_of_connect (connected : (connect registry).runOn l = (.ok (), l')) :
    Links engine view keys l (held l.connection) l' (held l'.connection) := by
  obtain ⟨keys', l₁, l₂, l₃, l₄, n, resolved, saved, saved', counted, rest⟩ := connect_eq_ok connected
  obtain ⟨resolved', same⟩ := onConnection_eq_ok resolved
  obtain ⟨kind', only', named'⟩ := Record.complementaryKeys_eq_ok resolved'
  obtain rfl := Except.ok.inj (only.symm.trans only')
  obtain rfl := Except.ok.inj (named.symm.trans named')
  have kept := keeps_complementaryKeys law.tableExists law.columnsOfTable registry l.source
    l.target l.connection
  have schema := keeps_complementaryKeys law.schema_tableExists law.schema_columnsOfTable registry
    l.source l.target l.connection
  rw [resolved'] at kept schema
  obtain ⟨prepared₁, leads₁⟩ := leads_of_asking law prepared same kept schema
  obtain ⟨prepared₂, leads₂, persisted, -⟩ :=
    leads_of_saveIfNew law numbers prepared₁ .source saved
  obtain ⟨prepared₃, leads₃, persisted', unmoved⟩ :=
    leads_of_saveIfNew law numbers prepared₂ .target saved'
  change l₃.record .source = l₂.record .source at unmoved
  rw [← unmoved] at persisted
  have leads := (leads₁.trans leads₂).trans leads₃
  obtain ⟨only₃, named₃⟩ := leads.relation only named
  obtain ⟨query, asked, number, small, kept₃, schema₃, same₃⟩ :=
    counts_of_count law only₃ named₃ counted
  obtain ⟨prepared₄, leads₄⟩ := leads_of_asking law prepared₃ same₃ kept₃ schema₃
  have linking : Record.linkingRows engine (held l₄.connection) l₄.source l₄.target keys =
      .ok (query.reads engine (held l₄.connection)) := by
    rw [same₃]
    exact bind_eq_ok.mpr ⟨query, asked, rfl⟩
  rw [← kept₃] at number small
  have persisted₄ : 0 < l₄.source.id ∧ 0 < l₄.target.id := by
    rw [same₃]
    exact ⟨persisted, persisted'⟩
  rcases rest with ⟨linked, rfl⟩ | ⟨unlinked, checked, checks, established⟩
  · exact leads.links (leads₄.links ⟨rfl, rfl, persisted₄, Database.ReadsAs.refl _, _, linking,
      by rw [← number]; exact UInt64.lt_iff_toNat_lt.mp linked, small⟩)
  · have none : query.reads engine (held l₄.connection) = [] := by
      refine List.eq_nil_of_length_eq_zero ?_
      rw [← number]
      exact Nat.eq_zero_of_not_pos fun positive => unlinked (UInt64.lt_iff_toNat_lt.mpr positive)
    rw [none] at linking
    rcases checks with ⟨rfl, -⟩ | ⟨m, checks, -⟩
    · exact leads.links (leads₄.links (links_of_establish law numbers prepared₄ established
        persisted₄.1 persisted₄.2 linking))
    · obtain ⟨only₄, named₄⟩ := (leads.trans leads₄).relation only named
      obtain ⟨-, -, -, -, kept₅, schema₅, same₅⟩ := counts_of_count law only₄ named₄ checks
      obtain ⟨prepared₅, leads₅⟩ := leads_of_asking law prepared₄ same₅ kept₅ schema₅
      rw [← kept₅] at linking
      have unmoved₅ : checked.source = l₄.source ∧ checked.target = l₄.target := by
        rw [same₅]
        exact ⟨rfl, rfl⟩
      rw [← unmoved₅.1, ← unmoved₅.2] at persisted₄ linking
      exact leads.links (leads₄.links (leads₅.links (links_of_establish law numbers prepared₅
        established persisted₄.1 persisted₄.2 linking)))

end

end

section

variable {engine : Engine} {output : Output} {key : String → String} {held : σ → Database}
  (law : Connection.Executes σ engine output key held) (numbers : engine.ComparesNumbers)
  {registry : Registry} {view : String → String → Value → Value} {kind : RelationKind}
  {keys : RelationKeys} {l l' : Linking (Logged σ)}

include law in
private theorem count_of_linked (only : l.source.model.onlyKind l.target.table = .ok kind)
    (named : l.source.model.relationKeys kind l.target.table = .ok keys) {rows : List Joined}
    (linked : Record.linkingRows engine (held l.connection.connection) l.source l.target keys =
      .ok rows) (small : rows.length < 2 ^ 63) :
    ∃ query n c, query.returning = [.count "count"] ∧
      (l.source.countLinks l.target true).runOn l.connection = (.ok n, c) ∧
      n.toNat = rows.length ∧ held c.connection = held l.connection.connection ∧
      c.executed = (Statement.select query).render (Connection.dialect l.connection) ::
        l.connection.executed := by
  obtain ⟨query, n, c, counts, runs, counted, number, kept⟩ :=
    Record.countLinks_of_linkingRows (Logged.executes law) only named linked small
  have noted := Logged.executed_runCount query l.connection
  rw [counted] at noted
  exact ⟨query, n, c, counts, runs.trans counted, number, kept, noted⟩

variable (only : l.source.model.onlyKind l.target.table = .ok kind)
  (named : l.source.model.relationKeys kind l.target.table = .ok keys)
  (prepared : l.Prepared registry key view keys (held l.connection.connection))

include law numbers only named prepared

/-- Linking links two records, whatever their relation. The link is counted afterwards, all rows that
were there read as they did outside of the keys, and linking again counts and sends nothing else. -/
theorem link_links_once (linked : (link registry).runOn l = (.ok (), l')) :
    (∃ n c, 0 < n ∧
      (Record.linkCount l'.target).runOn (l'.source, l'.connection) = (.ok n, (l'.source, c))) ∧
    (held l.connection.connection).ReadsAs view (keys.columns l.source.table l.target.table)
      (held l'.connection.connection) ∧
    ∀ again : Option Record,
      (again.isSome = true → keys.kind = .hasOneThrough ∨ keys.kind = .hasManyThrough) →
      ∃ query d c, query.returning = [.count "count"] ∧
        (link registry).runOn { l' with middle := again } =
          (.ok (), { l' with middle := again, connection := c }) ∧
        c.executed = (Statement.select query).render d :: l'.connection.executed ∧
        held c.connection = held l'.connection.connection := by
  have law' := Logged.executes law
  have connected := remembering_eq_ok_iff.mp linked
  have links := links_of_connect law' numbers prepared only named connected
  have tables : l'.target.table = l.target.table := congrArg Model.table links.target
  have only' : l'.source.model.onlyKind l'.target.table = .ok kind := by
    rw [links.source, tables]
    exact only
  have named' : l'.source.model.relationKeys kind l'.target.table = .ok keys := by
    rw [links.source, tables]
    exact named
  obtain ⟨rows, linking, positive, small⟩ := links.linked
  refine ⟨?_, links.reads, ?_⟩
  · obtain ⟨query, n, c, -, counted, number, -, -⟩ := count_of_linked law only' named' linking small
    refine ⟨n, c, UInt64.lt_iff_toNat_lt.mpr (number ▸ positive), ?_⟩
    unfold Record.linkCount
    rw [Action.runOn_observed, counted]
  · intro again between
    have schema := keeps_connect law'.schema_run law'.schema_lastInsertId law'.schema_tableExists
      law'.schema_columnsOfTable registry l
    rw [connected] at schema
    obtain ⟨keys', l₁, -, -, -, -, resolved, -⟩ := connect_eq_ok connected
    obtain ⟨resolved, -⟩ := onConnection_eq_ok resolved
    obtain ⟨kind', only₁, named₁⟩ := Record.complementaryKeys_eq_ok resolved
    obtain rfl := Except.ok.inj (only.symm.trans only₁)
    obtain rfl := Except.ok.inj (named.symm.trans named₁)
    have outcome := Record.readsOnly_complementaryKeys law' registry l.source l.target schema
    have asks : (l.source.complementaryKeys registry l.target : Action (Logged σ) _).Keeps
        fun c => (c.executed, held c.connection) :=
      keeps_complementaryKeys (fun table c => Prod.ext rfl (law.tableExists table c.connection))
        (fun table c => Prod.ext rfl (law.columnsOfTable table c.connection)) registry l.source
        l.target
    have quiet := asks l'.connection
    rw [resolved] at outcome
    rw [← Record.complementaryKeys_congr registry links.source links.target] at outcome quiet
    cases resolved' : (l'.source.complementaryKeys registry l'.target).runOn l'.connection with
    | mk answer asked =>
        rw [resolved'] at outcome quiet
        obtain rfl : answer = .ok keys := outcome
        obtain ⟨noted, kept⟩ := Prod.mk.inj quiet
        rw [← kept] at linking
        obtain ⟨query, n, c, counts, counted, number, kept', noted'⟩ := count_of_linked law
          (l := { l' with middle := again, connection := asked }) only' named' linking small
        refine ⟨query, Connection.dialect asked, c, counts, ?_, ?_, kept'.trans kept⟩
        · refine remembering_eq_ok_iff.mpr (connect_of_linked (n := n) resolved' between
            links.persisted.1 links.persisted.2 ?_ (UInt64.lt_iff_toNat_lt.mpr (number ▸ positive)))
          unfold count
          rw [Action.runOn_bind_ok (Action.runOn_get _), runOn_onConnection, counted]
        · rw [noted', noted]

end

/-! ## In the shop and in the archive -/

open Example

private theorem stands_orphan :
    Shop.orphan.source.Stands ["customer_id"] Shop.rows 2 Shop.orphanRow := by
  have read {column : String} (other : column ≠ "id") : Shop.orphanRow.read column = .null := by
    have entries : Shop.orphanRow.entries = [("id", .int 9), ("customer_id", .null)] := by
      decide +kernel
    unfold Row.read OrderedMap.get?
    rw [entries, List.lookup_cons, beq_eq_false_iff_ne.mpr other, List.lookup_cons]
    cases column == "customer_id" <;> rfl
  have undeclared : Shop.orphan.source.model.fields.get? "id" = none := by decide +kernel
  have primary : Shop.orphan.source.model.primaryKey = "id" := by decide +kernel
  refine Record.stands_of_hydrated rfl ?_ (by decide)
    (.of_rows (by decide +kernel) (by decide +kernel)) ?_ ?_ ?_ ?_
  · exact Record.hydrated_eq_ok_iff.mpr ⟨.int 9, 9, by decide +kernel, rfl, rfl⟩
  · intro type w field
    rw [primary, undeclared] at field
    cases field
  · exact List.forall_mem_singleton.mpr ⟨by decide +kernel, by decide +kernel⟩
  · exact List.forall_mem_singleton.mpr (.inl (read (by decide)))
  · intro column type _ field
    have other : column ≠ "id" := by
      rintro rfl
      rw [undeclared] at field
      cases field
    rw [read other]
    exact type.survives_null

private theorem prepared_orphan :
    Shop.orphan.Prepared Shop.registry (fun _ => "id") (fun table => (Shop.model table).reading)
      Shop.customerKeys Shop.rows := by
  have written : Shop.customerKeys.columns Shop.orphan.source.table Shop.orphan.target.table
      Shop.orphan.source.table = ["customer_id"] := by decide +kernel
  have unwritten : Shop.customerKeys.columns Shop.orphan.source.table Shop.orphan.target.table
      Shop.orphan.target.table = [] := by decide +kernel
  refine ⟨by decide +kernel, .belongsTo rfl (by decide +kernel), ?_, ?_, ?_, ?_, ?_⟩
  · rw [written]
    refine ⟨by decide +kernel, .of_rows (by decide +kernel) (by decide +kernel), ?_,
      .standing 2 _ stands_orphan⟩
    exact List.forall_mem_singleton.mpr ⟨by decide +kernel, by decide +kernel⟩
  · rw [unwritten]
    exact ⟨by decide +kernel, .of_rows (by decide +kernel) (by decide +kernel),
      List.forall_mem_nil _, .new (by decide) (by decide +kernel)⟩
  · rw [show Shop.orphan.source.table = "purchase" by decide +kernel]
    rfl
  · rw [show Shop.orphan.target.table = "customer" by decide +kernel]
    rfl
  · rintro (kind | kind) <;> cases kind

/-- A new customer is saved and linked to a purchase that has none. -/
theorem link_links_once_orphan :
    ∃ l', (link Shop.registry).runOn Shop.orphan = (.ok (), l') ∧
      (∃ n c, 0 < n ∧
        (Record.linkCount l'.target).runOn (l'.source, l'.connection) = (.ok n, (l'.source, c))) ∧
      ∃ query d c, query.returning = [.count "count"] ∧
        (link Shop.registry).runOn { l' with middle := none } =
          (.ok (), { l' with middle := none, connection := c }) ∧
        c.executed = (Statement.select query).render d :: l'.connection.executed := by
  have runs : ((link Shop.registry).runOn Shop.orphan).1.toOption.map id = some () := by
    decide +kernel
  obtain ⟨_, l', linked, -⟩ := Action.exists_of_map_toOption runs
  obtain ⟨counted, -, again⟩ := link_links_once Memory.executes comparesNumbers_numeric
    Shop.onlyKind_purchase Shop.relationKeys_purchase prepared_orphan linked
  obtain ⟨query, d, c, counts, ran, noted, -⟩ := again none nofun
  exact ⟨l', linked, counted, query, d, c, counts, ran, noted⟩

/-- A link writes all fields of a record. Values that are not held as they are read are lost by it,
and so is the link itself where the identifier is one of them, or where the rows between are looked
for in another table. -/
theorem link_loses_values_not_held :
    let entry := Archive.linking "entry" "shelf"
    let shown (row : Row) := ["score", "moment", "flag"].map fun column =>
      entry.source.model.reading column (row.read column)
    (∃ l' row', entry.source.hydrated Archive.entryRow = .ok entry.source ∧
      (link Archive.registry).runOn entry = (.ok (), l') ∧
      l'.connection.connection.held.row? ("entry", 0) = some row' ∧
      shown Archive.entryRow = [.float .nan, .int 0, .bool true] ∧
      shown row' = [.null, .text "1970-01-01 00:00:00", .text "1"]) ∧
    ∀ names ∈ [("badge", "shelf"), ("pupil", "lesson")],
      ((do
        link Archive.registry
        let l ← get
        onSource (Record.linkCount l.target)).runOn (Archive.linking names.1 names.2)).1 =
          .ok 0 := by
  intro entry shown
  constructor
  · have hydrated : entry.source.hydrated Archive.entryRow = .ok entry.source :=
      Record.hydrated_eq_ok_iff.mpr ⟨.int 7, 7, by decide +kernel, rfl, rfl⟩
    have before : shown Archive.entryRow = [.float .nan, .int 0, .bool true] := by decide +kernel
    have linked : ((link Archive.registry).runOn entry).1 = .ok () := by decide +kernel
    have held : (((link Archive.registry).runOn entry).2.connection.connection.held.row?
        ("entry", 0)).map shown = some [.null, .text "1970-01-01 00:00:00", .text "1"] := by
      decide +kernel
    generalize (link Archive.registry).runOn entry = ran at linked held ⊢
    obtain ⟨outcome, l'⟩ := ran
    obtain rfl : outcome = .ok () := linked
    obtain ⟨row', present, after⟩ := Option.map_eq_some_iff.mp held
    exact ⟨l', row', hydrated, rfl, present, before, after⟩
  · decide +kernel

end RecordMapper.Linking
