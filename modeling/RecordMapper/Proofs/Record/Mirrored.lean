import RecordMapper.Proofs.Record.Attached
import RecordMapper.Proofs.Schema.Hop

/-!
What linking a parent that has one child leaves, called on the parent or on the child. Both calls write
the same column, and only the one on the parent looks for other children.
-/

set_option autoImplicit false

namespace RecordMapper

/-- A parent that has one child, which belongs to it by a column for the key of the parent. -/
structure Mirrored (parent child : Model) (keys inverse : RelationKeys)
    (column : String) : Prop where
  apart : parent.table ≠ child.table
  hasOne : parent.onlyKind child.table = .ok .hasOne
  belongsTo : child.onlyKind parent.table = .ok .belongsTo
  forth : parent.relationKeys .hasOne child.table = .ok keys
  back : child.relationKeys .belongsTo parent.table = .ok inverse
  foreign : keys.foreignKey = column ∧ inverse.foreignKey = column
  referenced : keys.referencedKey = parent.primaryKey ∧ inverse.referencedKey = parent.primaryKey
  links : child.Links column

/-- A row that is found for two values is the one with the number of the second. -/
theorem Database.exists_of_matching_pair {engine : Engine} {db : Database}
    {table column own : String} {n id : Int64} (numbers : engine.ComparesNumbers)
    (keyed : db.Keyed table own) (filled : db.matching engine [table] (Expr.conjAll? [
      .eq (.column (.of table column)) (.value (.int n)),
      .eq (.column (.of table own)) (.value (.int id))]) ≠ []) :
    ∃ place row, db.row? (table, place) = some row ∧
      engine.compare .eq (row.read column) (.int n) = .true ∧ db.Bears table own id place := by
  obtain ⟨parts, member⟩ := List.exists_mem_of_ne_nil _ filled
  obtain ⟨place, row, -, present, refers, same⟩ := mem_matching_pair.mp member
  obtain ⟨m, number⟩ := keyed.number present
  obtain rfl := (Engine.compare_eq_true_iff numbers number rfl).mp same
  exact ⟨place, row, present, refers, row, present, number⟩

namespace Linking

variable {σ : Type} [Connection σ]

/-! ## Both records are saved, and the links counted -/

/-- What the operation leaves once both records are saved. Called on the parent, as its kind says, it
makes sure before it writes that no row of the child refers to the parent. -/
inductive Written (engine : Engine) (kind : RelationKind) (column : String)
    (parent child : Record) (db : Database) : Database → Prop where
  | linked (place : Nat) (row : Row) (present : db.row? (child.table, place) = some row)
      (refers : engine.compare .eq (row.read column) (.int parent.id) = .true)
      (own : db.Bears child.table child.model.primaryKey child.id place) :
      Written engine kind column parent child db db
  | idle (free : kind = .hasOne → ∀ place, ¬db.Bears child.table column parent.id place)
      (clean : child.dirty = false) (remembers : child.get? column = some (.int parent.id)) :
      Written engine kind column parent child db db
  | set {db' : Database}
      (free : kind = .hasOne → ∀ place, ¬db.Bears child.table column parent.id place)
      (sets : db.Sets child.table child.model.primaryKey column child.id parent.id db') :
      Written engine kind column parent child db db'

section

variable {engine : Engine} {output : Output} {key : String → String} {held : σ → Database}
  (law : Connection.Executes σ engine output key held) (numbers : engine.ComparesNumbers)
  {registry : Registry} {kind : RelationKind} {keys inverse : RelationKeys} {parent child : Model}
  {column : String} {l l' : Linking σ}

/-- On the parent, the key is stored in the target. -/
theorem store_of_hasOne (kind : keys.kind = .hasOne)
    (referenced : keys.referencedKey = l.source.model.primaryKey)
    (established : (establish registry keys).runOn l = (.ok (), l')) :
    (store keys.foreignKey (.int l.source.id)).runOn (l.target, l.connection) =
      (.ok (), (l'.target, l'.connection)) ∧ l'.source = l.source := by
  unfold establish at established
  rw [Action.runOn_bind_ok (Action.runOn_get l), kind] at established
  obtain ⟨stored, same⟩ := onSide_eq_ok .target established
  rw [Record.keyValue_primaryKey referenced] at stored
  exact ⟨stored, by rw [same]⟩

/-- On the child, the key is stored in the source. -/
theorem store_of_belongsTo (kind : keys.kind = .belongsTo)
    (referenced : keys.referencedKey = l.target.model.primaryKey)
    (established : (establish registry keys).runOn l = (.ok (), l')) :
    (store keys.foreignKey (.int l.target.id)).runOn (l.source, l.connection) =
      (.ok (), (l'.source, l'.connection)) ∧ l'.target = l.target := by
  unfold establish at established
  rw [Action.runOn_bind_ok (Action.runOn_get l), kind] at established
  obtain ⟨stored, same⟩ := onSide_eq_ok .source established
  rw [Record.keyValue_primaryKey referenced] at stored
  exact ⟨stored, by rw [same]⟩

include law in
/-- Linking saves both records and counts their links, and writes keys if there are none. The one row
of a relation to one has to be free for that. -/
theorem counted_of_connect (only : l.source.model.onlyKind l.target.table = .ok kind)
    (named : l.source.model.relationKeys kind l.target.table = .ok keys)
    (identified : key l.source.table = l.source.model.primaryKey)
    (identified' : key l.target.table = l.target.model.primaryKey)
    (ran : (connect registry).runOn l = (.ok (), l')) :
    ∃ counted between rows,
      l.source.SavedNew (held l.connection) counted.source between ∧
      l.target.SavedNew between counted.target (held counted.connection) ∧
      Record.linkingRows engine (held counted.connection) counted.source counted.target keys =
        .ok rows ∧
      (rows ≠ [] ∧ l' = counted ∨ ∃ checked,
        (checked.source = counted.source ∧ checked.target = counted.target ∧
          held checked.connection = held counted.connection) ∧
        (keys.kind = .hasOne → ∃ query, counted.source.linkQuery counted.target keys false =
          .ok query ∧ query.reads engine (held counted.connection) = []) ∧
        (establish registry keys).runOn checked = (.ok (), l')) := by
  obtain ⟨keys', asked, first, second, counted, n, resolved, saved, saved', counts, rest⟩ :=
    connect_eq_ok ran
  obtain ⟨resolved', same⟩ := onConnection_eq_ok resolved
  obtain ⟨kind', only', named'⟩ := Record.complementaryKeys_eq_ok resolved'
  obtain rfl := Except.ok.inj (only.symm.trans only')
  obtain rfl := Except.ok.inj (named.symm.trans named')
  have kept := keeps_complementaryKeys law.tableExists law.columnsOfTable registry l.source
    l.target l.connection
  rw [resolved'] at kept
  obtain ⟨saved, same₁⟩ := onSide_eq_ok .source saved
  obtain ⟨saved', same₂⟩ := onSide_eq_ok .target saved'
  rw [show asked.record .source = l.source by rw [same]] at saved
  rw [show first.record .target = l.target by rw [same₁, same]] at saved'
  have source : l.source.SavedNew (held l.connection) second.source (held first.connection) := by
    rw [← kept, show second.source = first.source by rw [same₂]]
    exact Record.savedNew_of_saveIfNew law identified saved
  have target : l.target.SavedNew (held first.connection) second.target (held second.connection) :=
    Record.savedNew_of_saveIfNew law identified' saved'
  have tables : second.target.table = l.target.table := congrArg Model.table target.model
  have only : second.source.model.onlyKind second.target.table = .ok kind := by
    rw [source.model, tables]
    exact only
  have named : second.source.model.relationKeys kind second.target.table = .ok keys := by
    rw [source.model, tables]
    exact named
  obtain ⟨query, exact', number, -, kept₁, -, same₃⟩ := counts_of_count law only named counts
  have source₁ : counted.source = second.source := by rw [same₃]
  have target₁ : counted.target = second.target := by rw [same₃]
  rw [← source₁, ← target₁] at only named exact'
  rw [← source₁] at source
  rw [← target₁, ← kept₁] at target
  rw [← kept₁] at number
  refine ⟨counted, _, _, source, target, bind_eq_ok.mpr ⟨query, exact', rfl⟩, ?_⟩
  rcases rest with ⟨linked, rfl⟩ | ⟨-, checked, ⟨rfl, other⟩ | ⟨m, checks, none⟩, established⟩
  · rw [UInt64.lt_iff_toNat_lt, number] at linked
    exact .inl ⟨List.ne_nil_of_length_pos linked, rfl⟩
  · exact .inr ⟨_, ⟨rfl, rfl, rfl⟩, fun one => absurd one other, established⟩
  · obtain ⟨any, asked', number', -, kept₂, -, same₄⟩ := counts_of_count law only named checks
    refine .inr ⟨checked, ⟨by rw [same₄], by rw [same₄], kept₂⟩, fun _ => ⟨any, asked', ?_⟩,
      established⟩
    rw [UInt64.lt_iff_toNat_lt, number'] at none
    exact List.eq_nil_of_length_eq_zero (Nat.eq_zero_of_not_pos none)

include numbers

theorem written_of_pair {p c : Record} {db db' : Database}
    (keyed : db.Keyed c.table c.model.primaryKey)
    (outcome : db.matching engine [c.table] (Expr.conjAll? [
        .eq (.column (.of c.table column)) (.value (.int p.id)),
        .eq (.column (.of c.table c.model.primaryKey)) (.value (.int c.id))]) ≠ [] ∧ db' = db ∨
      (kind = .hasOne → ∀ place, ¬db.Bears c.table column p.id place) ∧
        (c.dirty = false ∧ c.get? column = some (.int p.id) ∧ db' = db ∨
          db.Sets c.table c.model.primaryKey column c.id p.id db')) :
    Written engine kind column p c db db' := by
  rcases outcome with ⟨filled, rfl⟩ | ⟨free, ⟨clean, remembers, rfl⟩ | sets⟩
  · obtain ⟨place, row, present, refers, own⟩ :=
      Database.exists_of_matching_pair numbers keyed filled
    exact .linked place row present refers own
  · exact .idle free clean remembers
  · exact .set free sets

/-- If a parent has no links at all, no row refers to it. -/
theorem not_bears_of_linkQuery {r other : Record} {db : Database} (kind : keys.kind = .hasOne)
    (referenced : keys.referencedKey = r.model.primaryKey) {query : Select}
    (asked : r.linkQuery other keys false = .ok query) (none : query.reads engine db = [])
    (place : Nat) : ¬db.Bears other.table keys.foreignKey r.id place := by
  intro bears
  unfold Record.linkQuery at asked
  rw [kind, Record.keyValue_primaryKey referenced] at asked
  obtain rfl := Except.ok.inj asked
  have none : db.matching engine [other.table]
      (some (.eq (.column (.of other.table keys.foreignKey)) (.value (.int r.id)))) = [] := none
  have member := Database.mem_matching_of_bears numbers bears
  rw [none] at member
  cases member

include law

/-- Called on the parent, linking looks for other children. -/
theorem written_of_hasOne (mirrored : Mirrored parent child keys inverse column)
    (source : l.source.model = parent) (target : l.target.model = child)
    (identified : key parent.table = parent.primaryKey)
    (identified' : key child.table = child.primaryKey)
    (keyed : (held l.connection).Keyed child.table child.primaryKey)
    (ran : (connect registry).runOn l = (.ok (), l')) :
    ∃ saved between db,
      l.source.SavedNew (held l.connection) l'.source between ∧
      l.target.SavedNew between saved db ∧ l'.target.id = saved.id ∧
      Written engine .hasOne column l'.source saved db (held l'.connection) := by
  subst source target
  obtain ⟨counted, between, rows, first, second, linking, outcome⟩ :=
    counted_of_connect law mirrored.hasOne mirrored.forth identified identified' ran
  have kind : keys.kind = .hasOne := (Model.relationKeys_eq_ok mirrored.forth).1
  have referenced : keys.referencedKey = counted.source.model.primaryKey := by
    rw [first.model]
    exact mirrored.referenced.1
  have keyed : (held counted.connection).Keyed counted.target.table
      counted.target.model.primaryKey := by
    rw [Record.table, second.model]
    exact second.keyed (first.keyed_elsewhere keyed mirrored.apart.symm)
  rw [Record.linkingRows_hasMany (.inl kind) referenced, mirrored.foreign.1] at linking
  obtain rfl := Except.ok.inj linking
  rcases outcome with ⟨linked, rfl⟩ | ⟨checked, ⟨source, target, here⟩, looks, established⟩
  · exact ⟨_, between, _, first, second, rfl, written_of_pair numbers keyed (.inl ⟨linked, rfl⟩)⟩
  · obtain ⟨query, asked, none⟩ := looks kind
    have free := not_bears_of_linkQuery numbers kind referenced asked none
    rw [mirrored.foreign.1] at free
    obtain ⟨stored, unmoved⟩ := store_of_hasOne kind (source ▸ referenced) established
    rw [mirrored.foreign.1, source, target] at stored
    obtain ⟨-, same, outcome⟩ := Record.sets_of_store law numbers second.positive
      (second.model ▸ mirrored.links) (here ▸ keyed) stored
    rw [here] at outcome
    rw [unmoved, source]
    exact ⟨_, between, _, first, second, same,
      written_of_pair numbers keyed (.inr ⟨fun _ => free, outcome⟩)⟩

/-- Called on the child, linking looks for the two records alone. -/
theorem written_of_belongsTo (mirrored : Mirrored parent child keys inverse column)
    (source : l.source.model = child) (target : l.target.model = parent)
    (identified : key parent.table = parent.primaryKey)
    (identified' : key child.table = child.primaryKey)
    (keyed : (held l.connection).Keyed child.table child.primaryKey)
    (ran : (connect registry).runOn l = (.ok (), l')) :
    ∃ saved between db,
      l.source.SavedNew (held l.connection) saved between ∧
      l.target.SavedNew between l'.target db ∧ l'.source.id = saved.id ∧
      Written engine .belongsTo column l'.target saved db (held l'.connection) := by
  subst source target
  obtain ⟨counted, between, rows, first, second, linking, outcome⟩ :=
    counted_of_connect law mirrored.belongsTo mirrored.back identified' identified ran
  have kind : inverse.kind = .belongsTo := (Model.relationKeys_eq_ok mirrored.back).1
  have referenced : inverse.referencedKey = counted.target.model.primaryKey := by
    rw [second.model]
    exact mirrored.referenced.2
  have keyed : (held counted.connection).Keyed counted.source.table
      counted.source.model.primaryKey := by
    rw [Record.table, first.model]
    exact second.keyed_elsewhere (first.keyed keyed) mirrored.apart.symm
  rw [Record.linkingRows_belongsTo kind referenced, mirrored.foreign.2] at linking
  obtain rfl := Except.ok.inj linking
  rcases outcome with ⟨linked, rfl⟩ | ⟨checked, ⟨source, target, here⟩, -, established⟩
  · exact ⟨_, between, _, first, second, rfl, written_of_pair numbers keyed (.inl ⟨linked, rfl⟩)⟩
  · obtain ⟨stored, unmoved⟩ := store_of_belongsTo kind (target ▸ referenced) established
    rw [mirrored.foreign.2, source, target] at stored
    obtain ⟨-, same, outcome⟩ := Record.sets_of_store law numbers first.positive
      (first.model ▸ mirrored.links) (here ▸ keyed) stored
    rw [here] at outcome
    rw [unmoved, target]
    exact ⟨_, between, _, first, second, same,
      written_of_pair numbers keyed (.inr ⟨RelationKind.noConfusion, outcome⟩)⟩

end

/-! ## What a call comes to -/

section

variable {engine : Engine} {kind : RelationKind} {column : String} {p c : Record}
  {db db' : Database} {home : Nat}

private theorem Written.others (written : Written engine kind column p c db db')
    {part : String × Nat}
    (other : ¬(part.1 = c.table ∧ db.Bears c.table c.model.primaryKey c.id part.2)) :
    db'.row? part = db.row? part := by
  cases written with
  | linked => rfl
  | idle => rfl
  | set _ sets => exact sets.others other

private theorem Written.changed (written : Written engine kind column p c db db') (place : Nat) :
    db'.row? (c.table, place) = db.row? (c.table, place) ∨ db'.Bears c.table column p.id place := by
  cases written with
  | linked => exact .inl rfl
  | idle => exact .inl rfl
  | set _ sets =>
      by_cases own : db.Bears c.table c.model.primaryKey c.id place
      · exact .inr (sets.given own)
      · exact .inl (sets.others fun here => own here.2)

/-- The row of a child that remembers what it holds refers to the parent afterwards. -/
theorem Written.attached (numbers : engine.ComparesNumbers)
    (written : Written engine kind column p c db db') (kept : c.Kept column db home)
    (known : ∀ {place}, db.Bears c.table c.model.primaryKey c.id place → place = home)
    (refers : db'.Refers c.table column) : db'.Bears c.table column p.id home := by
  cases written with
  | linked place row present same own =>
      obtain rfl := known own
      exact refers.bears numbers present same
  | idle _ clean remembers => exact kept.recalls clean remembers
  | set _ sets => exact sets.given kept.number

variable {p' c' : Record} {between saved : Database} (numbers : engine.ComparesNumbers)
  (apart : p.table ≠ c.table) (links : c.model.Links column)
  (keyed : db.Keyed c.table c.model.primaryKey) (first : p.SavedNew db p' between)
  (second : c.SavedNew between c' saved) (written : Written engine kind column p' c' saved db')
  (refers : db'.Refers c.table column)

include numbers apart links keyed first second written refers

theorem attaches_of_written :
    ∃ home, db.Attaches db' p.model c.model column p'.id c'.id home ∧
      ((0 < p.id → ∃ owner, db.Bears p.table p.model.primaryKey p.id owner) →
        (0 < c.id → ∃ place, c.Kept column db place) →
          (∃ owner, db'.Bears p.table p.model.primaryKey p'.id owner) ∧
            db'.Bears c.table column p'.id home ∧
            (db.row? (c.table, home) = none ∨
              db.Bears c.table c.model.primaryKey c'.id home)) := by
  have tables : c'.table = c.table := congrArg Model.table second.model
  have before (place : Nat) : between.row? (c.table, place) = db.row? (c.table, place) :=
    first.elsewhere apart.symm
  have owned (owner : Nat) : db'.row? (p.table, owner) = between.row? (p.table, owner) := by
    rw [written.others fun here => apart (here.1.trans tables), second.elsewhere apart]
  obtain ⟨home, elsewhere, known, housed⟩ :=
    second.exists_home (first.keyed_elsewhere keyed apart.symm) links
  have known' {place : Nat} (bears : saved.Bears c'.table c'.model.primaryKey c'.id place) :
      place = home := by
    rw [tables, second.model] at bears
    exact known bears
  have attached (kept : c'.Kept column saved home) : db'.Bears c.table column p'.id home := by
    rw [← tables] at refers ⊢
    exact written.attached numbers kept known' refers
  refine ⟨home, ⟨?_, ?_, ?_, ?_⟩, fun there current => ⟨?_, ?_⟩⟩
  · intro n owner bears
    exact first.owners (bears.congr (owned owner).symm)
  · intro place differ
    exact (written.others fun here => differ (known' here.2)).trans
      ((elsewhere differ).trans (before place))
  · rcases housed with ⟨rfl, -, rfl⟩ | ⟨-, -, kept⟩
    · exact (written.changed home).imp (fun same => same.trans (before home)) id
    · exact .inr (attached kept)
  · intro place bears
    by_contra differ
    exact differ (known (bears.congr ((elsewhere differ).trans (before place))))
  · obtain ⟨owner, owns⟩ := first.owner there
    exact ⟨owner, owns.congr (owned owner)⟩
  · rcases housed with ⟨rfl, persisted, rfl⟩ | ⟨-, absent, kept⟩
    · obtain ⟨place, kept⟩ := current persisted
      have kept' : c'.Kept column saved place :=
        ⟨kept.number.congr (before place), fun clean _ holds =>
          (kept.recalls clean holds).congr (before place)⟩
      obtain rfl := known kept'.number
      exact ⟨attached kept', .inr kept.number⟩
    · exact ⟨attached kept, .inl ((before home).symm.trans absent)⟩

end

end Linking

end RecordMapper
