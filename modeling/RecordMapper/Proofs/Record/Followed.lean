import RecordMapper.Example.Store
import RecordMapper.Proofs.Database.Keyed
import RecordMapper.Proofs.Query.Chain
import RecordMapper.Proofs.Query.Hopping
import RecordMapper.Proofs.Record.Stored

/-!
Following a relation from a record, next to joining its table. The statement that follows a relation
is that of the join in which the table of the record stays at its row: each of the record's columns is
replaced by the key that the record holds.
-/

set_option autoImplicit false

namespace RecordMapper

namespace Model

variable {m : Model} {target : String}

private theorem onlyKind_normalize : m.onlyKind (Name.normalize target) = m.onlyKind target := by
  unfold onlyKind
  rw [Name.normalize_normalize]

private theorem relationKeys_normalize {kind : RelationKind} :
    m.relationKeys kind (Name.normalize target) = m.relationKeys kind target := by
  unfold relationKeys
  rw [Name.normalize_normalize]

private theorem hopTo_normalize : m.hopTo (Name.normalize target) = m.hopTo target := by
  unfold hopTo
  rw [Name.normalize_normalize]

private theorem hopTo_of_keys {kind : RelationKind} {keys : RelationKeys} {hop : JoinHop}
    (only : m.onlyKind target = .ok kind) (declared : m.relationKeys kind target = .ok keys)
    (made : keys.hop = .ok hop) : m.hopTo target = .ok hop :=
  bind_eq_ok.mpr ⟨kind, onlyKind_normalize.trans only,
    bind_eq_ok.mpr ⟨keys, relationKeys_normalize.trans declared, made⟩⟩

end Model

/-! ## Equalities at one row -/

/-- What an equality says where one table is at a row with known keys. The key is written on the
right. -/
def KeyEquality.pinned (e : KeyEquality) (table : String) (held : String → Value) : Expr :=
  if e.left.table = some table then .eq (.column e.right) (.value (held e.left.column))
  else if e.right.table = some table then .eq (.column e.left) (.value (held e.right.column))
  else e.condition

def RelationKeys.ownKey (keys : RelationKeys) : String :=
  match keys.kind with
  | .belongsTo => keys.foreignKey
  | .hasOne | .hasMany => keys.referencedKey
  | .hasOneThrough | .hasManyThrough | .hasAndBelongsToMany => keys.sourceId

namespace Engine

def Symmetric (engine : Engine) : Prop :=
  ∀ left right, engine.compares .eq left right = engine.compares .eq right left

def ComparesAsRead (engine : Engine) (v : Value) : Prop :=
  ∀ n, v.toInt64 = .ok n → ∀ other, engine.compares .eq v other = engine.compares .eq (.int n) other

variable {engine : Engine}

theorem Symmetric.compare (symmetric : engine.Symmetric) (left right : Value) :
    engine.compare .eq left right = engine.compare .eq right left := by
  by_cases first : left = .null
  · subst first
    cases right <;> rfl
  · by_cases second : right = .null
    · subst second
      cases left <;> rfl
    · rw [compare_of_ne_null engine .eq first second, compare_of_ne_null engine .eq second first,
        symmetric]

theorem ComparesAsRead.compare {v : Value} (alike : engine.ComparesAsRead v) (other : Value) :
    engine.compare .eq (FieldType.integer.fromDatabase v) other = engine.compare .eq v other := by
  cases read : v.toInt64 with
  | error e => rw [FieldType.fromDatabase_unreadable_integer read]
  | ok n =>
      rw [FieldType.fromDatabase_integer read]
      have filled : v ≠ .null := by
        rintro rfl
        cases read
      have whole : Value.int n ≠ .null := nofun
      by_cases absent : other = .null
      · subst absent
        cases v <;> rfl
      · rw [compare_of_ne_null engine .eq whole absent, compare_of_ne_null engine .eq filled absent,
          alike n read]

end Engine

namespace KeyEquality

variable {engine : Engine} {db : Database} {table other other' column column' key : String}
  {place : Nat} {row : Row} {held : String → Value} {parts : Joined}

section

variable (present : db.row? (table, place) = some row)
  (same : ∀ v, engine.compare .eq v (row.read key) = engine.compare .eq v (held key))

include present same

private theorem truth_pinned_right (differ : other ≠ table) :
    (KeyEquality.mk (.of other column) (.of table key)).condition.truth engine db
        ((table, place) :: parts) =
      ((KeyEquality.mk (.of other column) (.of table key)).pinned table held).truth engine db
        parts := by
  rw [Expr.truth_condition, Database.value_cons_self present, Database.value_cons_of_ne differ, same]
  simp [pinned, ColumnRef.of, differ, Expr.truth_eq, Expr.eval]

private theorem truth_pinned_left (symmetric : engine.Symmetric) (differ : other ≠ table) :
    (KeyEquality.mk (.of table key) (.of other column)).condition.truth engine db
        ((table, place) :: parts) =
      ((KeyEquality.mk (.of table key) (.of other column)).pinned table held).truth engine db
        parts := by
  rw [Expr.truth_condition, Database.value_cons_self present, Database.value_cons_of_ne differ,
    symmetric.compare, same]
  simp [pinned, ColumnRef.of, Expr.truth_eq, Expr.eval]

end

private theorem truth_pinned_elsewhere (differ : other ≠ table) (differ' : other' ≠ table) :
    (KeyEquality.mk (.of other column) (.of other' column')).condition.truth engine db
        ((table, place) :: parts) =
      ((KeyEquality.mk (.of other column) (.of other' column')).pinned table held).truth engine db
        parts := by
  rw [Expr.truth_condition, Database.value_cons_of_ne differ, Database.value_cons_of_ne differ']
  simp [pinned, ColumnRef.of, differ, differ', Expr.truth_condition]

end KeyEquality

namespace Record

def Finds (r : Record) (engine : Engine) (db : Database) (place : Nat) : Prop :=
  ∀ ⦃other row'⦄, db.row? (r.table, other) = some row' →
    (engine.compare .eq (row'.read r.model.primaryKey) (.int r.id) = .true ↔ other = place)

/-- A record in step with its row, the one row that its identifier finds. -/
structure InStep (r : Record) (engine : Engine) (db : Database) (place : Nat) (row : Row) : Prop where
  present : db.row? (r.table, place) = some row
  held : r.hydrated row = .ok r
  found : r.Finds engine db place

variable {engine : Engine} {db : Database} {r : Record} {place : Nat} {row : Row}

/-- The key that a record holds is what is read of its column. -/
theorem keyValue_of_hydrated (held : r.hydrated row = .ok r) {column : String}
    (integral : column = r.model.primaryKey ∨ r.model.fields.get? column = some .integer) :
    r.keyValue column = FieldType.integer.fromDatabase (row.read column) := by
  obtain ⟨value, id, found, read, same⟩ := hydrated_eq_ok_iff.mp held
  unfold keyValue
  split
  · rename_i primary
    rw [primary, Row.read, found, Option.getD_some, FieldType.fromDatabase_integer read,
      congrArg Record.id same]
  · rename_i other
    have type := integral.resolve_left other
    have fields : r.fields = fieldsOf r.model row := congrArg Record.fields same
    rw [get?, fields, get?_fieldsOf, type, Row.read]
    cases row.get? column with
    | none => rfl
    | some value => rfl

private theorem Finds.satisfies_idCondition (found : r.Finds engine db place) {other : Nat}
    {row' : Row}
    (present : db.row? (r.table, other) = some row') (parts : Joined) :
    db.satisfies engine (some (r.idCondition r.id)) ((r.table, other) :: parts) = true ↔
      other = place := by
  rw [← found present, Database.satisfies, Option.all_some, beq_iff_eq, idCondition,
    Expr.truth_eq, Expr.eval, Expr.eval, Database.value_cons_self present]

section

variable {keys : RelationKeys} (symmetric : engine.Symmetric)
  (inStep : r.InStep engine db place row)
  (integral : keys.ownKey = r.model.primaryKey ∨ r.model.fields.get? keys.ownKey = some .integer)
  (alike : engine.ComparesAsRead (row.read keys.ownKey))

include symmetric inStep integral alike

theorem compare_ownKey (other : Value) :
    engine.compare .eq other (row.read keys.ownKey) =
      engine.compare .eq other (r.keyValue keys.ownKey) := by
  rw [keyValue_of_hydrated inStep.held integral, symmetric.compare, ← alike.compare,
    symmetric.compare]

end

section

variable {hop : JoinHop} {keys : RelationKeys} (present : db.row? (r.table, place) = some row)
  (same : ∀ v, engine.compare .eq v (row.read keys.ownKey) =
    engine.compare .eq v (r.keyValue keys.ownKey))
  (symmetric : engine.Symmetric) (made : RelationKeys.Hops keys hop) (source : keys.source = r.table)
  (distinct : r.table ∉ hop.tables)

include present same symmetric made source distinct

/-- At the row of the record, an equality of the join says what the record knows of it. -/
theorem truth_pinned (parts : Joined) {e : KeyEquality} (member : e ∈ hop.equalities) :
    e.condition.truth engine db ((r.table, place) :: parts) =
      (e.pinned r.table r.keyValue).truth engine db parts := by
  have differ {table : String} (listed : table ∈ hop.tables) : table ≠ r.table :=
    fun same => distinct (same ▸ listed)
  unfold RelationKeys.ownKey at same
  cases made with
  | toTarget kind =>
      simp only [kind, source] at same member
      obtain rfl := List.mem_singleton.mp member
      exact KeyEquality.truth_pinned_left present same symmetric
        (differ (List.mem_singleton_self _))
  | fromTarget kind =>
      have same : ∀ v, engine.compare .eq v (row.read keys.referencedKey) =
          engine.compare .eq v (r.keyValue keys.referencedKey) := by
        rcases kind with kind | kind <;> simpa only [kind] using same
      simp only [source] at member
      obtain rfl := List.mem_singleton.mp member
      exact KeyEquality.truth_pinned_right present same (differ (List.mem_singleton_self _))
  | @chained table kind through =>
      simp only [kind, source] at same member
      have between : table ≠ r.table := differ (by simp)
      have target : keys.target ≠ r.table := differ (by simp)
      rcases List.mem_pair.mp member with rfl | rfl
      · exact KeyEquality.truth_pinned_right present same between
      · exact KeyEquality.truth_pinned_elsewhere target between
  | @between table kind through =>
      have same : ∀ v, engine.compare .eq v (row.read keys.sourceId) =
          engine.compare .eq v (r.keyValue keys.sourceId) := by
        rcases kind with kind | kind <;> simpa only [kind] using same
      simp only [source] at member
      have between : table ≠ r.table := differ (by simp)
      have target : keys.target ≠ r.table := differ (by simp)
      rcases List.mem_pair.mp member with rfl | rfl
      · exact KeyEquality.truth_pinned_right present same between
      · exact KeyEquality.truth_pinned_elsewhere between target

/-- The joined rows of the record's row are those of the other tables by the keys that it holds. -/
theorem filter_matching_own (found : r.Finds engine db place) :
    (db.matching engine (r.table :: hop.tables)
        (Expr.conjAll? (hop.equalities.map KeyEquality.condition))).filter
          (db.satisfies engine (some (r.idCondition r.id))) =
      (db.matching engine hop.tables
        (Expr.conjAll? (hop.equalities.map fun e => e.pinned r.table r.keyValue))).map
          fun parts => (r.table, place) :: parts := by
  unfold Database.matching
  rw [List.filter_filter, Database.filter_joined_cons present]
  · congr 1
    refine List.filter_congr fun parts _ => ?_
    rw [Bool.eq_iff_iff, Bool.and_eq_true, Database.satisfies_conjAll?,
      Database.satisfies_conjAll?, List.forall_mem_map, List.forall_mem_map,
      and_iff_right ((found.satisfies_idCondition present parts).mpr rfl)]
    refine forall₂_congr fun e member => ?_
    rw [truth_pinned present same symmetric made source distinct parts member]
  · intro other parts holds
    obtain ⟨own, -⟩ := Bool.and_eq_true_iff.mp holds
    cases present : db.row? (r.table, other) with
    | none => exact .inr rfl
    | some row' => exact .inl ((found.satisfies_idCondition present parts).mp own)

end

/-! ## Statements that follow a relation -/

/-- The statement for the rows that a relation leads to: the columns of the target, where they stand
among those of a table between, and the equalities of the join with the keys of the record. -/
def following (r : Record) (keys : RelationKeys) (hop : JoinHop) : Select where
  returning := [.wildcard (if hop.tables = [keys.target] then none else some keys.target)]
  tables := hop.tables
  filter := Expr.conjAll? (hop.equalities.map fun e => e.pinned r.table r.keyValue)

theorem ofRows_of_atMostOne {model : Model} {kind : RelationKind} {rows : List Row}
    {found : Option Record} (single : atMostOne model kind rows = .ok found) :
    ofRows model rows = .ok found.toList := by
  unfold atMostOne at single
  split at single
  · cases single
  · rename_i few
    cases read : ofRows model rows with
    | error e =>
        rw [read] at single
        cases single
    | ok records =>
        rw [read] at single
        cases single
        have length := (forall₂_of_mapM_eq_ok read).length_eq
        match records with
        | [] | [_] => rfl
        | _ :: _ :: _ =>
            simp only [List.length_cons] at length
            omega

section

variable {σ : Type} [Connection σ] {registry : Registry} {kind : RelationKind} {target : String}
  {keys : RelationKeys} {m model : Model} {rows : List Row} {records : List Record} {c c' : σ}

private theorem directRows_eq_ok (declared : r.model.relationKeys kind target = .ok keys)
    (ran : (r.directRows registry kind target).runOn c = (.ok (m, rows), c')) :
    ∃ between, (registry.load target).runOn c = (.ok m, between) ∧
      (Connection.runQuery
        (rowsWhere m.table keys.foreignKey (r.keyValue keys.referencedKey))).runOn between =
          (.ok rows, c') := by
  unfold directRows at ran
  rw [declared] at ran
  obtain ⟨_, _, persisted, ran⟩ := Action.runOn_bind_eq_ok.mp ran
  obtain ⟨-, rfl⟩ := Prod.mk.inj ((Action.runOn_ofExcept _ _).symm.trans persisted)
  rw [Action.runOn_bind_ok (Action.runOn_ofExcept _ _)] at ran
  obtain ⟨m', between, loaded, ran⟩ := Action.runOn_bind_eq_ok.mp ran
  obtain ⟨rows', _, asked, returned⟩ := Action.runOn_bind_eq_ok.mp ran
  cases returned
  exact ⟨between, loaded, asked⟩

private theorem throughRows_eq_ok (declared : r.model.relationKeys kind target = .ok keys)
    (ran : (r.throughRows registry kind target).runOn c = (.ok (m, rows), c')) :
    ∃ through between, keys.throughTable = .ok through ∧
      (registry.load target).runOn c = (.ok m, between) ∧
      (Connection.runQuery {
        returning := [.wildcard (some m.table)]
        tables := [through, m.table]
        filter := some (.conj
          (.eq (.column (.of through keys.sourceKey)) (.value (r.keyValue keys.sourceId)))
          (reachesTarget keys through m.table)) }).runOn between = (.ok rows, c') := by
  unfold throughRows at ran
  rw [declared] at ran
  obtain ⟨_, _, persisted, ran⟩ := Action.runOn_bind_eq_ok.mp ran
  obtain ⟨-, rfl⟩ := Prod.mk.inj ((Action.runOn_ofExcept _ _).symm.trans persisted)
  rw [Action.runOn_bind_ok (Action.runOn_ofExcept _ _)] at ran
  obtain ⟨through, _, found, ran⟩ := Action.runOn_bind_eq_ok.mp ran
  obtain ⟨declares, rfl⟩ := Prod.mk.inj ((Action.runOn_ofExcept _ _).symm.trans found)
  obtain ⟨m', between, loaded, ran⟩ := Action.runOn_bind_eq_ok.mp ran
  obtain ⟨rows', _, asked, returned⟩ := Action.runOn_bind_eq_ok.mp ran
  cases returned
  exact ⟨through, between, declares, loaded, asked⟩

section

variable (named : m.table = keys.target) (source : keys.source = r.table)
  (apart : r.table ∉ keys.visited)

include named source apart

omit apart in
private theorem following_belongsTo (kind : keys.kind = .belongsTo) :
    ∃ hop, keys.hop = .ok hop ∧ r.following keys hop =
      rowsWhere m.table keys.referencedKey (r.keyValue keys.foreignKey) := by
  refine ⟨⟨keys.kind, [keys.target],
    [⟨.of keys.source keys.foreignKey, .of keys.target keys.referencedKey⟩]⟩, ?_, ?_⟩
  · unfold RelationKeys.hop
    rw [kind]
  · simp [rowsWhere, following, KeyEquality.pinned, ColumnRef.of, Expr.conjAll?, named, source]

theorem following_direct (kind : keys.kind = .hasOne ∨ keys.kind = .hasMany) :
    ∃ hop, keys.hop = .ok hop ∧ r.following keys hop =
      rowsWhere m.table keys.foreignKey (r.keyValue keys.referencedKey) := by
  have differ : keys.target ≠ r.table := by
    intro same
    refine apart ?_
    rw [RelationKeys.visited, ← same]
    rcases kind with kind | kind <;> rw [kind] <;> exact List.mem_singleton_self _
  refine ⟨⟨keys.kind, [keys.target],
    [⟨.of keys.target keys.foreignKey, .of keys.source keys.referencedKey⟩]⟩, ?_, ?_⟩
  · unfold RelationKeys.hop
    rcases kind with kind | kind <;> rw [kind]
  · simp [rowsWhere, following, KeyEquality.pinned, ColumnRef.of, Expr.conjAll?, named, source,
      differ]

theorem following_through (kind : keys.kind = .hasOneThrough ∨ keys.kind = .hasManyThrough ∨
      keys.kind = .hasAndBelongsToMany) {through : String} (found : keys.throughTable = .ok through) :
    ∃ hop, keys.hop = .ok hop ∧ r.following keys hop = {
      returning := [.wildcard (some m.table)]
      tables := [through, m.table]
      filter := some (.conj
        (.eq (.column (.of through keys.sourceKey)) (.value (r.keyValue keys.sourceId)))
        (reachesTarget keys through m.table)) } := by
  have visited : keys.visited = [through, keys.target] := by
    rw [RelationKeys.visited, RelationKeys.through_of_throughTable found]
    rcases kind with kind | kind | kind <;> rw [kind] <;> rfl
  rw [visited] at apart
  obtain ⟨between, target⟩ : through ≠ r.table ∧ keys.target ≠ r.table := by
    simp only [List.mem_cons, List.not_mem_nil, or_false, not_or] at apart
    exact ⟨Ne.symm apart.1, Ne.symm apart.2⟩
  rw [named]
  unfold RelationKeys.hop reachesTarget
  rcases kind with kind | kind | kind
  all_goals
    rw [kind, found]
    refine ⟨_, rfl, ?_⟩
    simp [following, KeyEquality.pinned, KeyEquality.condition, ColumnRef.of, Expr.conjAll?, source,
      between, target]

structure Follows (r : Record) (registry : Registry) (target : String) (keys : RelationKeys)
    (m : Model) (c c' : σ) (hop : JoinHop) (rows : List Row) (records : List Record) : Prop where
  made : keys.hop = .ok hop
  asked : (Connection.runQuery (r.following keys hop)).runOn
    ((registry.load target).runOn c).2 = (.ok rows, c')
  read : ofRows m rows = .ok records

variable (loads : ((registry.load target).runOn c).1 = .ok m)
  (declared : r.model.relationKeys kind target = .ok keys)

include loads declared

private theorem follows_of_directRows (direct : kind = .hasOne ∨ kind = .hasMany)
    (ran : (r.directRows registry kind target).runOn c = (.ok (model, rows), c'))
    (read : ofRows model rows = .ok records) :
    ∃ hop, r.Follows registry target keys m c c' hop rows records := by
  obtain ⟨between, loaded, asked⟩ := directRows_eq_ok declared ran
  obtain rfl : model = m := Except.ok.inj ((congrArg Prod.fst loaded).symm.trans loads)
  obtain ⟨kind', -, -⟩ := Model.relationKeys_eq_ok declared
  obtain ⟨hop, made, statement⟩ := following_direct named source apart (kind'.symm ▸ direct)
  refine ⟨hop, made, ?_, read⟩
  rw [statement, loaded]
  exact asked

private theorem follows_of_throughRows
    (indirect : kind = .hasOneThrough ∨ kind = .hasManyThrough ∨ kind = .hasAndBelongsToMany)
    (ran : (r.throughRows registry kind target).runOn c = (.ok (model, rows), c'))
    (read : ofRows model rows = .ok records) :
    ∃ hop, r.Follows registry target keys m c c' hop rows records := by
  obtain ⟨through, between, found, loaded, asked⟩ := throughRows_eq_ok declared ran
  obtain rfl : model = m := Except.ok.inj ((congrArg Prod.fst loaded).symm.trans loads)
  obtain ⟨kind', -, -⟩ := Model.relationKeys_eq_ok declared
  obtain ⟨hop, made, statement⟩ :=
    following_through named source apart (kind'.symm ▸ indirect) found
  refine ⟨hop, made, ?_, read⟩
  rw [statement, loaded]
  exact asked

omit apart in
/-- A record without a key belongs to none, and nothing is asked. -/
theorem follows_of_belongsTo (kind' : kind = .belongsTo) {found : Option Record}
    (ran : (r.belongsTo registry target).runOn c = (.ok found, c')) :
    (∃ hop, keys.hop = .ok hop) ∧ r.keyValue keys.foreignKey = .null ∧ found = none ∨
      ∃ hop rows, r.Follows registry target keys m c c' hop rows found.toList := by
  subst kind'
  obtain ⟨kind', -, -⟩ := Model.relationKeys_eq_ok declared
  obtain ⟨hop, made, statement⟩ := following_belongsTo (r := r) named source kind'
  unfold belongsTo at ran
  rw [declared] at ran
  obtain ⟨_, _, persisted, ran⟩ := Action.runOn_bind_eq_ok.mp ran
  obtain ⟨-, rfl⟩ := Prod.mk.inj ((Action.runOn_ofExcept _ _).symm.trans persisted)
  rw [Action.runOn_bind_ok (Action.runOn_ofExcept _ _)] at ran
  dsimp only at ran
  cases held : (r.keyValue keys.foreignKey).isNull with
  | true =>
      rw [held] at ran
      cases ran
      refine .inl ⟨⟨hop, made⟩, ?_, rfl⟩
      cases key : r.keyValue keys.foreignKey with
      | null => rfl
      | _ =>
          rw [key] at held
          cases held
  | false =>
      rw [held] at ran
      obtain ⟨model, between, loaded, ran⟩ := Action.runOn_bind_eq_ok.mp ran
      obtain rfl : model = m := Except.ok.inj ((congrArg Prod.fst loaded).symm.trans loads)
      obtain ⟨rows, _, asked, ran⟩ := Action.runOn_bind_eq_ok.mp ran
      obtain ⟨single, rfl⟩ := Prod.mk.inj ((Action.runOn_ofExcept _ _).symm.trans ran)
      refine .inr ⟨hop, rows, made, ?_, ofRows_of_atMostOne single⟩
      rw [statement, loaded]
      exact asked

/-- Whatever its kind, a relation is followed by the statement of its keys. -/
theorem follows_of_related
    (ran : (r.related registry target (some kind)).runOn c = (.ok records, c')) :
    (kind = .belongsTo ∧ (∃ hop, keys.hop = .ok hop) ∧ r.keyValue keys.foreignKey = .null ∧
        records = []) ∨
      ∃ hop rows, r.Follows registry target keys m c c' hop rows records := by
  unfold related at ran
  simp only [pure_bind] at ran
  cases kind with
  | belongsTo =>
      obtain ⟨found, _, ran, returned⟩ := Action.runOn_bind_eq_ok.mp ran
      cases returned
      rcases follows_of_belongsTo named source loads declared rfl ran with
        ⟨made, absent, rfl⟩ | follows
      · exact .inl ⟨rfl, made, absent, rfl⟩
      · exact .inr follows
  | hasOne =>
      obtain ⟨found, _, ran, returned⟩ := Action.runOn_bind_eq_ok.mp ran
      cases returned
      obtain ⟨⟨model, rows⟩, _, asked, ran⟩ := Action.runOn_bind_eq_ok.mp ran
      obtain ⟨single, rfl⟩ := Prod.mk.inj ((Action.runOn_ofExcept _ _).symm.trans ran)
      exact .inr ((follows_of_directRows named source apart loads declared (.inl rfl) asked
        (ofRows_of_atMostOne single)).imp fun hop follows => ⟨rows, follows⟩)
  | hasMany =>
      obtain ⟨⟨model, rows⟩, _, asked, ran⟩ := Action.runOn_bind_eq_ok.mp ran
      obtain ⟨read, rfl⟩ := Prod.mk.inj ((Action.runOn_ofExcept _ _).symm.trans ran)
      exact .inr ((follows_of_directRows named source apart loads declared (.inr rfl) asked read).imp
        fun hop follows => ⟨rows, follows⟩)
  | hasOneThrough =>
      obtain ⟨found, _, ran, returned⟩ := Action.runOn_bind_eq_ok.mp ran
      cases returned
      obtain ⟨⟨model, rows⟩, _, asked, ran⟩ := Action.runOn_bind_eq_ok.mp ran
      obtain ⟨single, rfl⟩ := Prod.mk.inj ((Action.runOn_ofExcept _ _).symm.trans ran)
      exact .inr ((follows_of_throughRows named source apart loads declared (.inl rfl) asked
        (ofRows_of_atMostOne single)).imp fun hop follows => ⟨rows, follows⟩)
  | hasManyThrough =>
      obtain ⟨⟨model, rows⟩, _, asked, ran⟩ := Action.runOn_bind_eq_ok.mp ran
      obtain ⟨read, rfl⟩ := Prod.mk.inj ((Action.runOn_ofExcept _ _).symm.trans ran)
      exact .inr ((follows_of_throughRows named source apart loads declared (.inr (.inl rfl)) asked
        read).imp fun hop follows => ⟨rows, follows⟩)
  | hasAndBelongsToMany =>
      obtain ⟨⟨model, rows⟩, _, asked, ran⟩ := Action.runOn_bind_eq_ok.mp ran
      obtain ⟨read, rfl⟩ := Prod.mk.inj ((Action.runOn_ofExcept _ _).symm.trans ran)
      exact .inr ((follows_of_throughRows named source apart loads declared (.inr (.inr rfl)) asked
        read).imp fun hop follows => ⟨rows, follows⟩)

end

end

private theorem mem_tables {keys : RelationKeys} {hop : JoinHop} (made : RelationKeys.Hops keys hop)
    {table : String} (member : table ∈ hop.tables) : table ∈ keys.through ∨ table = keys.target := by
  cases made with
  | toTarget | fromTarget => exact .inr (List.mem_singleton.mp member)
  | chained _ through | between _ through =>
      rcases List.mem_pair.mp member with rfl | rfl
      · exact .inl through
      · exact .inr rfl

theorem target_mem_tables {keys : RelationKeys} {hop : JoinHop} (made : RelationKeys.Hops keys hop) :
    keys.target ∈ hop.tables := by
  cases made <;> simp

/-- A record without a key is joined to nothing. -/
theorem matching_of_null_key {keys : RelationKeys} {hop : JoinHop}
    (made : RelationKeys.Hops keys hop) (source : keys.source = r.table)
    (kind : keys.kind = .belongsTo) (absent : r.keyValue keys.foreignKey = .null) :
    db.matching engine hop.tables
      (Expr.conjAll? (hop.equalities.map fun e => e.pinned r.table r.keyValue)) = [] := by
  refine List.filter_eq_nil_iff.mpr fun parts _ holds => ?_
  rw [Database.satisfies_conjAll?, List.forall_mem_map] at holds
  cases made with
  | toTarget =>
      have holds := holds _ (List.mem_singleton_self _)
      simp only [KeyEquality.pinned, ColumnRef.of, source, if_true, Expr.truth_eq, Expr.eval, absent]
        at holds
      generalize db.value parts _ = v at holds
      cases v <;> cases holds
  | fromTarget other =>
      rcases other with other | other <;> cases kind.symm.trans other
  | chained other => cases kind.symm.trans other
  | between other =>
      rcases other with other | other <;> cases kind.symm.trans other

/-- What a statement that follows a relation is answered: the target rows of the joined rows that have
the keys of the record. -/
theorem answer_following {output : Output} {keys : RelationKeys} {hop : JoinHop}
    (made : RelationKeys.Hops keys hop) (distinct : hop.tables.Nodup) :
    ((r.following keys hop).answer engine output db).Perm
      ((db.matching engine hop.tables
        (Expr.conjAll? (hop.equalities.map fun e => e.pinned r.table r.keyValue))).map
          (db.rowOf keys.target)) := by
  unfold following
  by_cases direct : hop.tables = [keys.target]
  · rw [if_pos direct, direct]
    refine Select.answer_of_table.trans (.of_eq (List.map_congr_left fun parts matched => ?_))
    obtain ⟨place, row, rfl, present, -⟩ := Database.mem_matching_single.mp matched
    simp [Database.rowOf, present]
  · rw [if_neg direct]
    refine Select.answer_of_wildcard distinct ?_
    cases made with
    | toTarget | fromTarget => exact absurd rfl direct
    | chained | between => simp

section

variable {σ : Type} [Connection σ] {output : Output} {key : String → String} {held : σ → Database}
  {registry : Registry} {kind : RelationKind} {target : String} {keys : RelationKeys} {m : Model}
  {records : List Record} {c c' : σ}

structure Knows (r : Record) (registry : Registry) (c : σ) (keys : RelationKeys) (m : Model) :
    Prop where
  own : Scope.Lists registry c r.table ⟨some r.model, r.model.columns⟩
  target : Scope.Lists registry c keys.target ⟨some m, m.columns⟩
  named : m.table = keys.target
  through : ∀ table ∈ keys.through, ∃ entry, Scope.Lists registry c table entry

private theorem load_of_lists {columns : List String}
    (lists : Scope.Lists registry c (Name.normalize target) ⟨some m, columns⟩) :
    ((registry.load target).runOn c).1 = .ok m := by
  have same : (registry.load (Name.normalize target) : Action σ Model) = registry.load target := by
    unfold Registry.load
    rw [Name.normalize_normalize]
  have ran : (Scope.entry registry (Name.normalize target)).runOn c = (.ok ⟨some m, columns⟩, _) :=
    Prod.ext lists rfl
  obtain ⟨model, _, loaded, ran⟩ := Action.runOn_bind_eq_ok.mp ran
  have model : model = some m := by
    cases model with
    | none =>
        obtain ⟨_, _, _, returned⟩ := Action.runOn_bind_eq_ok.mp ran
        exact congrArg ScopeTable.model (Except.ok.inj (congrArg Prod.fst returned))
    | some m' => exact congrArg ScopeTable.model (Except.ok.inj (congrArg Prod.fst ran))
  subst model
  unfold Registry.load? at loaded
  split at loaded
  · obtain ⟨m', _, loaded, returned⟩ := Action.runOn_bind_eq_ok.mp loaded
    cases returned
    rw [← same, loaded]
  · cases loaded

/-- The target rows to which the record's row is joined. -/
theorem exists_joined (law : Connection.Executes σ engine output key held)
    (symmetric : engine.Symmetric) (only : r.model.onlyKind target = .ok kind)
    (declared : r.model.relationKeys kind target = .ok keys) {hop : JoinHop}
    (resolved : keys.hop = .ok hop) (distinct : (r.table :: hop.tables).Nodup)
    (known : r.Knows registry c keys m) (inStep : r.InStep engine (held c) place row)
    (integral : keys.ownKey = r.model.primaryKey ∨ r.model.fields.get? keys.ownKey = some .integer)
    (alike : engine.ComparesAsRead (row.read keys.ownKey)) (d : Dialect) :
    ∃ scope s,
      ((((Query.ofTable r.table none).join target).scope registry).runOn c).1 = .ok scope ∧
      ((Query.ofTable r.table none).join target).compileSelect d scope = .ok s ∧
      ((s.reads engine (held c)).filter
        ((held c).satisfies engine (some (r.idCondition r.id)))).map ((held c).rowOf keys.target) =
          ((held c).matching engine hop.tables
            (Expr.conjAll? (hop.equalities.map fun e => e.pinned r.table r.keyValue))).map
              ((held c).rowOf keys.target) := by
  obtain ⟨-, source, -⟩ := Model.relationKeys_eq_ok declared
  have apart := (List.nodup_cons.mp distinct).1
  have made := RelationKeys.hops_of_hop resolved
  have hops : r.model.hopTo (Name.normalize target) = .ok hop :=
    Model.hopTo_normalize.trans (Model.hopTo_of_keys only declared resolved)
  have listed : ∀ table ∈ hop.tables, ∃ entry, Scope.Lists registry c table entry := by
    intro table member
    rcases mem_tables made member with through | rfl
    · exact known.through table through
    · exact ⟨_, known.target⟩
  obtain ⟨scope, _, built, names, equalities, columns⟩ :=
    Scope.exists_build_of_hop law known.own rfl hops listed
  rw [addNew_of_nodup distinct, List.nil_append] at names
  have first : scope.primary = r.table := by
    rw [Scope.primary, names]
    rfl
  have listed : scope.columns r.table ≠ [] := by
    rw [columns]
    exact List.cons_ne_nil _ _
  obtain ⟨s, compiled, from', filter⟩ :
      ∃ s, ((Query.ofTable r.table none).join target).compileSelect d scope = .ok s ∧
        s.tables = scope.tableNames ∧
        s.filter = Expr.conjAll? (scope.equalities.map KeyEquality.condition) :=
    Query.exists_compileSelect_of_joins d first listed
  refine ⟨scope, s, congrArg Prod.fst built, compiled, ?_⟩
  have differ : keys.target ≠ r.table := fun same => apart (same ▸ target_mem_tables made)
  rw [Select.reads, from', filter, names, equalities,
    filter_matching_own inStep.present (compare_ownKey symmetric inStep integral alike) symmetric
      made source apart inStep.found, List.map_map]
  exact List.map_congr_left fun parts _ => Database.rowOf_cons_of_ne differ place parts

/-- A record whose row has no key knows that it has none. -/
theorem keyValue_eq_null (inStep : r.InStep engine db place row)
    (integral : keys.ownKey = r.model.primaryKey ∨ r.model.fields.get? keys.ownKey = some .integer)
    (belongs : keys.kind = .belongsTo) (absent : row.read keys.foreignKey = .null) :
    r.keyValue keys.foreignKey = .null := by
  have own : keys.ownKey = keys.foreignKey := by
    rw [RelationKeys.ownKey, belongs]
  rw [← own] at absent ⊢
  rw [keyValue_of_hydrated inStep.held integral, absent, FieldType.fromDatabase_null]

/-- Following a relation of a record gives the target rows that the join of its table gives at the
record's row, as often as they are joined to it. -/
theorem related_perm_joined (law : Connection.Executes σ engine output key held)
    (symmetric : engine.Symmetric) (only : r.model.onlyKind target = .ok kind)
    (declared : r.model.relationKeys kind target = .ok keys)
    (distinct : (r.table :: keys.visited).Nodup) (known : r.Knows registry c keys m)
    (inStep : r.InStep engine (held c) place row)
    (integral : keys.ownKey = r.model.primaryKey ∨ r.model.fields.get? keys.ownKey = some .integer)
    (alike : engine.ComparesAsRead (row.read keys.ownKey))
    (ran : (r.related registry target (some kind)).runOn c = (.ok records, c')) (d : Dialect) :
    ∃ scope s rows,
      ((((Query.ofTable r.table none).join target).scope registry).runOn c).1 = .ok scope ∧
      ((Query.ofTable r.table none).join target).compileSelect d scope = .ok s ∧
      ofRows m rows = .ok records ∧
      rows.Perm (((s.reads engine (held c)).filter
        ((held c).satisfies engine (some (r.idCondition r.id)))).map ((held c).rowOf keys.target)) ∧
      (kind = .belongsTo → row.read keys.foreignKey = .null → rows = []) := by
  obtain ⟨named, source, goal⟩ := Model.relationKeys_eq_ok declared
  have loads : ((registry.load target).runOn c).1 = .ok m := load_of_lists (goal ▸ known.target)
  have follows := follows_of_related known.named source (List.nodup_cons.mp distinct).1 loads
    declared ran
  obtain ⟨hop, resolved⟩ : ∃ hop, keys.hop = .ok hop := by
    rcases follows with ⟨_, made, _, _⟩ | ⟨hop, _, follows⟩
    · exact made
    · exact ⟨hop, follows.made⟩
  have made := RelationKeys.hops_of_hop resolved
  rw [← made.visited] at distinct
  obtain ⟨scope, s, built, compiled, joined⟩ := exists_joined law symmetric only declared resolved
    distinct known inStep integral alike d
  have none' (belongs : kind = .belongsTo) (absent : r.keyValue keys.foreignKey = .null) :
      ((held c).matching engine hop.tables
        (Expr.conjAll? (hop.equalities.map fun e => e.pinned r.table r.keyValue))).map
          ((held c).rowOf keys.target) = [] := by
    rw [matching_of_null_key made source (named.trans belongs) absent, List.map_nil]
  refine ⟨scope, s, ?_⟩
  rcases follows with ⟨belongs, -, absent, rfl⟩ | ⟨hop', rows', follows⟩
  · refine ⟨[], built, compiled, rfl, ?_, fun _ _ => rfl⟩
    rw [joined, none' belongs absent]
  · cases resolved.symm.trans follows.made
    obtain ⟨answered, -⟩ := law.runQuery follows.asked
    have kept := Registry.keeps_load law.tableExists law.columnsOfTable registry target c
    rw [kept] at answered
    have same : rows'.Perm _ := answered ▸ answer_following made (List.nodup_cons.mp distinct).2
    refine ⟨rows', built, compiled, follows.read, joined ▸ same, ?_⟩
    intro belongs absent
    rw [none' belongs (keyValue_eq_null inStep integral (named.trans belongs) absent)] at same
    exact same.eq_nil

end

end Record

/-! ## The purchases of a customer -/

private theorem Value.same_comm (left right : Value) : left.same right = right.same left := by
  cases left <;> cases right <;>
    simp [Value.same, Binary64.sameNumber, BEq.comm, Bool.and_comm]

theorem Example.symmetric_numeric : Example.numeric.Symmetric := by
  have plain (left right : Value) :
      Example.engine.compares .eq left right = Example.engine.compares .eq right left :=
    Value.same_comm left right
  intro left right
  unfold Example.numeric
  dsimp only
  cases left.number? <;> cases right.number? <;> exact plain _ _

def Example.Shop.firstCustomer : Record := { Record.ofModel (model "customer") with id := 1 }

theorem Example.Shop.firstCustomer_inStep :
    firstCustomer.InStep numeric rows 0 (.ofList [("id", .int 1)]) where
  present := rfl
  held := rfl
  found {other row'} present := by
    match other with
    | 0 =>
        cases present
        decide
    | 1 =>
        cases present
        decide
    | _ + 2 => cases present

def Example.Shop.purchaseKeys : RelationKeys where
  kind := .hasMany
  source := "customer"
  target := "purchase"
  foreignKey := "customer_id"
  referencedKey := "id"
  sourceId := "id"
  throughId := "id"
  targetId := "id"

private theorem Example.Shop.firstCustomer_knows :
    firstCustomer.Knows registry store purchaseKeys (model "purchase") where
  own := rfl
  target := rfl
  named := rfl
  through := nofun

open Example in
theorem Record.related_perm_joined_purchases :
    ∃ records c' scope s rows,
      Shop.firstCustomer.model.onlyKind "purchase" = .ok .hasMany ∧
      Shop.firstCustomer.model.relationKeys .hasMany "purchase" = .ok Shop.purchaseKeys ∧
      (Shop.firstCustomer.related Shop.registry "purchase" (some .hasMany)).runOn Shop.store =
        (.ok records, c') ∧
      records.length = 2 ∧
      ((((Query.ofTable "customer" none).join "purchase").scope Shop.registry).runOn Shop.store).1 =
        .ok scope ∧
      ((Query.ofTable "customer" none).join "purchase").compileSelect .postgresql scope = .ok s ∧
      ofRows (Shop.model "purchase") rows = .ok records ∧
      rows.Perm (((s.reads numeric Shop.rows).filter
        (Shop.rows.satisfies numeric (some (Shop.firstCustomer.idCondition 1)))).map
          (Shop.rows.rowOf "purchase")) := by
  have only : Shop.firstCustomer.model.onlyKind "purchase" = .ok .hasMany := by decide +kernel
  have declared : Shop.firstCustomer.model.relationKeys .hasMany "purchase" =
      .ok Shop.purchaseKeys := by
    decide +kernel
  have distinct : ("customer" :: Shop.purchaseKeys.visited).Nodup := by decide +kernel
  have alike : numeric.ComparesAsRead (.int 1) := fun n read other => by cases read; rfl
  have runs : ((Shop.firstCustomer.related Shop.registry "purchase" (some .hasMany)).runOn
      Shop.store).1.toOption.map List.length = some 2 := by
    decide +kernel
  obtain ⟨records, c', ran, length⟩ := Action.exists_of_map_toOption runs
  obtain ⟨scope, s, rows, built, compiled, read, same, -⟩ :=
    related_perm_joined Memory.executes symmetric_numeric only declared distinct
      Shop.firstCustomer_knows Shop.firstCustomer_inStep (.inl rfl) alike ran .postgresql
  exact ⟨records, c', scope, s, rows, only, declared, ran, length, built, compiled, read, same⟩

end RecordMapper
