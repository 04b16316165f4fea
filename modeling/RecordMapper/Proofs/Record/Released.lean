import RecordMapper.Proofs.Record.Unlinking

/-!
The rows that hold the links of two records. Taking the links away changes these rows or deletes
them, and none of them holds a link of other records.
-/

set_option autoImplicit false

namespace RecordMapper

/-! ## Rows that hold a link -/

namespace RelationKeys

variable (keys : RelationKeys) (source target : String)

def foreignKeys : List (String × String) :=
  let between := keys.through.getD ""
  match keys.kind with
  | .belongsTo => [(source, keys.foreignKey)]
  | .hasOne | .hasMany => [(target, keys.foreignKey)]
  | .hasOneThrough => [(between, keys.sourceKey), (target, keys.targetKey)]
  | .hasManyThrough | .hasAndBelongsToMany => [(between, keys.sourceKey), (between, keys.targetKey)]

/-- The table whose rows are changed or deleted to take links away. -/
def holder : String :=
  match keys.kind with
  | .belongsTo => source
  | .hasOne | .hasMany | .hasOneThrough => target
  | .hasManyThrough | .hasAndBelongsToMany => keys.through.getD ""

variable {keys source target}

theorem foreignKeys_between (kind : keys.kind = .hasManyThrough ∨ keys.kind = .hasAndBelongsToMany)
    {through : String} (named : keys.through = some through) :
    keys.foreignKeys source target =
      [(through, keys.sourceKey), (through, keys.targetKey)] := by
  rcases kind with kind | kind <;> rw [foreignKeys, kind, named] <;> rfl

theorem holder_source (kind : keys.kind = .belongsTo) : keys.holder source target = source := by
  rw [holder, kind]

theorem holder_target
    (kind : keys.kind = .hasOne ∨ keys.kind = .hasMany ∨ keys.kind = .hasOneThrough) :
    keys.holder source target = target := by
  rcases kind with kind | kind | kind <;> rw [holder, kind]

theorem holder_between (kind : keys.kind = .hasManyThrough ∨ keys.kind = .hasAndBelongsToMany)
    {through : String} (named : keys.through = some through) :
    keys.holder source target = through := by
  rcases kind with kind | kind <;> rw [holder, kind, named] <;> rfl

end RelationKeys

namespace Database

structure Readable (db : Database) (keys : RelationKeys) (source target : Model) : Prop where
  fits : keys.Fits source target
  refers : ∀ column ∈ keys.foreignKeys source.table target.table, db.Refers column.1 column.2
  through : ∀ through, keys.kind = .hasOneThrough → keys.through = some through →
    db.Refers through keys.throughId
  target : db.Refers target.table target.primaryKey
  source : db.Refers source.table source.primaryKey

structure Relates (db : Database) (keys : RelationKeys) (source target : Model) : Prop where
  fits : keys.Fits source target
  refers : ∀ column ∈ keys.foreignKeys source.table target.table, db.Refers column.1 column.2
  through : ∀ through, keys.kind = .hasOneThrough → keys.through = some through →
    db.Keyed through keys.throughId
  target : db.Keyed target.table target.primaryKey
  source : db.Keyed source.table source.primaryKey

/-- A row of the table of the links that holds the one between two numbers. -/
def Holds (db : Database) (keys : RelationKeys) (source target : Model) (m n : Int64) (row : Row) :
    Prop :=
  match keys.kind with
  | .belongsTo => (row.read source.primaryKey).number? = some m ∧
      (row.read keys.foreignKey).number? = some n
  | .hasOne | .hasMany => (row.read keys.foreignKey).number? = some m ∧
      (row.read target.primaryKey).number? = some n
  | .hasOneThrough => (∃ place between k, db.row? (keys.through.getD "", place) = some between ∧
      (between.read keys.sourceKey).number? = some m ∧
      (between.read keys.throughId).number? = some k ∧ (row.read keys.targetKey).number? = some k) ∧
      (row.read target.primaryKey).number? = some n
  | .hasManyThrough | .hasAndBelongsToMany => (row.read keys.sourceKey).number? = some m ∧
      (row.read keys.targetKey).number? = some n

variable {engine : Engine} {db db' : Database} {keys : RelationKeys} {source target : Model}

theorem Relates.readable (relates : db.Relates keys source target) :
    db.Readable keys source target where
  fits := relates.fits
  source := relates.source.refers
  target := relates.target.refers
  through through kind named := (relates.through through kind named).refers
  refers := relates.refers

private theorem Readable.deleted {d : Dialect} {s : Delete}
    (readable : db.Readable keys source target) :
    (db.deleted engine d s).Readable keys source target := by
  have refers {table column : String} (refers : db.Refers table column) :
      (db.deleted engine d s).Refers table column := by
    intro place row present
    obtain ⟨place', present', -⟩ := exists_of_row?_deleted present
    exact refers present'
  exact ⟨readable.fits, fun column listed => refers (readable.refers column listed),
    fun through kind named => refers (readable.through through kind named),
    refers readable.target, refers readable.source⟩

private theorem Relates.holds_unique (relates : db.Relates keys source target) {m n m' n' : Int64}
    {row : Row} (holds : db.Holds keys source target m n row)
    (holds' : db.Holds keys source target m' n' row) : m = m' ∧ n = n' := by
  have same {column : String} {k k' : Int64} (number : (row.read column).number? = some k)
      (number' : (row.read column).number? = some k') : k = k' :=
    Option.some.inj (number.symm.trans number')
  unfold Holds at holds holds'
  cases kind : keys.kind with
  | hasOneThrough =>
      rw [kind] at holds holds'
      obtain ⟨⟨place, between, k, present, sourced, number, reached⟩, targeted⟩ := holds
      obtain ⟨⟨place', between', k', present', sourced', number', reached'⟩, targeted'⟩ := holds'
      obtain ⟨through, named⟩ : ∃ through, keys.through = some through := by
        cases relates.fits with
        | hasOneThrough _ through named => exact ⟨through, named⟩
        | hasManyThrough other => simp [kind] at other
        | belongsTo other => simp [kind] at other
        | hasMany other => simp [kind] at other
        | hasAndBelongsToMany other => simp [kind] at other
      rw [named, Option.getD_some] at present present'
      obtain rfl := same reached reached'
      obtain rfl := (relates.through through kind named).unique present present' number number'
      obtain rfl := Option.some.inj (present.symm.trans present')
      exact ⟨Option.some.inj (sourced.symm.trans sourced'), same targeted targeted'⟩
  | _ =>
      rw [kind] at holds holds'
      exact ⟨same holds.1 holds'.1, same holds.2 holds'.2⟩

variable (numbers : engine.ComparesNumbers) {r o : Record} {rows : List Joined} {parts : Joined}

include numbers

/-- Joined rows that link two records have one row of the table of the links, which holds theirs. -/
theorem Readable.exists_of_mem (readable : db.Readable keys r.model o.model)
    (links : Record.linkingRows engine db r o keys = .ok rows) (member : parts ∈ rows) :
    ∃ place row, db.row? (keys.holder r.table o.table, place) = some row ∧
      db.Holds keys r.model o.model r.id o.id row ∧
      ∀ part ∈ parts, part.1 = keys.holder r.table o.table →
        part = (keys.holder r.table o.table, place) := by
  have refers {table column : String}
      (listed : (table, column) ∈ keys.foreignKeys r.table o.table) : db.Refers table column :=
    readable.refers (table, column) listed
  cases readable.fits with
  | belongsTo kind referenced =>
      rw [Record.linkingRows_belongsTo kind referenced] at links
      cases links
      obtain ⟨place, row, rfl, present, holds, number⟩ := (mem_matching_pair_iff numbers
        (refers (by simp [RelationKeys.foreignKeys, Record.table, kind])) readable.source).mp member
      rw [RelationKeys.holder_source kind]
      refine ⟨place, row, present, ?_, by simp⟩
      rw [Holds, kind]
      exact ⟨number, holds⟩
  | hasMany kind referenced =>
      rw [Record.linkingRows_hasMany kind referenced] at links
      cases links
      obtain ⟨place, row, rfl, present, holds, number⟩ := (mem_matching_pair_iff numbers
        (refers (by
          rcases kind with kind | kind <;> simp [RelationKeys.foreignKeys, Record.table, kind]))
        readable.target).mp member
      rw [RelationKeys.holder_target (kind.imp_right .inl)]
      refine ⟨place, row, present, ?_, by simp⟩
      rcases kind with kind | kind
      all_goals
        rw [Holds, kind]
        exact ⟨holds, number⟩
  | hasOneThrough kind through named apart sourceId targetId =>
      rw [Record.linkingRows_through (.inl kind) named sourceId targetId, Record.reachesTarget,
        kind] at links
      cases links
      obtain ⟨p₁, p₂, p₃, r₁, r₂, r₃, rfl, -, second, third, -, sourced, ⟨k, reached, number⟩,
        targeted⟩ := (mem_matching_chained_iff numbers apart readable.source
          (refers (by simp [RelationKeys.foreignKeys, kind, named])) readable.target
          fun first second third => reaches_held_iff numbers apart
            (refers (by simp [RelationKeys.foreignKeys, Record.table, kind]))
            (readable.through through kind named) first second third).mp member
      rw [RelationKeys.holder_target (.inr (.inr kind))]
      refine ⟨p₃, r₃, third, ?_, ?_⟩
      · rw [Holds, kind, named]
        exact ⟨⟨p₂, r₂, k, second, sourced, number, reached⟩, targeted⟩
      · simp only [List.nodup_cons, List.mem_cons] at apart
        simp only [List.mem_cons, forall_eq_or_imp]
        unfold Record.table
        tauto
  | hasManyThrough kind through named apart sourceId targetId =>
      rw [Record.linkingRows_through (.inr kind) named sourceId targetId, Record.reachesTarget,
        kind] at links
      cases links
      obtain ⟨p₁, p₂, p₃, r₁, r₂, r₃, rfl, -, second, third, -, sourced, ⟨k, reached, number⟩,
        targeted⟩ := (mem_matching_chained_iff numbers apart readable.source
          (refers (by simp [RelationKeys.foreignKeys, kind, named])) readable.target
          fun first second third => reaches_pair_iff numbers apart
            (refers (by simp [RelationKeys.foreignKeys, kind, named]))
            (targetId ▸ readable.target) first second third).mp member
      rw [RelationKeys.holder_between (.inl kind) named]
      refine ⟨p₂, r₂, second, ?_, ?_⟩
      · rw [Holds, kind]
        refine ⟨sourced, reached.trans ?_⟩
        rw [← number, ← targeted, targetId]
      · simp only [List.nodup_cons, List.mem_cons] at apart
        simp only [List.mem_cons, forall_eq_or_imp]
        tauto
  | hasAndBelongsToMany kind join named apart sourceId targetId =>
      rw [Record.linkingRows_hasAndBelongsToMany kind named sourceId targetId] at links
      cases links
      obtain ⟨place, row, rfl, present, sourced, targeted⟩ := (mem_matching_pair_iff numbers
        (refers (by simp [RelationKeys.foreignKeys_between (.inr kind) named]))
        (refers (by simp [RelationKeys.foreignKeys_between (.inr kind) named]))).mp member
      rw [RelationKeys.holder_between (.inr kind) named]
      refine ⟨place, row, present, ?_, by simp⟩
      rw [Holds, kind]
      exact ⟨sourced, targeted⟩

/-- The rows of a table between that hold two numbers hold the link between them. -/
theorem mem_matching_holds_iff
    (kind : keys.kind = .hasManyThrough ∨ keys.kind = .hasAndBelongsToMany)
    {through : String} (named : keys.through = some through)
    (refers : ∀ column ∈ keys.foreignKeys source.table target.table, db.Refers column.1 column.2)
    (m n : Int64) (parts : Joined) :
    parts ∈ db.matching engine [through] (some (.conj
        (.eq (.column (.of through keys.sourceKey)) (.value (.int m)))
        (.eq (.column (.of through keys.targetKey)) (.value (.int n))))) ↔
      ∃ place row, parts = [(through, place)] ∧ db.row? (through, place) = some row ∧
        db.Holds keys source target m n row := by
  rw [RelationKeys.foreignKeys_between kind named, List.forall_mem_cons,
    List.forall_mem_singleton] at refers
  refine (mem_matching_pair_iff numbers refers.1 refers.2).trans ?_
  unfold Holds
  rcases kind with kind | kind
  all_goals
    rw [kind]

end Database

/-! ## Taking links away -/

namespace Record

variable {engine : Engine} {db db' : Database} {r other : Record} {keys : RelationKeys}

theorem exists_linkingRows (fits : keys.Fits r.model other.model) (engine : Engine)
    (db : Database) : ∃ rows, linkingRows engine db r other keys = .ok rows := by
  cases fits with
  | belongsTo kind referenced => exact ⟨_, linkingRows_belongsTo kind referenced⟩
  | hasMany kind referenced => exact ⟨_, linkingRows_hasMany kind referenced⟩
  | hasOneThrough kind through named apart sourceId targetId =>
      exact ⟨_, linkingRows_through (.inl kind) named sourceId targetId⟩
  | hasManyThrough kind through named apart sourceId targetId =>
      exact ⟨_, linkingRows_through (.inr kind) named sourceId targetId⟩
  | hasAndBelongsToMany kind join named apart sourceId targetId =>
      exact ⟨_, linkingRows_hasAndBelongsToMany kind named sourceId targetId⟩

private theorem exists_linkingRows_of_spares {lost : String × Nat → Prop}
    (spares : db.Spares lost db')
    {rows : List Joined} (links : linkingRows engine db r other keys = .ok rows)
    (safe : ∀ parts ∈ rows, ∀ part ∈ parts, ¬lost part) :
    ∃ rows', linkingRows engine db' r other keys = .ok rows' ∧ rows.length ≤ rows'.length := by
  obtain ⟨query, asked, returned⟩ := bind_eq_ok.mp links
  obtain rfl := Except.ok.inj returned
  obtain ⟨tables, conditions, compare, rfl⟩ := linkQuery_eq_ok asked
  exact ⟨_, bind_eq_ok.mpr ⟨_, asked, rfl⟩, spares.length_matching_le compare safe⟩

end Record

namespace Linking

variable {σ : Type}

def Holding (keys : RelationKeys) (db : Database) (l : Linking σ) (part : String × Nat) : Prop :=
  part.1 = keys.holder l.source.table l.target.table ∧ ∃ row, db.row? part = some row ∧
    db.Holds keys l.source.model l.target.model l.source.id l.target.id row

/-- A change that takes the links of two records away, and leaves all rows but those that hold them.
No row of the tables of the records is deleted. -/
structure Frees (engine : Engine) (keys : RelationKeys) (l : Linking σ) (db db' : Database) :
    Prop where
  unlinked : Record.linkingRows engine db' l.source l.target keys = .ok []
  spares : db.Spares (l.Holding keys db) db'
  stays : ∀ part, part.1 = l.source.table ∨ part.1 = l.target.table → (db.row? part).isSome →
    (db'.row? part).isSome

section

variable {engine : Engine} (numbers : engine.ComparesNumbers) {keys : RelationKeys}
  {db db' : Database} {l : Linking σ}
  (relates : db.Relates keys l.source.model l.target.model)

include numbers relates

theorem exists_linkingRows_of_other (spares : db.Spares (l.Holding keys db) db') {r o : Record}
    (source : r.model = l.source.model) (target : o.model = l.target.model)
    (other : r.id ≠ l.source.id ∨ o.id ≠ l.target.id) :
    ∃ rows rows', Record.linkingRows engine db r o keys = .ok rows ∧
      Record.linkingRows engine db' r o keys = .ok rows' ∧ rows.length ≤ rows'.length := by
  have readable : db.Readable keys r.model o.model := by
    rw [source, target]
    exact relates.readable
  obtain ⟨rows, links⟩ := Record.exists_linkingRows readable.fits engine db
  have safe : ∀ parts ∈ rows, ∀ part ∈ parts, ¬l.Holding keys db part := by
    rintro parts member part inside ⟨here, row, present, holds⟩
    obtain ⟨place, row', present', holds', only⟩ := readable.exists_of_mem numbers links member
    unfold Record.table at only present'
    rw [source, target] at only holds' present'
    obtain rfl := only part inside here
    obtain rfl := Option.some.inj (present.symm.trans present')
    obtain ⟨same, same'⟩ := relates.holds_unique holds' holds
    exact other.elim (fun differ => differ same) fun differ => differ same'
  obtain ⟨rows', links', fewer⟩ := Record.exists_linkingRows_of_spares spares links safe
  exact ⟨rows, rows', links, links', fewer⟩

section

variable {rows : List Joined}
  (links : Record.linkingRows engine db l.source l.target keys = .ok rows) (filled : rows ≠ [])

include links filled

theorem exists_holding : ∃ place row,
    db.row? (keys.holder l.source.table l.target.table, place) = some row ∧
      db.Holds keys l.source.model l.target.model l.source.id l.target.id row := by
  obtain ⟨parts, member⟩ := List.exists_mem_of_ne_nil _ filled
  obtain ⟨place, row, present, holds, -⟩ := relates.readable.exists_of_mem numbers links member
  exact ⟨place, row, present, holds⟩

/-- Clearing a key in the one row with a number takes links away. -/
theorem frees_of_clears {table key column : String} {id : Int64}
    (here : keys.holder l.source.table l.target.table = table) (keyed : db.Keyed table key)
    (number : ∀ {row}, db.Holds keys l.source.model l.target.model l.source.id l.target.id row →
      (row.read key).number? = some id)
    (clears : db.Clears table key column id db')
    (unlinked : Record.linkingRows engine db' l.source l.target keys = .ok []) :
    Frees engine keys l db db' := by
  refine ⟨unlinked, clears.spares.mono ?_, fun part _ => clears.stays part⟩
  obtain ⟨place, row, present, holds⟩ := exists_holding numbers relates links filled
  rintro ⟨_, place'⟩ - ⟨rfl, row', present', number'⟩
  rw [here] at present
  obtain rfl := keyed.unique present present' (number holds) number'
  exact ⟨here.symm, row, present, holds⟩

theorem frees_of_belongsTo (kind : keys.kind = .belongsTo)
    (referenced : keys.referencedKey = l.target.model.primaryKey)
    (clears : db.Clears l.source.table l.source.model.primaryKey keys.foreignKey l.source.id db') :
    Frees engine keys l db db' := by
  refine frees_of_clears numbers relates links filled (RelationKeys.holder_source kind)
    relates.source (fun holds => ?_) clears ?_
  · rw [Database.Holds, kind] at holds
    exact holds.1
  · rw [Record.linkingRows_belongsTo kind referenced, clears.matching_pair_eq_nil numbers]

theorem frees_of_hasMany (kind : keys.kind = .hasOne ∨ keys.kind = .hasMany)
    (referenced : keys.referencedKey = l.source.model.primaryKey)
    (clears : db.Clears l.target.table l.target.model.primaryKey keys.foreignKey l.target.id db') :
    Frees engine keys l db db' := by
  refine frees_of_clears numbers relates links filled
    (RelationKeys.holder_target (kind.imp_right .inl)) relates.target (fun holds => ?_) clears ?_
  · rcases kind with kind | kind
    all_goals
      rw [Database.Holds, kind] at holds
      exact holds.2
  · rw [Record.linkingRows_hasMany kind referenced, clears.matching_pair_eq_nil numbers]

theorem frees_of_hasOneThrough (kind : keys.kind = .hasOneThrough) {through : String}
    (named : keys.through = some through)
    (apart : [l.source.table, through, l.target.table].Nodup)
    (sourceId : keys.sourceId = l.source.model.primaryKey)
    (targetId : keys.targetId = l.target.model.primaryKey)
    (clears : db.Clears l.target.table l.target.model.primaryKey keys.targetKey l.target.id db') :
    Frees engine keys l db db' := by
  refine frees_of_clears numbers relates links filled
    (RelationKeys.holder_target (.inr (.inr kind))) relates.target (fun holds => ?_) clears ?_
  · rw [Database.Holds, kind] at holds
    exact holds.2
  · rw [Record.linkingRows_through (.inl kind) named sourceId targetId, Record.reachesTarget, kind,
      clears.matching_chained_eq_nil numbers apart]

end

/-- Deleting the rows that hold a link takes it away. -/
theorem frees_of_deleted (kind : keys.kind = .hasManyThrough ∨ keys.kind = .hasAndBelongsToMany)
    {d : Dialect} {s : Delete} (here : s.table = keys.holder l.source.table l.target.table)
    (apart : s.table ≠ l.source.table ∧ s.table ≠ l.target.table)
    (touches : ∀ {place row}, db.row? (s.table, place) = some row →
      ((s.table, place) ∈ (s.change d).touched engine db ↔
        db.Holds keys l.source.model l.target.model l.source.id l.target.id row)) :
    Frees engine keys l db (db.deleted engine d s) := by
  refine ⟨?_, Database.spares_deleted.mono ?_, ?_⟩
  · have readable : (db.deleted engine d s).Readable keys l.source.model l.target.model :=
      relates.readable.deleted
    obtain ⟨rows, links⟩ := Record.exists_linkingRows readable.fits engine (db.deleted engine d s)
    rw [links]
    refine congrArg _ (List.eq_nil_iff_forall_not_mem.mpr fun parts member => ?_)
    obtain ⟨place, row, present, holds, -⟩ := readable.exists_of_mem numbers links member
    obtain ⟨place', present', spared⟩ := Database.exists_of_row?_deleted present
    rw [← here] at present' spared
    refine spared ((touches present').mpr ?_)
    unfold Database.Holds at holds ⊢
    rcases kind with kind | kind
    all_goals
      rw [kind] at holds ⊢
      exact holds
  · intro part present touched
    obtain ⟨row, present⟩ := Option.isSome_iff_exists.mp present
    obtain ⟨table, place⟩ := part
    obtain rfl : table = s.table := ((Delete.mem_touched_change d).mp touched).1
    exact ⟨here, row, present, (touches present).mp touched⟩
  · rintro ⟨table, place⟩ own present
    rw [Database.row?_deleted_of_ne ?_]
    · exact present
    · rintro rfl
      exact own.elim apart.1 apart.2

/-- The one row that holds a link is deleted by its number. -/
theorem frees_of_deleted_row
    (kind : keys.kind = .hasManyThrough ∨ keys.kind = .hasAndBelongsToMany)
    {through own : String} (named : keys.through = some through)
    (apart : through ≠ l.source.table ∧ through ≠ l.target.table) (keyed : db.Keyed through own)
    {place : Nat} {row : Row} (present : db.row? (through, place) = some row)
    (holds : db.Holds keys l.source.model l.target.model l.source.id l.target.id row)
    (only : ∀ {place' row'}, db.row? (through, place') = some row' →
      db.Holds keys l.source.model l.target.model l.source.id l.target.id row' → place' = place)
    {id : Int64} (number : (row.read own).number? = some id) (d : Dialect) :
    Frees engine keys l db (db.deleted engine d
      { table := through, filter := some (.eq (.column (.of through own)) (.value (.int id))) }) := by
  have here : keys.holder l.source.table l.target.table = through :=
    RelationKeys.holder_between kind named
  refine frees_of_deleted numbers relates kind here.symm apart fun {place' row'} present' => ?_
  refine (Delete.mem_touched_change d).trans ((Database.mem_parts_key_iff numbers keyed).trans ?_)
  constructor
  · rintro ⟨-, row'', present'', number'⟩
    obtain rfl := keyed.unique present'' present number' number
    obtain rfl := Option.some.inj (present'.symm.trans present)
    exact holds
  · intro holds'
    obtain rfl := only present' holds'
    obtain rfl := Option.some.inj (present'.symm.trans present)
    exact ⟨rfl, row', present', number⟩

/-- The rows that hold a link are deleted by the two numbers that they hold. -/
theorem frees_of_deleted_pair
    (kind : keys.kind = .hasManyThrough ∨ keys.kind = .hasAndBelongsToMany)
    {join : String} (named : keys.through = some join)
    (apart : join ≠ l.source.table ∧ join ≠ l.target.table) (d : Dialect) :
    Frees engine keys l db (db.deleted engine d { table := join, filter := some (.conj
      (.eq (.column (.of join keys.sourceKey)) (.value (.int l.source.id)))
      (.eq (.column (.of join keys.targetKey)) (.value (.int l.target.id)))) }) := by
  have here : keys.holder l.source.table l.target.table = join :=
    RelationKeys.holder_between kind named
  refine frees_of_deleted numbers relates kind here.symm apart fun {place row} present => ?_
  refine (Delete.mem_touched_change d).trans ?_
  have found := Database.mem_matching_holds_iff numbers kind named relates.refers l.source.id
    l.target.id
  constructor
  · rintro ⟨-, parts, member, inside⟩
    obtain ⟨place', row', rfl, present', holds⟩ := (found parts).mp member
    obtain rfl := (Prod.mk.inj (List.mem_singleton.mp inside)).2
    obtain rfl := Option.some.inj (present.symm.trans present')
    exact holds
  · intro holds
    exact ⟨rfl, _, (found _).mpr ⟨place, row, rfl, present, holds⟩, List.mem_cons_self⟩

end

end Linking

end RecordMapper
