import RecordMapper.Proofs.Database.Executing

/-!
Databases whose tables have keys, and changes of one row at a time. A row that is found by its key is
the only one that a change is about.
-/

set_option autoImplicit false

namespace RecordMapper

/-! ## Comparing keys -/

/-- An engine that compares integers as numbers, also where one is handed out as a numeral. -/
def Engine.ComparesNumbers (engine : Engine) : Prop :=
  ∀ {left right : Value} {m n : Int64}, left.number? = some m → right.number? = some n →
    engine.compares .eq left right = decide (m = n)

private theorem Value.ne_null_of_number? {v : Value} {n : Int64} (number : v.number? = some n) :
    v ≠ .null := by
  rintro rfl
  cases number

theorem Engine.compare_of_ne_null (engine : Engine) (op : Comparison) {left right : Value}
    (first : left ≠ .null) (second : right ≠ .null) :
    engine.compare op left right = .ofBool (engine.compares op left right) := by
  unfold compare
  split
  · exact absurd rfl first
  · exact absurd rfl second
  · rfl

theorem Engine.compare_eq_true_iff {engine : Engine} (numbers : engine.ComparesNumbers)
    {left right : Value} {m n : Int64} (first : left.number? = some m)
    (second : right.number? = some n) : engine.compare .eq left right = .true ↔ m = n := by
  rw [compare_of_ne_null engine .eq (Value.ne_null_of_number? first)
    (Value.ne_null_of_number? second), numbers first second]
  by_cases same : m = n <;> simp [same, Truth.ofBool]

/-- What equals a number is one, where it is null or a number at all. -/
theorem Engine.compare_eq_true_iff_of_readable {engine : Engine}
    (numbers : engine.ComparesNumbers) {left right : Value}
    (readable : left = .null ∨ ∃ m, left.number? = some m)
    (readable' : right = .null ∨ ∃ n, right.number? = some n) :
    engine.compare .eq left right = .true ↔
      ∃ n, left.number? = some n ∧ right.number? = some n := by
  constructor
  · intro same
    rcases readable with rfl | ⟨m, number⟩
    · cases same
    · rcases readable' with rfl | ⟨n, number'⟩
      · cases left <;> cases same
      · obtain rfl := (compare_eq_true_iff numbers number number').mp same
        exact ⟨m, number, number'⟩
  · rintro ⟨n, number, number'⟩
    exact (compare_eq_true_iff numbers number number').mpr rfl

theorem Expr.truth_eq (left right : Expr) (engine : Engine) (db : Database) (parts : Joined) :
    (Expr.eq left right).truth engine db parts =
      engine.compare .eq (left.eval engine db parts) (right.eval engine db parts) := by
  rw [truth, Expr.eq, eval, Engine.truth_value]

inductive Expr.ComparesKeys : Expr → Prop where
  | value (table column : String) (v : Value) :
      ComparesKeys (.eq (.column (.of table column)) (.value v))
  | column (table column table' column' : String) :
      ComparesKeys (.eq (.column (.of table column)) (.column (.of table' column')))

namespace Database

variable {engine : Engine} {db db' : Database} {table : String} {place : Nat}

theorem mem_matching {tables : List String} {filter : Option Expr} {parts : Joined} :
    parts ∈ db.matching engine tables filter ↔
      parts.map Prod.fst = tables ∧ (∀ part ∈ parts, (db.row? part).isSome) ∧
        db.satisfies engine filter parts = true := by
  rw [matching, List.mem_filter, mem_joined, and_assoc]

/-- The rows of one table that satisfy a condition. -/
theorem mem_matching_single {filter : Option Expr} {parts : Joined} :
    parts ∈ db.matching engine [table] filter ↔
      ∃ place row, parts = [(table, place)] ∧ db.row? (table, place) = some row ∧
        db.satisfies engine filter parts = true := by
  rw [mem_matching]
  constructor
  · rintro ⟨names, placed, satisfied⟩
    obtain ⟨⟨_, place⟩, rfl, rfl⟩ := List.map_eq_singleton_iff.mp names
    obtain ⟨row, present⟩ := Option.isSome_iff_exists.mp (placed _ List.mem_cons_self)
    exact ⟨place, row, rfl, present, satisfied⟩
  · rintro ⟨place, row, rfl, present, satisfied⟩
    refine ⟨rfl, List.forall_mem_singleton.mpr ?_, satisfied⟩
    rw [present]
    rfl

theorem value_single {row : Row} (present : db.row? (table, place) = some row) (column : String) :
    db.value [(table, place)] (.of table column) = row.read column := by
  have distinct : ([(table, place)].map Prod.fst).Nodup := List.nodup_singleton table
  exact value_of_mem distinct List.mem_cons_self present column

/-! ## Keys -/

/-- A column that holds a number in every row of its table, each time another one. -/
structure Keyed (db : Database) (table column : String) : Prop where
  number : ∀ {place row}, db.row? (table, place) = some row →
    ∃ n, (row.read column).number? = some n
  unique : ∀ {place place' row row' n}, db.row? (table, place) = some row →
    db.row? (table, place') = some row' → (row.read column).number? = some n →
    (row'.read column).number? = some n → place = place'

/-- A column that refers to rows by their numbers: it holds one, or null. -/
def Refers (db : Database) (table column : String) : Prop :=
  ∀ ⦃place row⦄, db.row? (table, place) = some row →
    row.read column = .null ∨ ∃ n, (row.read column).number? = some n

theorem Keyed.refers {column : String} (keyed : db.Keyed table column) : db.Refers table column :=
  fun _ _ present => .inr (keyed.number present)

/-- A key of the rows of a table in a list. -/
theorem Keyed.of_rows {column : String}
    (numbers : ∀ row ∈ db.rows table, (row.read column).number?.isSome = true)
    (distinct : ((db.rows table).map fun row => (row.read column).number?).Nodup) :
    db.Keyed table column where
  number present := Option.isSome_iff_exists.mp (numbers _ (List.mem_of_getElem? present))
  unique {place place' row row' n} present present' first second := by
    have here : ((db.rows table).map fun row => (row.read column).number?)[place]? =
        some (some n) := by
      rw [List.getElem?_map, show (db.rows table)[place]? = some row from present, Option.map_some,
        first]
    have there : ((db.rows table).map fun row => (row.read column).number?)[place']? =
        some (some n) := by
      rw [List.getElem?_map, show (db.rows table)[place']? = some row' from present',
        Option.map_some, second]
    exact (List.getElem?_inj (List.getElem?_eq_some_iff.mp here).1 distinct).mp
      (here.trans there.symm)

theorem Refers.of_rows {column : String} (readable : ∀ row ∈ db.rows table,
    (row.read column).isNull = true ∨ (row.read column).number?.isSome = true) :
    db.Refers table column := by
  intro place row present
  refine (readable row (List.mem_of_getElem? present)).imp (fun null => ?_)
    Option.isSome_iff_exists.mp
  cases held : row.read column with
  | null => rfl
  | _ =>
      rw [held] at null
      cases null

/-- What a statement about the row with a key is about. -/
theorem satisfies_key_iff (numbers : engine.ComparesNumbers) {column : String}
    (keyed : db.Keyed table column) {row : Row} (present : db.row? (table, place) = some row)
    {n : Int64} :
    db.satisfies engine (some (.eq (.column (.of table column)) (.value (.int n))))
        [(table, place)] = true ↔ (row.read column).number? = some n := by
  obtain ⟨m, number⟩ := keyed.number present
  rw [satisfies, Option.all_some, beq_iff_eq, Expr.truth_eq, Expr.eval, Expr.eval,
    value_single present, Engine.compare_eq_true_iff numbers number rfl, number, Option.some_inj]

/-- The rows that a statement about a key is about. -/
theorem mem_parts_key_iff (numbers : engine.ComparesNumbers) {column : String}
    (keyed : db.Keyed table column) {n : Int64} {part : String × Nat} :
    (part.1 = table ∧ ∃ parts ∈ db.matching engine [table]
        (some (.eq (.column (.of table column)) (.value (.int n)))), part ∈ parts) ↔
      part.1 = table ∧ ∃ row, db.row? part = some row ∧ (row.read column).number? = some n := by
  refine and_congr_right fun same => ?_
  simp only [mem_matching_single]
  constructor
  · rintro ⟨_, ⟨place, row, rfl, present, satisfied⟩, member⟩
    obtain rfl := List.mem_singleton.mp member
    exact ⟨row, present, (satisfies_key_iff numbers keyed present).mp satisfied⟩
  · rintro ⟨row, present, number⟩
    obtain ⟨name, place⟩ := part
    obtain rfl : name = table := same
    exact ⟨_, ⟨place, row, rfl, present, (satisfies_key_iff numbers keyed present).mpr number⟩,
      List.mem_cons_self⟩

/-- The row with a number is the only one. -/
theorem Keyed.part_eq_iff {column : String} (keyed : db.Keyed table column) {row : Row}
    (present : db.row? (table, place) = some row) {n : Int64}
    (number : (row.read column).number? = some n) {part : String × Nat} :
    (part.1 = table ∧ ∃ row, db.row? part = some row ∧ (row.read column).number? = some n) ↔
      part = (table, place) := by
  constructor
  · obtain ⟨name, place'⟩ := part
    rintro ⟨same, row', present', number'⟩
    obtain rfl : name = table := same
    rw [keyed.unique present' present number' number]
  · rintro rfl
    exact ⟨rfl, row, present, number⟩

/-! ## One row -/

/-- All rows of a database stay as they are but for one place, which holds a row afterwards. -/
structure Puts (db : Database) (part : String × Nat) (row : Row) (db' : Database) : Prop where
  present : db'.row? part = some row
  others : ∀ {other}, other ≠ part → db'.row? other = db.row? other

theorem puts_self {part : String × Nat} {row : Row} (present : db.row? part = some row) :
    db.Puts part row db :=
  ⟨present, fun _ => rfl⟩

theorem puts_appended (db : Database) (table : String) (row : Row) :
    db.Puts (table, (db.rows table).length) row (db.appended table row) := by
  refine ⟨row?_appended_last table row, ?_⟩
  rintro ⟨name, place⟩ differ
  unfold row? appended
  dsimp only
  split
  · rename_i same
    obtain rfl : name = table := same
    have elsewhere : place ≠ (db.rows name).length := fun last => differ (by rw [last])
    rcases Nat.lt_or_gt_of_ne elsewhere with inside | outside
    · exact List.getElem?_append_left inside
    · rw [List.getElem?_eq_none (by rw [List.length_append, List.length_singleton]; omega),
        List.getElem?_eq_none outside.le]
  · rfl

theorem puts_updated {d : Dialect} {s : Update} {part : String × Nat} {row : Row}
    (present : db.row? part = some row)
    (touches : ∀ other, other ∈ (s.change d).touched engine db ↔ other = part) :
    db.Puts part (row.written s.assignments) (db.updated engine d s) := by
  constructor
  · rw [row?_updated, present, Option.map_some, if_pos ((touches part).mpr rfl)]
  · intro other differ
    have unaffected : other ∉ (s.change d).touched engine db :=
      fun touched => differ ((touches other).mp touched)
    rw [row?_updated]
    simp only [unaffected, if_false, Option.map_id']

variable {part : String × Nat} {row : Row}

theorem Puts.other_table (put : db.Puts part row db') {other : String × Nat}
    (elsewhere : other.1 ≠ part.1) : db'.row? other = db.row? other :=
  put.others fun same => elsewhere (by rw [same])

/-- A key stays one when a row is put in whose number no other row has. -/
theorem Keyed.puts {column : String} {n : Int64} (keyed : db.Keyed table column)
    (put : db.Puts (table, place) row db') (number : (row.read column).number? = some n)
    (fresh : ∀ {place' row'}, place' ≠ place → db.row? (table, place') = some row' →
      (row'.read column).number? ≠ some n) :
    db'.Keyed table column := by
  have elsewhere {other : Nat} (differ : other ≠ place) :
      db'.row? (table, other) = db.row? (table, other) :=
    put.others fun same => differ (Prod.mk.inj same).2
  have held {row' : Row} (present : db'.row? (table, place) = some row') : row' = row :=
    Option.some.inj (present.symm.trans put.present)
  constructor
  · intro place' row' present
    by_cases same : place' = place
    · subst same
      rw [held present]
      exact ⟨n, number⟩
    · exact keyed.number (elsewhere same ▸ present)
  · intro place₁ place₂ row₁ row₂ m first second number₁ number₂
    by_cases same₁ : place₁ = place <;> by_cases same₂ : place₂ = place
    · rw [same₁, same₂]
    · subst same₁
      rw [held first, number] at number₁
      exact absurd (number₂.trans number₁.symm) (fresh same₂ (elsewhere same₂ ▸ second))
    · subst same₂
      rw [held second, number] at number₂
      exact absurd (number₁.trans number₂.symm) (fresh same₁ (elsewhere same₁ ▸ first))
    · exact keyed.unique (elsewhere same₁ ▸ first) (elsewhere same₂ ▸ second) number₁ number₂

theorem Keyed.puts_elsewhere {column : String} (keyed : db.Keyed table column)
    (put : db.Puts part row db') (elsewhere : part.1 ≠ table) : db'.Keyed table column := by
  have same (place : Nat) : db'.row? (table, place) = db.row? (table, place) :=
    put.other_table elsewhere.symm
  constructor
  · intro place row present
    exact keyed.number (same place ▸ present)
  · intro place₁ place₂ row₁ row₂ n first second
    exact keyed.unique (same place₁ ▸ first) (same place₂ ▸ second)

/-! ## Rows that stay -/

/-- Every row of a database is still there in another, and reads as it did outside of some columns. -/
def ReadsAs (view : String → String → Value → Value) (except : String → List String)
    (db db' : Database) : Prop :=
  ∀ ⦃table place row⦄, db.row? (table, place) = some row →
    ∃ row', db'.row? (table, place) = some row' ∧ ∀ column ∉ except table,
      view table column (row'.read column) = view table column (row.read column)

variable {view : String → String → Value → Value} {except : String → List String}

theorem ReadsAs.refl (db : Database) : db.ReadsAs view except db :=
  fun _ _ _ present => ⟨_, present, fun _ _ => rfl⟩

theorem ReadsAs.trans {db'' : Database} (first : db.ReadsAs view except db')
    (second : db'.ReadsAs view except db'') : db.ReadsAs view except db'' := by
  intro table place row present
  obtain ⟨row', present', same'⟩ := first present
  obtain ⟨row'', present'', same''⟩ := second present'
  exact ⟨row'', present'', fun column other => (same'' column other).trans (same' column other)⟩

theorem Puts.readsAs (put : db.Puts part row db')
    (same : ∀ {old}, db.row? part = some old → ∀ column ∉ except part.1,
      view part.1 column (row.read column) = view part.1 column (old.read column)) :
    db.ReadsAs view except db' := by
  intro table place old present
  by_cases here : (table, place) = part
  · subst here
    exact ⟨row, put.present, same present⟩
  · exact ⟨old, (put.others here).trans present, fun _ _ => rfl⟩

end Database

/-!
## Joined rows at one row

Joined rows in which one table stays at one row. Nothing but the other tables is left of the join, and
columns of the one table are as good as values.
-/

/-- Where one item alone contributes to a list, the list is what it contributes. -/
theorem flatMap_of_unique {α β : Type} {items : List α} {item : α} (distinct : items.Nodup)
    (member : item ∈ items) {f : α → List β} (only : ∀ other ∈ items, other ≠ item → f other = []) :
    items.flatMap f = f item := by
  induction items with
  | nil => cases member
  | cons first rest ih =>
      obtain ⟨fresh, distinct⟩ := List.nodup_cons.mp distinct
      obtain ⟨here, later⟩ := List.forall_mem_cons.mp only
      rw [List.flatMap_cons]
      rcases List.mem_cons.mp member with rfl | inside
      · have others : rest.flatMap f = [] :=
          List.flatMap_eq_nil_iff.mpr fun other inside =>
            later other inside fun same => fresh (same ▸ inside)
        rw [others, List.append_nil]
      · rw [here (fun same => fresh (same ▸ inside)), List.nil_append, ih distinct inside later]

namespace Database

variable {db : Database} {table other : String} {place : Nat} {parts : Joined}

def rowOf (db : Database) (table : String) (parts : Joined) : Row :=
  ((parts.lookup table).bind fun place => db.row? (table, place)).getD ∅

theorem value_cons_self {row : Row} (present : db.row? (table, place) = some row)
    (parts : Joined) (column : String) :
    db.value ((table, place) :: parts) (.of table column) = row.read column := by
  simp [value, ColumnRef.of, present]

theorem value_cons_of_ne (differ : other ≠ table) (place : Nat) (parts : Joined) (column : String) :
    db.value ((table, place) :: parts) (.of other column) = db.value parts (.of other column) := by
  simp [value, ColumnRef.of, List.lookup_cons, beq_eq_false_iff_ne.mpr differ]

theorem rowOf_cons_of_ne (differ : other ≠ table) (place : Nat) (parts : Joined) :
    db.rowOf other ((table, place) :: parts) = db.rowOf other parts := by
  simp [rowOf, List.lookup_cons, beq_eq_false_iff_ne.mpr differ]

/-- A condition that one row of the first table alone satisfies leaves a join of the other tables. -/
theorem filter_joined_cons {rest : List String} {row : Row}
    (present : db.row? (table, place) = some row) {condition : Joined → Bool}
    (pinned : ∀ other parts, condition ((table, other) :: parts) = true → other = place ∨
      (db.row? (table, other)) = none) :
    (db.joined (table :: rest)).filter condition =
      ((db.joined rest).filter fun parts => condition ((table, place) :: parts)).map
        fun parts => (table, place) :: parts := by
  have inside : place ∈ List.range (db.rows table).length :=
    List.mem_range.mpr (row?_isSome_iff.mp (Option.isSome_iff_exists.mpr ⟨row, present⟩))
  rw [joined, List.filter_flatMap, flatMap_of_unique List.nodup_range inside, List.filter_map]
  · rfl
  · intro other member differ
    rw [List.filter_map, List.map_eq_nil_iff, List.filter_eq_nil_iff]
    intro parts _ holds
    rcases pinned other parts holds with same | absent
    · exact differ same
    · have held := row?_isSome_iff.mpr (show (table, other).2 < (db.rows (table, other).1).length from
        List.mem_range.mp member)
      rw [absent] at held
      cases held

end Database

namespace Select

variable {engine : Engine} {output : Output} {db : Database}

/-- The answer of a query for all columns of one of its tables are the rows of that table, each as
often as it is in a joined row. -/
theorem answer_of_wildcard {table : String} {tables : List String} {filter : Option Expr}
    (distinct : tables.Nodup) (member : table ∈ tables) :
    (answer { returning := [.wildcard (some table)], tables, filter } engine output db).Perm
      ((db.matching engine tables filter).map (db.rowOf table)) := by
  have rows : (produced { returning := [.wildcard (some table)], tables, filter }
      engine output db).map OrderedMap.ofList =
        (db.matching engine tables filter).map (db.rowOf table) := by
    change ((((db.matching engine tables filter).map fun parts => [parts]).map _).map _) = _
    rw [List.map_map, List.map_map]
    refine List.map_congr_left fun parts matched => ?_
    obtain ⟨names, placed⟩ := Database.mem_joined.mp (List.mem_of_mem_filter matched)
    have shown : output.shown [parts] = parts :=
      List.mem_singleton.mp (output.mem_shown (List.cons_ne_nil _ _))
    have single : (parts.map Prod.fst).Nodup := names ▸ distinct
    have listed : table ∈ parts.map Prod.fst := names ▸ member
    obtain ⟨⟨name, place⟩, held, same⟩ := List.mem_map.mp listed
    obtain rfl : name = table := same
    obtain ⟨row, present⟩ := Option.isSome_iff_exists.mp (placed _ held)
    have found := (lookup_eq_some_iff_mem single).mpr held
    have cells : SelectItem.cells output db [parts] (.wildcard (some name)) = row.entries := by
      simp only [SelectItem.cells, shown, Option.all_some]
      have here : (name, place) ∈ parts.filter fun part => name == part.1 :=
        List.mem_filter.mpr ⟨held, beq_self_eq_true name⟩
      rw [flatMap_of_unique (single.of_map.filter _) here]
      · rw [present]
        rfl
      · rintro ⟨name', other⟩ inside differ
        obtain ⟨inside, same⟩ := List.mem_filter.mp inside
        obtain rfl : name = name' := beq_iff_eq.mp same
        rw [← lookup_eq_some_iff_mem single, found] at inside
        exact absurd (by rw [Option.some.inj inside]) differ
    simp [cells, Database.rowOf, found, present, OrderedMap.ofList_entries]
  have arranged := (output.perm_arranged
    { returning := [.wildcard (some table)], tables, filter }
    (produced { returning := [.wildcard (some table)], tables, filter } engine output db)).map
      OrderedMap.ofList
  rw [rows] at arranged
  exact arranged

end Select

end RecordMapper
