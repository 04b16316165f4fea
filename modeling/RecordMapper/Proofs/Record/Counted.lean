import RecordMapper.Proofs.Record.Saved

/-!
The joined rows that link two records, as the statement that counts them reads them. Each kind of
relation asks for other rows, and once the keys are written there is exactly one of them.
-/

set_option autoImplicit false

namespace RecordMapper

theorem length_eq_one_of_unique {α : Type} {items : List α} (item : α) (distinct : items.Nodup)
    (member : item ∈ items) (only : ∀ other ∈ items, other = item) : items.length = 1 := by
  cases items with
  | nil => cases member
  | cons first rest =>
      cases rest with
      | nil => rfl
      | cons second rest =>
          have first' := only first List.mem_cons_self
          have second' := only second (List.mem_cons_of_mem _ List.mem_cons_self)
          refine absurd ?_ (List.nodup_cons.mp distinct).1
          rw [first', ← second']
          exact List.mem_cons_self

namespace Database

variable {engine : Engine} {db db' : Database}

/-! ## One table -/

/-- The rows of a table that hold two values. -/
theorem mem_matching_pair {table first second : String} {v w : Value} {parts : Joined} :
    parts ∈ db.matching engine [table] (Expr.conjAll? [
        .eq (.column (.of table first)) (.value v), .eq (.column (.of table second)) (.value w)]) ↔
      ∃ place row, parts = [(table, place)] ∧ db.row? (table, place) = some row ∧
        engine.compare .eq (row.read first) v = .true ∧
        engine.compare .eq (row.read second) w = .true := by
  rw [mem_matching_single]
  refine exists_congr fun place => exists_congr fun row => ?_
  refine and_congr_right fun same => and_congr_right fun present => ?_
  rw [satisfies_conjAll?, List.forall_mem_cons, List.forall_mem_singleton, Expr.truth_eq,
    Expr.truth_eq, same]
  simp only [Expr.eval, value_single present]

/-- One row holds a key, found by its own. -/
theorem length_matching_held (numbers : engine.ComparesNumbers) {table column own : String}
    (keyed : db.Keyed table own) {place : Nat} {row : Row}
    (present : db.row? (table, place) = some row) {id n : Int64}
    (number : (row.read own).number? = some id) (holds : (row.read column).number? = some n) :
    (db.matching engine [table] (Expr.conjAll? [.eq (.column (.of table column)) (.value (.int n)),
      .eq (.column (.of table own)) (.value (.int id))])).length = 1 := by
  refine length_eq_one_of_unique [(table, place)] ((db.nodup_joined _).filter _) ?_ ?_
  · refine mem_matching_pair.mpr ⟨place, row, rfl, present, ?_, ?_⟩
    · exact (Engine.compare_eq_true_iff numbers holds rfl).mpr rfl
    · exact (Engine.compare_eq_true_iff numbers number rfl).mpr rfl
  · intro parts member
    obtain ⟨place', row', rfl, present', -, same⟩ := mem_matching_pair.mp member
    obtain ⟨m, number'⟩ := keyed.number present'
    obtain rfl := (Engine.compare_eq_true_iff numbers number' rfl).mp same
    rw [keyed.unique present' present number' number]

/-- One row holds two keys if it was put where none held both. -/
theorem length_matching_put (numbers : engine.ComparesNumbers) {table first second : String}
    {place : Nat} {row : Row} (put : db.Puts (table, place) row db') {m n : Int64}
    (holds : (row.read first).number? = some m) (also : (row.read second).number? = some n)
    (unlinked : db.matching engine [table] (Expr.conjAll? [
      .eq (.column (.of table first)) (.value (.int m)),
      .eq (.column (.of table second)) (.value (.int n))]) = []) :
    (db'.matching engine [table] (Expr.conjAll? [
      .eq (.column (.of table first)) (.value (.int m)),
      .eq (.column (.of table second)) (.value (.int n))])).length = 1 := by
  refine length_eq_one_of_unique [(table, place)] ((db'.nodup_joined _).filter _) ?_ ?_
  · refine mem_matching_pair.mpr ⟨place, row, rfl, put.present, ?_, ?_⟩
    · exact (Engine.compare_eq_true_iff numbers holds rfl).mpr rfl
    · exact (Engine.compare_eq_true_iff numbers also rfl).mpr rfl
  · intro parts member
    obtain ⟨place', row', rfl, present', same⟩ := mem_matching_pair.mp member
    by_cases here : place' = place
    · rw [here]
    · rw [put.others fun equal => here (Prod.mk.inj equal).2] at present'
      have before : [(table, place')] ∈ _ := mem_matching_pair.mpr ⟨place', row', rfl, present', same⟩
      rw [unlinked] at before
      cases before

/-! ## Three tables -/

section

variable {source through target : String}

theorem value_of_chain (apart : [source, through, target].Nodup) {p₁ p₂ p₃ : Nat} {r₁ r₂ r₃ : Row}
    (first : db.row? (source, p₁) = some r₁) (second : db.row? (through, p₂) = some r₂)
    (third : db.row? (target, p₃) = some r₃) (column : String) :
    let parts : Joined := [(source, p₁), (through, p₂), (target, p₃)]
    db.value parts (.of source column) = r₁.read column ∧
      db.value parts (.of through column) = r₂.read column ∧
      db.value parts (.of target column) = r₃.read column := by
  intro parts
  have distinct : (parts.map Prod.fst).Nodup := apart
  exact ⟨value_of_mem distinct (by simp [parts]) first column,
    value_of_mem distinct (by simp [parts]) second column,
    value_of_mem distinct (by simp [parts]) third column⟩

private theorem mem_matching_chain {filter : Option Expr} {parts : Joined} :
    parts ∈ db.matching engine [source, through, target] filter ↔
      ∃ p₁ p₂ p₃ r₁ r₂ r₃, parts = [(source, p₁), (through, p₂), (target, p₃)] ∧
        db.row? (source, p₁) = some r₁ ∧ db.row? (through, p₂) = some r₂ ∧
        db.row? (target, p₃) = some r₃ ∧ db.satisfies engine filter parts = true := by
  rw [mem_matching]
  constructor
  · rintro ⟨names, placed, satisfied⟩
    obtain ⟨⟨_, p₁⟩, rest, rfl, rfl, others⟩ := List.map_eq_cons_iff.mp names
    obtain ⟨⟨_, p₂⟩, last, rfl, rfl, single⟩ := List.map_eq_cons_iff.mp others
    obtain ⟨⟨_, p₃⟩, rfl, rfl⟩ := List.map_eq_singleton_iff.mp single
    rw [List.forall_mem_cons, List.forall_mem_cons, List.forall_mem_singleton] at placed
    simp only [Option.isSome_iff_exists] at placed
    obtain ⟨⟨r₁, first⟩, ⟨r₂, second⟩, r₃, third⟩ := placed
    exact ⟨p₁, p₂, p₃, r₁, r₂, r₃, rfl, first, second, third, satisfied⟩
  · rintro ⟨p₁, p₂, p₃, r₁, r₂, r₃, rfl, first, second, third, satisfied⟩
    refine ⟨rfl, ?_, satisfied⟩
    simp [first, second, third]

/-- What links two rows by way of a third: the first and the last are found by their keys, and the
one between holds the key of the first. -/
def chained (source through target own sourceKey : String) (reaches : Expr) (last : String)
    (sourceId targetId : Int64) : Option Expr :=
  Expr.conjAll? [
    .eq (.column (.of source own)) (.value (.int sourceId)),
    .eq (.column (.of through sourceKey)) (.column (.of source own)), reaches,
    .eq (.column (.of target last)) (.value (.int targetId))]

variable {own sourceKey last : String} {reaches : Expr} {sourceId targetId : Int64}

theorem mem_matching_chained (apart : [source, through, target].Nodup) {parts : Joined} :
    parts ∈ db.matching engine [source, through, target]
        (chained source through target own sourceKey reaches last sourceId targetId) ↔
      ∃ p₁ p₂ p₃ r₁ r₂ r₃, parts = [(source, p₁), (through, p₂), (target, p₃)] ∧
        db.row? (source, p₁) = some r₁ ∧ db.row? (through, p₂) = some r₂ ∧
        db.row? (target, p₃) = some r₃ ∧
        engine.compare .eq (r₁.read own) (.int sourceId) = .true ∧
        engine.compare .eq (r₂.read sourceKey) (r₁.read own) = .true ∧
        reaches.truth engine db parts = .true ∧
        engine.compare .eq (r₃.read last) (.int targetId) = .true := by
  rw [mem_matching_chain]
  refine exists_congr fun p₁ => exists_congr fun p₂ => exists_congr fun p₃ => ?_
  refine exists_congr fun r₁ => exists_congr fun r₂ => exists_congr fun r₃ => ?_
  refine and_congr_right fun same => and_congr_right fun first => ?_
  refine and_congr_right fun second => and_congr_right fun third => ?_
  have values := value_of_chain apart first second third
  rw [chained, satisfies_conjAll?, List.forall_mem_cons, List.forall_mem_cons,
    List.forall_mem_cons, List.forall_mem_singleton, same]
  simp only [Expr.truth_eq, Expr.eval, (values _).1, (values _).2.1, (values _).2.2]

variable {p₁ p₂ p₃ : Nat} {r₁ r₂ r₃ : Row}

/-- A row of three tables is the only link if the row between is determined by the others. -/
theorem length_matching_chained (numbers : engine.ComparesNumbers)
    (apart : [source, through, target].Nodup) (keyed : db.Keyed source own)
    (keyed' : db.Keyed target last) (first : db.row? (source, p₁) = some r₁)
    (second : db.row? (through, p₂) = some r₂) (third : db.row? (target, p₃) = some r₃)
    (number : (r₁.read own).number? = some sourceId)
    (number' : (r₃.read last).number? = some targetId)
    (holds : (r₂.read sourceKey).number? = some sourceId)
    (reached : reaches.truth engine db [(source, p₁), (through, p₂), (target, p₃)] = .true)
    (only : ∀ p row, db.row? (through, p) = some row →
      engine.compare .eq (row.read sourceKey) (r₁.read own) = .true →
      reaches.truth engine db [(source, p₁), (through, p), (target, p₃)] = .true → p = p₂) :
    (db.matching engine [source, through, target]
      (chained source through target own sourceKey reaches last sourceId targetId)).length = 1 := by
  refine length_eq_one_of_unique [(source, p₁), (through, p₂), (target, p₃)]
    ((db.nodup_joined _).filter _) ?_ ?_
  · refine (mem_matching_chained apart).mpr ⟨p₁, p₂, p₃, r₁, r₂, r₃, rfl, first, second, third, ?_⟩
    refine ⟨?_, ?_, reached, ?_⟩
    · exact (Engine.compare_eq_true_iff numbers number rfl).mpr rfl
    · exact (Engine.compare_eq_true_iff numbers holds number).mpr rfl
    · exact (Engine.compare_eq_true_iff numbers number' rfl).mpr rfl
  · intro parts member
    obtain ⟨q₁, q₂, q₃, s₁, s₂, s₃, rfl, first', second', third', same, holds', reached', same'⟩ :=
      (mem_matching_chained apart).mp member
    obtain ⟨m, numbered⟩ := keyed.number first'
    obtain rfl := (Engine.compare_eq_true_iff numbers numbered rfl).mp same
    obtain rfl := keyed.unique first' first numbered number
    obtain ⟨n, numbered'⟩ := keyed'.number third'
    obtain rfl := (Engine.compare_eq_true_iff numbers numbered' rfl).mp same'
    obtain rfl := keyed'.unique third' third numbered' number'
    obtain rfl : s₁ = r₁ := Option.some.inj (first'.symm.trans first)
    rw [only q₂ s₂ second' holds' reached']

/-- The row between is determined if the last row holds its key. -/
theorem length_matching_chained_of_held (numbers : engine.ComparesNumbers)
    (apart : [source, through, target].Nodup) (keyed : db.Keyed source own)
    (keyed' : db.Keyed target last) {middle targetKey : String} (keyed'' : db.Keyed through middle)
    (first : db.row? (source, p₁) = some r₁) (second : db.row? (through, p₂) = some r₂)
    (third : db.row? (target, p₃) = some r₃) (number : (r₁.read own).number? = some sourceId)
    (number' : (r₃.read last).number? = some targetId)
    (holds : (r₂.read sourceKey).number? = some sourceId) {n : Int64}
    (number'' : (r₂.read middle).number? = some n)
    (holds' : (r₃.read targetKey).number? = some n) :
    (db.matching engine [source, through, target]
      (chained source through target own sourceKey
        (.eq (.column (.of target targetKey)) (.column (.of through middle))) last sourceId
        targetId)).length = 1 := by
  have reaches {p : Nat} {row : Row} (present : db.row? (through, p) = some row) :
      (Expr.eq (.column (.of target targetKey)) (.column (.of through middle))).truth engine db
          [(source, p₁), (through, p), (target, p₃)] =
        engine.compare .eq (r₃.read targetKey) (row.read middle) := by
    have values (column : String) := value_of_chain apart first present third column
    rw [Expr.truth_eq, Expr.eval, Expr.eval, (values _).2.1, (values _).2.2]
  refine length_matching_chained numbers apart keyed keyed' first second third number number' holds
    ?_ ?_
  · rw [reaches second]
    exact (Engine.compare_eq_true_iff numbers holds' number'').mpr rfl
  · intro p row present _ reached
    rw [reaches present] at reached
    obtain ⟨m, numbered⟩ := keyed''.number present
    obtain rfl := (Engine.compare_eq_true_iff numbers holds' numbered).mp reached
    exact keyed''.unique present second numbered number''

/-- The row between is determined if it was put where none linked the others. -/
theorem length_matching_chained_of_put (numbers : engine.ComparesNumbers)
    (apart : [source, through, target].Nodup) (keyed : db.Keyed source own)
    (keyed' : db.Keyed target last) {targetKey : String}
    (put : db.Puts (through, p₂) r₂ db') (first : db.row? (source, p₁) = some r₁)
    (third : db.row? (target, p₃) = some r₃) (number : (r₁.read own).number? = some sourceId)
    (number' : (r₃.read last).number? = some targetId)
    (holds : (r₂.read sourceKey).number? = some sourceId)
    (holds' : (r₂.read targetKey).number? = some targetId)
    (unlinked : db.matching engine [source, through, target]
      (chained source through target own sourceKey
        (.eq (.column (.of through targetKey)) (.column (.of target last))) last sourceId
        targetId) = []) :
    (db'.matching engine [source, through, target]
      (chained source through target own sourceKey
        (.eq (.column (.of through targetKey)) (.column (.of target last))) last sourceId
        targetId)).length = 1 := by
  have differ : source ≠ through ∧ target ≠ through := by
    simp only [List.nodup_cons, List.mem_cons] at apart
    tauto
  have reaches {db : Database} (first : db.row? (source, p₁) = some r₁)
      (third : db.row? (target, p₃) = some r₃) {p : Nat} {row : Row}
      (present : db.row? (through, p) = some row) :
      (Expr.eq (.column (.of through targetKey)) (.column (.of target last))).truth engine db
          [(source, p₁), (through, p), (target, p₃)] =
        engine.compare .eq (row.read targetKey) (r₃.read last) := by
    have values (column : String) := value_of_chain apart first present third column
    rw [Expr.truth_eq, Expr.eval, Expr.eval, (values _).2.1, (values _).2.2]
  have first' : db'.row? (source, p₁) = some r₁ := (put.other_table differ.1).trans first
  have third' : db'.row? (target, p₃) = some r₃ := (put.other_table differ.2).trans third
  refine length_matching_chained numbers apart (keyed.puts_elsewhere put differ.1.symm)
    (keyed'.puts_elsewhere put differ.2.symm) first' put.present third' number number' holds ?_ ?_
  · rw [reaches first' third' put.present]
    exact (Engine.compare_eq_true_iff numbers holds' number').mpr rfl
  · intro p row present same reached
    by_cases here : p = p₂
    · exact here
    · rw [put.others fun equal => here (Prod.mk.inj equal).2] at present
      rw [reaches first' third' ((put.others fun equal => here (Prod.mk.inj equal).2).trans present)]
        at reached
      have before : [(source, p₁), (through, p), (target, p₃)] ∈ _ :=
        (mem_matching_chained apart).mpr ⟨p₁, p, p₃, r₁, row, r₃, rfl, first, present, third,
          (Engine.compare_eq_true_iff numbers number rfl).mpr rfl, same,
          (reaches first third present).trans reached,
          (Engine.compare_eq_true_iff numbers number' rfl).mpr rfl⟩
      rw [unlinked] at before
      cases before

end

end Database

end RecordMapper
