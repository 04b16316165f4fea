import RecordMapper.Proofs.Connection.Remembered

/-!
Which statements a cache takes notice of: those that create or drop a table or a database, with at
most two modifiers between the verb and the kind of thing.
-/

set_option autoImplicit false

namespace RecordMapper.SchemaCache

/-- Words that name a table or a database behind a number of modifiers, in any case of ASCII letters. -/
inductive NamesKind : Nat → List String → Prop
  | kind {word : String} {rest : List String}
      (named : Text.asciiUpper word ∈ ["TABLE", "DATABASE", "SCHEMA"]) : NamesKind 0 (word :: rest)
  | modifier {n : Nat} {word : String} {rest : List String}
      (modifies : Text.asciiUpper word ∈ ["TEMPORARY", "TEMP", "UNLOGGED", "OR", "REPLACE"])
      (later : NamesKind n rest) : NamesKind (n + 1) (word :: rest)

def CreatesOrDrops (modifiers : Nat) (sql : String) : Prop :=
  ∃ verb rest, Text.words sql = verb :: rest ∧
    Text.asciiUpper verb ∈ ["CREATE", "DROP"] ∧ NamesKind modifiers rest

variable {n m : Nat} {words : List String} {sql : String}

private theorem not_isModifier_of_kind {word : String}
    (named : word ∈ ["TABLE", "DATABASE", "SCHEMA"]) :
    isModifier word = false := by
  simp only [List.mem_cons, List.not_mem_nil, or_false] at named
  rcases named with rfl | rfl | rfl <;> decide

private theorem NamesKind.unique (first : NamesKind n words) (second : NamesKind m words) :
    n = m := by
  induction first generalizing m with
  | kind named =>
      cases second with
      | kind => rfl
      | modifier modifies =>
          have other := not_isModifier_of_kind named
          simp [isModifier, modifies] at other
  | modifier modifies _ ih =>
      cases second with
      | kind named =>
          have other := not_isModifier_of_kind named
          simp [isModifier, modifies] at other
      | modifier _ later => rw [ih later]

private theorem CreatesOrDrops.unique (first : CreatesOrDrops n sql)
    (second : CreatesOrDrops m sql) :
    n = m := by
  obtain ⟨verb, rest, split, _, kind⟩ := first
  obtain ⟨verb', rest', split', _, kind'⟩ := second
  rw [split] at split'
  cases split'
  exact kind.unique kind'

/-- The recognizer looks at as many words as it has fuel, the kind included. -/
theorem namesSchema_eq_true_iff (fuel : Nat) (words : List String) :
    namesSchema fuel (words.map Text.asciiUpper) = true ↔ ∃ n < fuel, NamesKind n words := by
  induction fuel generalizing words with
  | zero => simp [namesSchema]
  | succ fuel ih =>
      cases words with
      | nil =>
          simp only [List.map_nil, namesSchema, Bool.false_eq_true, false_iff]
          rintro ⟨n, _, names⟩
          cases names
      | cons word rest =>
          simp only [List.map_cons, namesSchema]
          split
          · rename_i named
            have named : Text.asciiUpper word ∈ ["TABLE", "DATABASE", "SCHEMA"] := by
              simpa using named
            exact iff_of_true rfl ⟨0, Nat.succ_pos fuel, .kind named⟩
          · rename_i other
            rw [Bool.and_eq_true, ih]
            constructor
            · rintro ⟨modifies, n, few, later⟩
              exact ⟨n + 1, Nat.succ_lt_succ few, .modifier (by simpa [isModifier] using modifies) later⟩
            · rintro ⟨n, few, names⟩
              cases names with
              | kind named => exact absurd (List.contains_iff_mem.mpr named) other
              | modifier modifies later =>
                  exact ⟨by simpa [isModifier] using modifies, _, Nat.lt_of_succ_lt_succ few, later⟩

private theorem changesSchema_iff (sql : String) :
    changesSchema sql = true ↔ ∃ n ≤ 2, CreatesOrDrops n sql := by
  unfold changesSchema CreatesOrDrops
  cases words : Text.words sql with
  | nil => simp
  | cons verb rest =>
      simp only [List.map_cons, Bool.and_eq_true, Bool.or_eq_true, beq_iff_eq,
        namesSchema_eq_true_iff]
      constructor
      · rintro ⟨creates, n, few, names⟩
        exact ⟨n, Nat.le_of_lt_succ few, verb, rest, rfl, by simpa using creates, names⟩
      · rintro ⟨n, few, _, _, same, creates, names⟩
        cases same
        exact ⟨by simpa using creates, n, Nat.lt_succ_of_le few, names⟩

/-- Of the statements that create or drop tables or databases those with at most two modifiers are
noticed, and no other statement is. A cache that notices one forgets all it knows; otherwise it stays
as it is. -/
theorem observe_notices_two_modifiers (c : SchemaCache) (sql : String) :
    (∀ n, CreatesOrDrops n sql → (changesSchema sql = true ↔ n ≤ 2)) ∧
      ((∀ n, ¬ CreatesOrDrops n sql) → changesSchema sql = false) ∧
      (changesSchema sql = true →
        (c.observe sql).database = none ∧ (c.observe sql).tables = none ∧
          ∀ table, (c.observe sql).columns.get? table = none) ∧
      (changesSchema sql = false → c.observe sql = c) := by
  refine ⟨fun n creates => ?_, fun other => ?_, fun changes => ?_, observe_of_keeps⟩
  · rw [changesSchema_iff]
    constructor
    · rintro ⟨m, few, same⟩
      exact creates.unique same ▸ few
    · exact fun few => ⟨n, few, creates⟩
  · rw [← Bool.not_eq_true, changesSchema_iff]
    rintro ⟨n, _, creates⟩
    exact other n creates
  · rw [observe_of_changes changes]
    exact ⟨rfl, rfl, fun _ => rfl⟩

theorem observe_notices_replaced_table :
    CreatesOrDrops 2 "create or\treplace table purchase (id int)" ∧
      (observe { tables := some ["customer"] }
        "create or\treplace table purchase (id int)").tables = none := by
  have creates : CreatesOrDrops 2 "create or\treplace table purchase (id int)" :=
    ⟨"create", ["or", "replace", "table", "purchase", "(id", "int)"], by decide +kernel, by decide,
      .modifier (by decide) (.modifier (by decide) (.kind (by decide)))⟩
  obtain ⟨noticed, _, forgets, _⟩ := observe_notices_two_modifiers
    { tables := some ["customer"] } "create or\treplace table purchase (id int)"
  exact ⟨creates, (forgets ((noticed 2 creates).mpr (Nat.le_refl 2))).2.1⟩

/-- A third modifier goes over the words that are looked at: the cache keeps its list of tables. -/
theorem third_modifier_unnoticed :
    CreatesOrDrops 3 "CREATE OR REPLACE TEMPORARY TABLE purchase (id int)" ∧
      changesSchema "CREATE OR REPLACE TEMPORARY TABLE purchase (id int)" = false ∧
      (observe { tables := some ["customer"] }
        "CREATE OR REPLACE TEMPORARY TABLE purchase (id int)").tables = some ["customer"] := by
  refine ⟨⟨"CREATE", ["OR", "REPLACE", "TEMPORARY", "TABLE", "purchase", "(id", "int)"],
    by decide +kernel, by decide, ?_⟩, by decide +kernel, by decide +kernel⟩
  exact .modifier (by decide) (.modifier (by decide) (.modifier (by decide) (.kind (by decide))))

end RecordMapper.SchemaCache
