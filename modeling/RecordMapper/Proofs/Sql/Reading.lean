import RecordMapper.Proofs.Sql.Condition

/-!
How tokens are read where they may stand. An operand of a connective has no connective of its own
outside parentheses; a whole condition stands between parentheses or alone.
-/

set_option autoImplicit false

namespace RecordMapper.Sql

/-! ## Splitting at connectives -/

section

variable {d : Dialect} {items : List Item}

theorem readJoined_singleton (how : Combinator) (read : List Item → Option Condition)
    (items : List Item) : readJoined how read [items] = read items := by
  cases reading : read items with
  | none => simp [readJoined, reading]
  | some condition => simp [readJoined, reading, Condition.joinAll]

private theorem rejoin_eq_self {pieces : List (List Item)}
    (plain : ∀ piece ∈ pieces, ∀ item ∈ piece, item.isKeyword "between" = false) :
    rejoin pieces = pieces := by
  induction pieces with
  | nil => rfl
  | cons piece pieces ih =>
      obtain ⟨first, others⟩ := List.forall_mem_cons.mp plain
      cases pieces with
      | nil => rfl
      | cons next pieces =>
          have single : piece.any (Item.isKeyword "between") = false := by
            simpa using first
          rw [rejoin, single, ih others]
          rfl

private theorem readConjunction_eq (free : ∀ item ∈ items, item.isKeyword "and" = false) :
    readConjunction d items = readNegation d items := by
  rw [readConjunction, List.splitOnP_eq_singleton free]
  exact readJoined_singleton _ _ _

theorem readExclusive_eq (free : ∀ item ∈ items, item.isKeyword "xor" = false) :
    readExclusive d items = readConjunction d items := by
  cases d with
  | mysql =>
      rw [readExclusive, List.splitOnP_eq_singleton free]
      exact readJoined_singleton _ _ _
  | postgresql => rfl

theorem readDisjunction_eq (free : ∀ item ∈ items, item.isKeyword "or" = false) :
    readDisjunction d items = readExclusive d items := by
  rw [readDisjunction, List.splitOnP_eq_singleton free]
  exact readJoined_singleton _ _ _

theorem Item.isConnective_eq_false {item : Item} : item.isConnective = false ↔
    item.isKeyword "and" = false ∧ item.isKeyword "or" = false ∧ item.isKeyword "xor" = false ∧
      item.isKeyword "between" = false := by
  simp [Item.isConnective, and_assoc]

def Plain (items : List Item) : Prop := ∀ item ∈ items, item.isConnective = false

theorem Plain.readConjunction_eq (plain : Plain items) :
    readConjunction d items = readNegation d items := by
  apply Sql.readConjunction_eq
  intro item member
  exact (Item.isConnective_eq_false.mp (plain item member)).1

theorem Plain.readExclusive_eq (plain : Plain items) :
    readExclusive d items = readNegation d items := by
  rw [Sql.readExclusive_eq, plain.readConjunction_eq]
  intro item member
  exact (Item.isConnective_eq_false.mp (plain item member)).2.2.1

private theorem Plain.readDisjunction_eq (plain : Plain items) :
    readDisjunction d items = readNegation d items := by
  rw [Sql.readDisjunction_eq, plain.readExclusive_eq]
  intro item member
  exact (Item.isConnective_eq_false.mp (plain item member)).2.1

end

section

variable {separator : Item} {pieces : List (List Item)}

theorem splitOnP_intercalate {separates : Item → Bool} (between : separates separator = true)
    (filled : pieces ≠ []) (free : ∀ piece ∈ pieces, ∀ item ∈ piece, separates item = false) :
    ([separator].intercalate pieces).splitOnP separates = pieces := by
  induction pieces with
  | nil => exact absurd rfl filled
  | cons piece pieces ih =>
      obtain ⟨first, others⟩ := List.forall_mem_cons.mp free
      cases pieces with
      | nil => simpa using List.splitOnP_eq_singleton first
      | cons next pieces =>
          rw [List.intercalate_cons_cons, List.append_assoc, List.singleton_append,
            List.splitOnP_append_cons_of_forall_mem first separator between,
            ih (List.cons_ne_nil _ _) others]

end

/-! ## Operands and whole conditions -/

def ReadsOperand (d : Dialect) (tokens : List Token) (meaning : Meaning) : Prop :=
  ∃ items condition, Gathers d tokens items ∧ Plain items ∧
    readNegation d items = some condition ∧ ∀ v, condition.truth v = meaning v

def ReadsWhole (d : Dialect) (tokens : List Token) (meaning : Meaning) : Prop :=
  ∃ items condition, Gathers d tokens items ∧
    readDisjunction d items = some condition ∧ ∀ v, condition.truth v = meaning v

def Meaning.joined (how : Combinator) (meanings : List Meaning) : Meaning :=
  fun v => how.truthAll (meanings.map fun meaning => meaning v)

variable {d : Dialect} {tokens : List Token} {meaning : Meaning}

theorem ReadsOperand.whole (reads : ReadsOperand d tokens meaning) :
    ReadsWhole d tokens meaning := by
  obtain ⟨items, condition, gathers, plain, reading, means⟩ := reads
  refine ⟨items, condition, gathers, ?_, means⟩
  rw [plain.readDisjunction_eq]
  exact reading

theorem ReadsWhole.enclosed (reads : ReadsWhole d tokens meaning) :
    ReadsOperand d (parenthesized tokens) meaning := by
  obtain ⟨items, condition, gathers, reading, means⟩ := reads
  refine ⟨_, condition, gathers.parenthesized, ?_, ?_, means⟩
  · intro item member
    rw [List.mem_singleton.mp member]
    rfl
  · exact reading

theorem ReadsOperand.not (reads : ReadsOperand d tokens meaning) :
    ReadsOperand d (.keyword "not" :: tokens) fun v => (meaning v).negate := by
  obtain ⟨items, condition, gathers, plain, reading, means⟩ := reads
  have word : Gathers d [.keyword "not"] [.single (.keyword "not")] :=
    Gathers.token (by decide) (by decide)
  refine ⟨_, .not condition, word.append gathers, ?_, ?_, ?_⟩
  · intro item member
    rcases List.mem_cons.mp member with rfl | inside
    · rfl
    · exact plain item inside
  · simp [readNegation, Item.isKeyword, reading]
  · intro v
    rw [Condition.truth, means]

/-- The pieces of several operands, and what they read as when they are joined. -/
theorem exists_readJoined {tokens : List (List Token)} {meanings : List Meaning}
    (each : List.Forall₂ (ReadsOperand d) tokens meanings) (filled : tokens ≠ [])
    (how : Combinator) {read : List Item → Option Condition}
    (agrees : ∀ items, Plain items → read items = readNegation d items) :
    ∃ pieces whole, List.Forall₂ (Gathers d) tokens pieces ∧ pieces ≠ [] ∧
      (∀ piece ∈ pieces, Plain piece) ∧ readJoined how read pieces = some whole ∧
      ∀ v, whole.truth v = Meaning.joined how meanings v := by
  obtain ⟨pieces, conditions, gathers, plain, reading, means⟩ :
      ∃ pieces conditions, List.Forall₂ (Gathers d) tokens pieces ∧
        (∀ piece ∈ pieces, Plain piece) ∧ pieces.mapM read = some conditions ∧
        ∀ v, conditions.map (Condition.truth v) = meanings.map fun meaning => meaning v := by
    clear filled
    induction each with
    | nil => exact ⟨[], [], .nil, by simp, by simp, fun _ => rfl⟩
    | cons first rest ih =>
        obtain ⟨piece, condition, gathersFirst, plainFirst, readingFirst, meansFirst⟩ := first
        obtain ⟨pieces, conditions, gathers, plain, reading, means⟩ := ih
        refine ⟨piece :: pieces, condition :: conditions, .cons gathersFirst gathers,
          List.forall_mem_cons.mpr ⟨plainFirst, plain⟩, ?_, ?_⟩
        · simp [agrees piece plainFirst, readingFirst, reading]
        · intro v
          rw [List.map_cons, List.map_cons, meansFirst, means]
  have pieced : pieces ≠ [] := by
    rintro rfl
    cases gathers
    exact filled rfl
  cases conditions with
  | nil =>
      cases pieces with
      | nil => exact absurd rfl pieced
      | cons piece pieces =>
          simp [Option.bind_eq_some_iff] at reading
  | cons first others =>
      have joined : Condition.joinAll how (first :: others) =
          some (others.foldl (.combine how) first) := rfl
      refine ⟨pieces, others.foldl (.combine how) first, gathers, pieced, plain, ?_, fun v => ?_⟩
      · rw [readJoined, reading]
        exact joined
      · rw [Condition.truth_joinAll joined v, means v]
        rfl

section

variable {tokens : List (List Token)} {meanings : List Meaning}

theorem ReadsOperand.conjunction (each : List.Forall₂ (ReadsOperand d) tokens meanings)
    (filled : tokens ≠ []) :
    ReadsWhole d ([.keyword "and"].intercalate tokens) (Meaning.joined .and meanings) := by
  obtain ⟨pieces, whole, gathers, pieced, plain, reading, means⟩ :=
    exists_readJoined each filled .and fun _ _ => rfl
  have free {word : String} (other : (Item.single (.keyword "and")).isKeyword word = false)
      (connective : ∀ item : Item, item.isConnective = false → item.isKeyword word = false) :
      ∀ item ∈ [Item.single (.keyword "and")].intercalate pieces, item.isKeyword word = false := by
    intro item member
    rcases mem_intercalate member with separates | ⟨piece, inside, within⟩
    · rw [List.mem_singleton.mp separates]
      exact other
    · exact connective item (plain piece inside item within)
  refine ⟨_, whole, Gathers.intercalate (by decide) (by decide) gathers, ?_, means⟩
  rw [readDisjunction_eq (free (by decide) fun _ plain => (Item.isConnective_eq_false.mp plain).2.1),
    readExclusive_eq (free (by decide) fun _ plain => (Item.isConnective_eq_false.mp plain).2.2.1),
    readConjunction, splitOnP_intercalate (by decide) pieced, rejoin_eq_self, reading]
  · intro piece member item inside
    exact (Item.isConnective_eq_false.mp (plain piece member item inside)).2.2.2
  · intro piece member item inside
    exact (Item.isConnective_eq_false.mp (plain piece member item inside)).1

theorem ReadsOperand.disjunction (each : List.Forall₂ (ReadsOperand d) tokens meanings)
    (filled : tokens ≠ []) :
    ReadsWhole d ([.keyword "or"].intercalate tokens) (Meaning.joined .or meanings) := by
  obtain ⟨pieces, whole, gathers, pieced, plain, reading, means⟩ :=
    exists_readJoined each filled .or fun _ plain => plain.readExclusive_eq
  refine ⟨_, whole, Gathers.intercalate (by decide) (by decide) gathers, ?_, means⟩
  rw [readDisjunction, splitOnP_intercalate (by decide) pieced, reading]
  intro piece member item inside
  exact (Item.isConnective_eq_false.mp (plain piece member item inside)).2.1

theorem ReadsOperand.exclusive
    (each : List.Forall₂ (ReadsOperand .mysql) tokens meanings) (filled : tokens ≠ []) :
    ReadsWhole .mysql ([.keyword "xor"].intercalate tokens) (Meaning.joined .xor meanings) := by
  obtain ⟨pieces, whole, gathers, pieced, plain, reading, means⟩ :=
    exists_readJoined each filled .xor fun _ plain => plain.readConjunction_eq
  refine ⟨_, whole, Gathers.intercalate (by decide) (by decide) gathers, ?_, means⟩
  rw [readDisjunction_eq, readExclusive, splitOnP_intercalate (by decide) pieced, reading]
  · intro piece member item inside
    exact (Item.isConnective_eq_false.mp (plain piece member item inside)).2.2.1
  · intro item member
    rcases mem_intercalate member with separates | ⟨piece, inside, within⟩
    · rw [List.mem_singleton.mp separates]
      rfl
    · exact (Item.isConnective_eq_false.mp (plain piece inside item within)).2.1

end

/-- PostgreSQL reads two conditions in parentheses with `<>` between them as their exclusive
disjunction. -/
theorem ReadsWhole.unequal {left right : List Token} {first second : Meaning}
    (readsLeft : ReadsWhole .postgresql left first)
    (readsRight : ReadsWhole .postgresql right second) :
    ReadsOperand .postgresql (parenthesized left ++ .symbol "<>" :: parenthesized right)
      fun v => Combinator.xor.truth (first v) (second v) := by
  obtain ⟨lefts, leftCondition, gathersLeft, readingLeft, meansLeft⟩ := readsLeft
  obtain ⟨rights, rightCondition, gathersRight, readingRight, meansRight⟩ := readsRight
  have sign : Gathers .postgresql [.symbol "<>"] [.single (.symbol "<>")] :=
    Gathers.token (by decide) (by decide)
  refine ⟨_, .combine .xor leftCondition rightCondition,
    gathersLeft.parenthesized.append (sign.append gathersRight.parenthesized), ?_, ?_, ?_⟩
  · intro item member
    simp only [List.cons_append, List.nil_append, List.mem_cons, List.not_mem_nil, or_false]
      at member
    rcases member with rfl | rfl | rfl <;> rfl
  · simp [readNegation, Item.isKeyword, readOperand, readComparison, readingLeft, readingRight]
  · intro v
    rw [Condition.truth, meansLeft, meansRight]

/-- A comparison or a test, which starts with a token of its own, is an atom. -/
theorem readsOperand_atom {first : Token} {items : List Item}
    (gathers : Gathers d tokens (.single first :: items)) (plain : Plain (.single first :: items))
    (positive : first ≠ .keyword "not")
    (once : (Item.single first :: items).countP Item.isComparison ≤ 1)
    (spelled : (Item.single first :: items).flatMap Item.tokens = tokens) :
    ReadsOperand d tokens fun v => v.atom tokens := by
  refine ⟨_, .atom tokens, gathers, plain, ?_, fun _ => rfl⟩
  have notNegated : (Item.single first).isKeyword "not" = false := by
    simpa [Item.isKeyword] using positive
  rw [readNegation, notNegated, if_neg (by decide)]
  cases d with
  | mysql => simp only [readOperand, spelled]
  | postgresql =>
      have single : ¬ 1 < (Item.single first :: items).countP Item.isComparison := by omega
      simp only [readOperand, readComparison, single, spelled, if_false]

/-! ## Texts -/

theorem exists_readsWhole {text : String} {condition : Condition}
    (reading : readCondition d text = some condition) :
    ∃ tokens, lex d text.toList = some tokens ∧ ReadsWhole d tokens fun v => condition.truth v := by
  obtain ⟨tokens, lexed, rest⟩ := Option.bind_eq_some_iff.mp reading
  obtain ⟨items, gathered, read⟩ := Option.bind_eq_some_iff.mp rest
  exact ⟨tokens, lexed, items, condition, Gathers.of_gather gathered, read, fun _ => rfl⟩

theorem ReadsWhole.exists_readCondition {text : String} (reads : ReadsWhole d tokens meaning)
    (lexed : lex d text.toList = some tokens) :
    ∃ condition, readCondition d text = some condition ∧
      ∀ v, condition.truth v = meaning v := by
  obtain ⟨items, condition, gathers, reading, means⟩ := reads
  refine ⟨condition, ?_, means⟩
  simp [readCondition, lexed, gathers.gather, reading]

end RecordMapper.Sql
