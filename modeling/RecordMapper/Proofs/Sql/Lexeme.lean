import Mathlib.Data.String.Basic
import RecordMapper.Proofs.Sql.Token

/-!
Names as they stand in SQL text: each reads as one token that stands for the name, whatever
characters it has, and a bare name is never a reserved word.
-/

set_option autoImplicit false

namespace RecordMapper.Sql

/-! ## Reserved words -/

private theorem reservedWords_ordered : reservedWords.Pairwise (· < ·) := by decide +kernel

/-- Below a word of an ordered list stand the lesser words, and above it the greater ones. -/
theorem mem_split_iff {word middle : String} {below above : List String}
    (ordered : (below ++ middle :: above).Pairwise (· < ·)) :
    word ∈ below ++ middle :: above ↔
      word = middle ∨ word < middle ∧ word ∈ below ∨ ¬ word < middle ∧ word ∈ above := by
  rw [List.pairwise_append, List.pairwise_cons] at ordered
  obtain ⟨_, ⟨greater, _⟩, apart⟩ := ordered
  rw [List.mem_append, List.mem_cons]
  constructor
  · rintro (inside | same | inside)
    · exact .inr (.inl ⟨apart word inside middle List.mem_cons_self, inside⟩)
    · exact .inl same
    · exact .inr (.inr ⟨lt_asymm (greater word inside), inside⟩)
  · rintro (same | ⟨_, inside⟩ | ⟨_, inside⟩)
    · exact .inr (.inl same)
    · exact .inl inside
    · exact .inr (.inr inside)

/-- Halving an ordered list finds exactly its members. -/
theorem holdsWord_iff {word : String} {fuel : Nat} {words : List String}
    (ordered : words.Pairwise (· < ·)) (enough : words.length ≤ fuel) :
    holdsWord word fuel words = true ↔ word ∈ words := by
  induction fuel generalizing words with
  | zero =>
      have empty : words = [] := List.length_eq_zero_iff.mp (Nat.le_zero.mp enough)
      simp [holdsWord, empty]
  | succ fuel ih =>
      rw [holdsWord]
      cases split : words.drop (words.length / 2) with
      | nil =>
          have short : words.length ≤ words.length / 2 := List.drop_eq_nil_iff.mp split
          have empty : words = [] := List.length_eq_zero_iff.mp (by omega)
          simp [empty]
      | cons middle above =>
          have whole : words = words.take (words.length / 2) ++ middle :: above := by
            rw [← split, List.take_append_drop]
          have lengths := congrArg List.length split
          simp only [List.length_drop, List.length_cons] at lengths
          have halves := ordered
          rw [whole] at halves
          have member := (mem_split_iff halves : word ∈ _ ↔ _)
          rw [← whole] at member
          have shorter : (words.take (words.length / 2)).length ≤ fuel := by
            rw [List.length_take]
            omega
          have lows := ih (ordered.sublist (List.take_sublist _ _)) shorter
          have highs := ih (halves.sublist
            ((List.sublist_cons_self _ _).trans (List.sublist_append_right _ _))) (by omega)
          rw [member]
          dsimp only
          split
          · rename_i same
            exact ⟨fun _ => .inl same, fun _ => rfl⟩
          split
          · rename_i other below
            simp [lows, other, below]
          · rename_i other notBelow
            simp [highs, other, notBelow]

private theorem isReserved_iff {name : String} : isReserved name = true ↔ name ∈ reservedWords :=
  holdsWord_iff reservedWords_ordered (Nat.le_refl _)

/-- A name that stands bare is no reserved word. -/
theorem not_mem_reservedWords_of_bare {name : String} (bare : ¬ isReserved name = true) :
    name ∉ reservedWords :=
  mt isReserved_iff.mpr bare

private theorem ne_ofList_enclose (quote : Char) (name : String) :
    String.ofList (enclose quote name.toList) ≠ name := by
  intro same
  have lengths := congrArg (fun text => text.toList.length) same
  have doubled : name.toList.length ≤
      (name.toList.flatMap fun c => if c = quote then [quote, quote] else [c]).length := by
    induction name.toList with
    | nil => simp
    | cons c cs ih =>
        rw [List.flatMap_cons, List.length_append, List.length_cons]
        split <;> simp only [List.length_cons, List.length_nil] <;> omega
  simp only [enclose, String.toList_ofList, List.cons_append, List.length_cons, List.length_append,
    List.length_nil] at lengths
  omega

/-- A name that is written as it is is no reserved word. -/
theorem not_mem_reservedWords_of_identifier {d : Dialect} {name : String}
    (bare : identifier d name = name) : name ∉ reservedWords := by
  unfold identifier at bare
  split at bare
  · rename_i plain
    simp only [Bool.and_eq_true, Bool.not_eq_true', ← Bool.not_eq_true] at plain
    exact not_mem_reservedWords_of_bare plain.2
  · exact absurd bare (ne_ofList_enclose (nameQuote d) name)

/-! ## Names -/

def inBareName (c : Char) : Bool := Name.isSmallLetter c || Name.isAsciiDigit c || c == '_'

theorem isAlpha_of_isSmallLetter {c : Char} (small : Name.isSmallLetter c = true) :
    c.isAlpha = true := by
  have lower : c.isLower = true := small
  have letter : c.isAlpha = (c.isUpper || c.isLower) := rfl
  rw [letter, lower, Bool.or_true]

private theorem inWord_of_inBareName {c : Char} (bare : inBareName c = true) : inWord c = true := by
  simp only [inBareName, Bool.or_eq_true] at bare
  rcases bare with (small | digit) | underscore
  · simp [inWord, startsWord, isAlpha_of_isSmallLetter small]
  · simp [inWord, digit]
  · simp [inWord, startsWord, underscore]

private theorem toLower_of_inBareName {c : Char} (bare : inBareName c = true) : c.toLower = c := by
  have notCapital : ¬ (c.val ≥ 'A'.val ∧ c.val ≤ 'Z'.val) := by
    rintro ⟨low, high⟩
    simp only [inBareName, Name.isSmallLetter, Name.isAsciiDigit, Bool.or_eq_true,
      Bool.and_eq_true, decide_eq_true_eq, beq_iff_eq, Char.le_def] at bare
    rcases bare with (⟨small, _⟩ | ⟨_, digit⟩) | rfl
    · exact absurd (UInt32.le_trans small high) (by decide)
    · exact absurd (UInt32.le_trans low digit) (by decide)
    · exact absurd high (by decide)
  exact dif_neg notCapital

/-- The characters of a bare name: one that starts a word, and others that go on with it. -/
theorem exists_of_isBareName {name : String} (bare : isBareName name = true) :
    ∃ c cs, name.toList = c :: cs ∧ startsWord c = true ∧ ∀ x ∈ c :: cs, inBareName x = true := by
  rw [isBareName] at bare
  split at bare
  · cases bare
  · rename_i c cs chars
    simp only [Bool.and_eq_true, Bool.or_eq_true, List.all_eq_true] at bare
    obtain ⟨first, others⟩ := bare
    refine ⟨c, cs, chars, ?_, List.forall_mem_cons.mpr ⟨?_, fun x member => ?_⟩⟩
    · rcases first with small | underscore
      · simp [startsWord, isAlpha_of_isSmallLetter small]
      · simp [startsWord, underscore]
    · rcases first with small | underscore <;> simp [inBareName, *]
    · simpa [inBareName] using others x member

/-- A bare name that is not reserved reads as that name in both dialects. -/
theorem wordToken_bare {d : Dialect} {name : String} (bare : isBareName name = true)
    (free : name ∉ reservedWords) : wordToken d name = .name name := by
  obtain ⟨c, cs, chars, _, all⟩ := exists_of_isBareName bare
  have small : Text.asciiLower name = name := by
    rw [Text.asciiLower, chars, List.map_congr_left (fun x member => toLower_of_inBareName (all x member)),
      List.map_id', ← chars, String.ofList_toList]
  cases d <;> simp [wordToken, small, free]

private theorem scan_word_append {d : Dialect} {cs : List Char} (word : ∀ c ∈ cs, inWord c = true)
    (read rest : List Char) :
    scan d (.word read) (cs ++ rest) = scan d (.word (cs.reverse ++ read)) rest := by
  induction cs generalizing read with
  | nil => rfl
  | cons c cs ih =>
      obtain ⟨first, others⟩ := List.forall_mem_cons.mp word
      rw [List.cons_append, scan_cons_grow (.word (c :: read)) (by simp [grow, first]),
        ih others]
      simp

private theorem isSpace_of_startsWord {c : Char} (starts : startsWord c = true) :
    isSpace c = false := by
  have letter : c.isAlpha = (decide (c.val ≥ 'A'.val ∧ c.val ≤ 'Z'.val) ||
      decide (c.val ≥ 'a'.val) && decide (c.val ≤ 'z'.val)) := rfl
  have far : 33 ≤ c.toNat := by
    simp only [startsWord, letter, Bool.or_eq_true, Bool.and_eq_true, decide_eq_true_eq,
      beq_iff_eq, UInt32.le_iff_toNat_le, ge_iff_le] at starts
    rcases starts with ((⟨capital, _⟩ | ⟨small, _⟩) | rfl) | beyond
    · exact Nat.le_trans (by decide) capital
    · exact Nat.le_trans (by decide) small
    · decide
    · exact Nat.le_trans (by decide) beyond
  rw [Bool.eq_false_iff]
  intro space
  simp only [isSpace, Bool.or_eq_true, Bool.and_eq_true, decide_eq_true_eq, beq_iff_eq] at space
  rcases space with rfl | ⟨_, low⟩
  · exact absurd far (by decide)
  · omega

theorem begin_word {d : Dialect} {c : Char} (starts : startsWord c = true) :
    begin? d c = some (.word [c]) := by
  simp [begin?, isSpace_of_startsWord starts, starts]

/-- Between quotes without escapes, a text with its quotes doubled is read to the closing quote. -/
theorem scan_enclosed {d : Dialect} {kind : Quotation} (plain : hasEscapes d kind = false)
    (quote : Quote) (cs read rest : List Char) :
    scan d (.inside kind quote read)
        (cs.flatMap (fun c => if c = quote.char then [quote.char, quote.char] else [c]) ++
          quote.char :: rest) =
      scan d (.closed kind quote (cs.reverse ++ read)) rest := by
  induction cs generalizing read with
  | nil => exact scan_cons_grow _ (by simp [grow]) rest
  | cons c cs ih =>
      by_cases same : c = quote.char
      · subst same
        rw [List.flatMap_cons, if_pos rfl]
        simp only [List.cons_append, List.nil_append]
        rw [scan_cons_grow (.closed kind quote read) (by simp [grow]),
          scan_cons_grow (.inside kind quote (quote.char :: read)) (by simp [grow]), ih]
        simp
      · rw [List.flatMap_cons, if_neg same]
        simp only [List.cons_append, List.nil_append]
        rw [scan_cons_grow (.inside kind quote (c :: read)) (by simp [grow, same, plain]),
          ih]
        simp

def nameQuotes : Dialect → Quote
  | .mysql => .back
  | .postgresql => .double

def endsName (c : Char) : Bool := isCloser c || c == '.'

private theorem endsName_iff {c : Char} : endsName c = true ↔
    (c = ' ' ∨ c = ',' ∨ c = ')' ∨ c = ';' ∨ c = '(') ∨ c = '.' := by
  rw [endsName, Bool.or_eq_true, isCloser_iff, beq_iff_eq]

/-- The state of the scan behind a name: one in which the name is finished. -/
theorem exists_scan_identifier (d : Dialect) (name : String) :
    ∃ s, (∀ rest, lex d ((identifier d name).toList ++ rest) = scan d s rest) ∧
      finish d s = some [.name name] ∧ ∀ c, endsName c = true → grow d s c = none := by
  rw [identifier]
  split
  · rename_i plain
    simp only [Bool.and_eq_true, Bool.not_eq_true', ← Bool.not_eq_true] at plain
    obtain ⟨bare, free⟩ := plain
    obtain ⟨c, cs, chars, first, all⟩ := exists_of_isBareName bare
    have others : ∀ x ∈ cs, inWord x = true := fun x member =>
      inWord_of_inBareName (all x (List.mem_cons_of_mem c member))
    have spelling : String.ofList (cs.reverse ++ [c]).reverse = name := by
      rw [List.reverse_append, List.reverse_reverse, List.reverse_singleton,
        List.singleton_append, ← chars, String.ofList_toList]
    refine ⟨.word (cs.reverse ++ [c]), fun rest => ?_, ?_, fun c ends => ?_⟩
    · rw [chars, List.cons_append, lex_cons, begin_word first, Option.bind_some,
        scan_word_append others]
    · rw [finish, spelling, wordToken_bare bare (not_mem_reservedWords_of_bare free)]
    · rw [endsName_iff] at ends
      rcases ends with (rfl | rfl | rfl | rfl | rfl) | rfl <;> rfl
  · have quote : nameQuote d = (nameQuotes d).char := by cases d <;> rfl
    have begins : begin? d (nameQuote d) = some (.inside .name (nameQuotes d) []) := by
      cases d <;> rfl
    have plain : hasEscapes d .name = false := by cases d <;> rfl
    refine ⟨.closed .name (nameQuotes d) name.toList.reverse, fun rest => ?_, ?_, fun c ends => ?_⟩
    · rw [String.toList_ofList, enclose, List.cons_append, List.cons_append, lex_cons, begins,
        Option.bind_some, quote, List.append_assoc, List.singleton_append, scan_enclosed plain,
        List.append_nil]
    · simp [finish]
    · rw [endsName_iff] at ends
      cases d <;> rcases ends with (rfl | rfl | rfl | rfl | rfl) | rfl <;> rfl

/-- A name in front of a text that does not go on with it is one token, which stands for the
name. -/
theorem lex_identifier_append (d : Dialect) (name : String) {rest : List Char}
    (ends : ∀ c ∈ rest.head?, endsName c = true) :
    lex d ((identifier d name).toList ++ rest) = (lex d rest).map ([.name name] ++ ·) := by
  obtain ⟨s, reads, finished, stops⟩ := exists_scan_identifier d name
  rw [reads, scan_stopped finished fun c member => stops c (ends c member)]

theorem lex_identifier (d : Dialect) (name : String) :
    lex d (identifier d name).toList = some [.name name] := by
  have alone : ∀ c ∈ ([] : List Char).head?, endsName c = true := by simp
  simpa using lex_identifier_append d name alone

end RecordMapper.Sql
