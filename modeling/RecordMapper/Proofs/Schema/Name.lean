import Mathlib.Data.List.DropRight
import RecordMapper.Schema.Model

/-!
Names in normal form. What has been lowered is lowercase everywhere, and lowering makes no blanks, so
that the normal form of a normal form is itself.
-/

set_option autoImplicit false

namespace RecordMapper

namespace Text

/-! ## The characters that lowering moves -/

/-- A set of numbers, held as the bits of one number. -/
def bits (points : List Nat) : Nat := points.foldl (fun held point => held ||| 1 <<< point) 0

private theorem testBit_bits (points : List Nat) (point : Nat) :
    (bits points).testBit point = decide (point ∈ points) := by
  have grown (held : Nat) : (points.foldl (fun held point => held ||| 1 <<< point) held).testBit
      point = (held.testBit point || decide (point ∈ points)) := by
    induction points generalizing held with
    | nil => simp
    | cons first rest ih =>
        rw [List.foldl_cons, ih, Nat.testBit_or, Nat.one_shiftLeft, Nat.testBit_two_pow]
        simp [eq_comm (a := point), Bool.or_assoc]
  rw [bits, grown, Nat.zero_testBit, Bool.false_or]

private theorem not_mem_of_bits {first second : List Nat} (apart : bits first &&& bits second = 0)
    {point : Nat} (member : point ∈ first) : point ∉ second := by
  intro other
  have both := congrArg (Nat.testBit · point) apart
  simp [testBit_bits, member, other] at both

def runPoints : Nat × Nat × Nat × Int → List Nat := fun (first, last, step, _) =>
  (List.range' first (last + 1 - first)).filter fun point => (point - first) % step == 0

def raised : List Nat := lowerRuns.flatMap runPoints

def lowered : List Nat :=
  lowerRuns.flatMap fun run => (runPoints run).map fun point => (Int.ofNat point + run.2.2.2).toNat

def blanks : List Nat :=
  List.range' 9 5 ++ [0x20, 0x85, 0xA0, 0x1680] ++ List.range' 0x2000 11 ++
    [0x2028, 0x2029, 0x202F, 0x205F, 0x3000]

private theorem mem_blanks_of_isBlank {c : Char} (blank : isBlank c = true) : c.toNat ∈ blanks := by
  simp only [isBlank, Bool.or_eq_true, Bool.and_eq_true, decide_eq_true_eq, beq_iff_eq] at blank
  simp only [blanks, List.mem_append, List.mem_range'_1, List.mem_cons, List.not_mem_nil]
  omega

-- No character is moved twice, and none becomes a blank. Comparing the lists themselves would compare
-- each of a thousand numbers with each other one.
private theorem lowered_apart :
    bits lowered &&& bits (0x130 :: blanks ++ raised) = 0 := by decide +kernel

private theorem toNat_ofNat_of_mem_lowered :
    ∀ point ∈ lowered, (Char.ofNat point).toNat = point := by
  decide +kernel

def runOf (c : Char) : Nat × Nat × Nat × Int → Bool := fun (first, last, step, _) =>
  first ≤ c.toNat && c.toNat ≤ last && (c.toNat - first) % step == 0

theorem runOf_iff_mem {c : Char} (run : Nat × Nat × Nat × Int) :
    runOf c run = true ↔ c.toNat ∈ runPoints run := by
  simp only [runOf, runPoints, List.mem_filter, List.mem_range'_1, Bool.and_eq_true,
    decide_eq_true_eq]
  exact and_congr_left fun _ => by omega

theorem lowerChar_of_wide {c : Char} (wide : 0x80 ≤ c.toNat) (undotted : c.toNat ≠ 0x130) :
    lowerChar c = match lowerRuns.find? (runOf c) with
      | some (_, _, _, shift) => [Char.ofNat (Int.ofNat c.toNat + shift).toNat]
      | none => [c] := by
  unfold lowerChar
  dsimp only
  rw [if_neg (Nat.not_lt.mpr wide), if_neg undotted]
  rfl

/-- Above ASCII a character goes where a run moves it. The dotted capital I is apart. -/
theorem lowerChar_of_mem {c : Char} (wide : 0x80 ≤ c.toNat) (undotted : c.toNat ≠ 0x130)
    (moved : c.toNat ∈ raised) : ∃ point ∈ lowered, lowerChar c = [Char.ofNat point] := by
  obtain ⟨run, held, inside⟩ := List.mem_flatMap.mp moved
  rw [lowerChar_of_wide wide undotted]
  cases found : lowerRuns.find? (runOf c) with
  | none => exact absurd ((runOf_iff_mem run).mpr inside) (List.find?_eq_none.mp found run held)
  | some run =>
      have inside := (runOf_iff_mem run).mp (List.find?_some found)
      exact ⟨_, List.mem_flatMap.mpr
        ⟨run, List.mem_of_find?_eq_some found, List.mem_map_of_mem inside⟩, rfl⟩

theorem lowerChar_of_not_mem {c : Char} (wide : 0x80 ≤ c.toNat) (undotted : c.toNat ≠ 0x130)
    (fixed : c.toNat ∉ raised) : lowerChar c = [c] := by
  have missed : lowerRuns.find? (runOf c) = none := by
    rw [List.find?_eq_none]
    intro run held applies
    exact fixed (List.mem_flatMap.mpr ⟨run, held, (runOf_iff_mem run).mp applies⟩)
  rw [lowerChar_of_wide wide undotted, missed]

/-! ## Lowercase characters -/

def IsLower (c : Char) : Prop := lowerChar c = [c] ∧ c ≠ 'Σ'

instance : DecidablePred IsLower := fun _ => inferInstanceAs (Decidable (_ ∧ _))

private theorem isLower_toLower : ∀ point < 0x80, IsLower (Char.ofNat point).toLower ∧
    (isBlank (Char.ofNat point).toLower = true → isBlank (Char.ofNat point) = true) := by
  decide +kernel

private theorem isLower_of_small : ∀ point < 0x80,
    IsLower (Char.ofNat point) ∨ point ∈ runPoints (0x41, 0x5A, 1, 32) := by
  decide +kernel

theorem isLower_of_not_mem {c : Char} (undotted : c.toNat ≠ 0x130) (fixed : c.toNat ∉ raised) :
    IsLower c := by
  by_cases small : c.toNat < 0x80
  · rcases isLower_of_small c.toNat small with held | moved
    · rwa [Char.ofNat_toNat] at held
    · exact absurd (List.mem_flatMap.mpr ⟨_, List.mem_cons_self, moved⟩) fixed
  · refine ⟨lowerChar_of_not_mem (Nat.not_lt.mp small) undotted fixed, ?_⟩
    rintro rfl
    exact fixed (by decide +kernel)

private theorem isLower_of_mem_lowered {point : Nat} (member : point ∈ lowered) :
    IsLower (Char.ofNat point) ∧ isBlank (Char.ofNat point) = false := by
  have same := toNat_ofNat_of_mem_lowered point member
  have outside := not_mem_of_bits lowered_apart member
  rw [List.cons_append, List.mem_cons, List.mem_append] at outside
  push Not at outside
  obtain ⟨undotted, unblank, fixed⟩ := outside
  constructor
  · exact isLower_of_not_mem (by rwa [same]) (by rwa [same])
  · apply Bool.eq_false_iff.mpr
    intro blank
    exact unblank (same ▸ mem_blanks_of_isBlank blank)

/-- The ways in which a character comes from lowering one. -/
theorem mem_lowerChar {c low : Char} (member : low ∈ lowerChar c) :
    (c.toNat < 0x80 ∧ low = c.toLower) ∨ (c = 'İ' ∧ low ∈ ['i', Char.ofNat 0x307]) ∨
      (0x80 ≤ c.toNat ∧ ∃ point ∈ lowered, low = Char.ofNat point) ∨
      (0x80 ≤ c.toNat ∧ c.toNat ≠ 0x130 ∧ c.toNat ∉ raised ∧ low = c) := by
  by_cases small : c.toNat < 0x80
  · have single : lowerChar c = [c.toLower] := if_pos small
    rw [single, List.mem_singleton] at member
    exact .inl ⟨small, member⟩
  have wide := Nat.not_lt.mp small
  by_cases dotted : c.toNat = 0x130
  · obtain rfl : c = 'İ' := Char.toNat_inj.mp dotted
    have pair : lowerChar 'İ' = ['i', Char.ofNat 0x307] := by decide +kernel
    exact .inr (.inl ⟨rfl, pair ▸ member⟩)
  by_cases moved : c.toNat ∈ raised
  · obtain ⟨point, held, single⟩ := lowerChar_of_mem wide dotted moved
    rw [single, List.mem_singleton] at member
    exact .inr (.inr (.inl ⟨wide, point, held, member⟩))
  · rw [lowerChar_of_not_mem wide dotted moved, List.mem_singleton] at member
    exact .inr (.inr (.inr ⟨wide, dotted, moved, member⟩))

/-- Lowering gives lowercase characters, and a blank only for a blank. -/
theorem isLower_of_mem_lowerChar {c low : Char} (member : low ∈ lowerChar c) :
    IsLower low ∧ (isBlank low = true → isBlank c = true) := by
  rcases mem_lowerChar member with
    ⟨small, rfl⟩ | ⟨rfl, pair⟩ | ⟨_, point, held, rfl⟩ | ⟨_, undotted, fixed, rfl⟩
  · have lower := isLower_toLower c.toNat small
    rwa [Char.ofNat_toNat] at lower
  · rw [List.mem_cons, List.mem_singleton] at pair
    rcases pair with rfl | rfl <;> decide +kernel
  · obtain ⟨lower, unblank⟩ := isLower_of_mem_lowered held
    exact ⟨lower, fun blank => absurd blank (by rw [unblank]; decide)⟩
  · exact ⟨isLower_of_not_mem undotted fixed, id⟩

/-! ## Lowercase text -/

def lowerAt (before : List Char) (c : Char) (rest : List Char) : List Char :=
  if c = 'Σ' then [if startsCased before && !startsCased rest then 'ς' else 'σ'] else lowerChar c

theorem lowerAfter_cons (before : List Char) (c : Char) (rest : List Char) :
    lowerAfter before (c :: rest) = lowerAt before c rest ++ lowerAfter (c :: before) rest := rfl

theorem isLower_of_mem_lowerAt {before rest : List Char} {c low : Char}
    (member : low ∈ lowerAt before c rest) : IsLower low ∧ (isBlank low = true → isBlank c = true) := by
  unfold lowerAt at member
  split at member
  · rw [List.mem_singleton] at member
    rw [member]
    split <;> exact ⟨by decide, fun blank => absurd blank (by decide)⟩
  · exact isLower_of_mem_lowerChar member

theorem lowerAt_ne_nil (before : List Char) (c : Char) (rest : List Char) :
    lowerAt before c rest ≠ [] := by
  unfold lowerAt lowerChar
  dsimp only
  repeat' split
  all_goals exact List.cons_ne_nil _ _

private theorem isLower_of_mem_lowerAfter {before cs : List Char} {low : Char}
    (member : low ∈ lowerAfter before cs) : IsLower low := by
  induction cs generalizing before with
  | nil => cases member
  | cons c rest ih =>
      rcases List.mem_append.mp member with here | later
      · exact (isLower_of_mem_lowerAt here).1
      · exact ih later

private theorem lowerAfter_of_isLower {before cs : List Char} (lower : ∀ c ∈ cs, IsLower c) :
    lowerAfter before cs = cs := by
  induction cs generalizing before with
  | nil => rfl
  | cons c rest ih =>
      obtain ⟨⟨same, notSigma⟩, others⟩ := List.forall_mem_cons.mp lower
      rw [lowerAfter_cons, lowerAt, if_neg notSigma, same, ih others]
      rfl

/-! ## Text without blanks at its ends -/

def Trimmed (drops : Char → Bool) (cs : List Char) : Prop :=
  (∀ c ∈ cs.head?, drops c = false) ∧ ∀ c ∈ cs.getLast?, drops c = false

theorem dropWhile_of_head {drops : Char → Bool} {cs : List Char}
    (kept : ∀ c ∈ cs.head?, drops c = false) : cs.dropWhile drops = cs := by
  cases cs with
  | nil => rfl
  | cons c rest => exact List.dropWhile_cons_of_neg (by simp [kept c rfl])

private theorem of_mem_head?_dropWhile {drops : Char → Bool} {cs : List Char} {c : Char}
    (first : c ∈ (cs.dropWhile drops).head?) : drops c = false := by
  have kept := List.head?_dropWhile_not drops cs
  rw [Option.mem_def.mp first] at kept
  exact kept

theorem trimmed_trimBoth (drops : Char → Bool) (cs : List Char) :
    Trimmed drops (trimBoth drops cs) := by
  constructor
  · intro c first
    have start : trimBoth drops cs <+: cs.dropWhile drops := List.rdropWhile_prefix drops _
    obtain ⟨rest, whole⟩ := start
    apply @of_mem_head?_dropWhile drops cs
    rw [← whole, List.head?_append, Option.mem_def.mp first]
    rfl
  · intro c last
    rw [trimBoth, List.getLast?_reverse] at last
    exact of_mem_head?_dropWhile last

theorem trimBoth_of_trimmed {drops : Char → Bool} {cs : List Char} (trimmed : Trimmed drops cs) :
    trimBoth drops cs = cs := by
  obtain ⟨first, last⟩ := trimmed
  rw [trimBoth, dropWhile_of_head first, dropWhile_of_head (by rwa [List.head?_reverse]),
    List.reverse_reverse]

theorem trim_eq_self_iff {text : String} : trim text = text ↔ Trimmed isBlank text.toList := by
  constructor
  · intro same
    rw [← same, trim, String.toList_ofList]
    exact trimmed_trimBoth isBlank text.toList
  · intro trimmed
    rw [trim, trimBoth_of_trimmed trimmed, String.ofList_toList]

/-- A kept character joins the kept ends of two texts. -/
theorem Trimmed.around {drops : Char → Bool} {cs others : List Char} {c : Char}
    (first : Trimmed drops cs) (kept : drops c = false) (last : Trimmed drops others) :
    Trimmed drops (cs ++ c :: others) := by
  constructor
  · intro start member
    cases cs with
    | nil =>
        cases member
        exact kept
    | cons next cs => exact first.1 start member
  · intro stop member
    rw [List.getLast?_append_of_ne_nil _ (List.cons_ne_nil c others)] at member
    cases others with
    | nil =>
        cases member
        exact kept
    | cons next others =>
        rw [List.getLast?_cons_cons] at member
        exact last.2 stop member

private theorem lowerAfter_ne_nil (before : List Char) (c : Char) (rest : List Char) :
    lowerAfter before (c :: rest) ≠ [] := by
  rw [lowerAfter_cons]
  exact List.append_ne_nil_of_left_ne_nil (lowerAt_ne_nil before c rest) _

private theorem not_isBlank_of_mem_lowerAt {before rest : List Char} {c low : Char}
    (unblank : isBlank c = false) (member : low ∈ lowerAt before c rest) : isBlank low = false := by
  apply Bool.eq_false_iff.mpr
  intro blank
  rw [(isLower_of_mem_lowerAt member).2 blank] at unblank
  cases unblank

/-- Lowering leaves the ends of a text free of blanks. -/
theorem trimmed_lowerAfter (before : List Char) {cs : List Char} (trimmed : Trimmed isBlank cs) :
    Trimmed isBlank (lowerAfter before cs) := by
  obtain ⟨first, last⟩ := trimmed
  constructor
  · intro low start
    cases cs with
    | nil => cases start
    | cons c rest =>
        rw [lowerAfter_cons, List.head?_append_of_ne_nil _ (lowerAt_ne_nil before c rest)] at start
        exact not_isBlank_of_mem_lowerAt (first c rfl) (List.mem_of_head? start)
  · clear first
    intro low stop
    induction cs generalizing before with
    | nil => cases stop
    | cons c rest ih =>
        rw [lowerAfter_cons] at stop
        cases rest with
        | nil =>
            rw [lowerAfter, List.append_nil] at stop
            exact not_isBlank_of_mem_lowerAt (last c rfl) (List.mem_of_getLast? stop)
        | cons next rest =>
            rw [List.getLast?_append_of_ne_nil _ (lowerAfter_ne_nil _ next rest)] at stop
            exact ih (c :: before) last stop

end Text

namespace Name

theorem trimmed_and_isLower_normalize (name : String) :
    Text.Trimmed Text.isBlank (normalize name).toList ∧
      ∀ c ∈ (normalize name).toList, Text.IsLower c := by
  rw [normalize, Text.lower, Text.trim, String.toList_ofList, String.toList_ofList]
  exact ⟨Text.trimmed_lowerAfter [] (Text.trimmed_trimBoth Text.isBlank name.toList),
    fun c member => Text.isLower_of_mem_lowerAfter member⟩

/-- The names in normal form. -/
theorem normalize_eq_self_iff {name : String} :
    normalize name = name ↔
      Text.Trimmed Text.isBlank name.toList ∧ ∀ c ∈ name.toList, Text.IsLower c := by
  constructor
  · intro same
    rw [← same]
    exact trimmed_and_isLower_normalize name
  · rintro ⟨trimmed, lower⟩
    rw [normalize, Text.trim_eq_self_iff.mpr trimmed, Text.lower, Text.lowerAfter_of_isLower lower,
      String.ofList_toList]

theorem normalize_normalize (name : String) : normalize (normalize name) = normalize name :=
  normalize_eq_self_iff.mpr (trimmed_and_isLower_normalize name)

end Name

end RecordMapper
