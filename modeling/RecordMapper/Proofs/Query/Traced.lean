import RecordMapper.Proofs.Query.Move
import Mathlib.Data.List.Perm.Subperm

/-!
Filters with the numbers of the moves that they come from. A filter is read once more with every
leaf, negation and group numbered by the move that makes it; the numbers are all that is added. No
move makes two of them.
-/

set_option autoImplicit false

namespace RecordMapper

open FilterBuilder (Move after)

/-! ## Numbered filters -/

/-- A filter with the numbers of the moves that its leaves, negations and groups come from. -/
inductive Traced where
  | leaf (number : Nat) (added : Filter)
  | combine (how : Combinator) (left right : Traced)
  | not (number : Nat) (operand : Traced)
  | grouped (number : Nat) (operand : Traced)

namespace Traced

def erase : Traced → Filter
  | leaf _ added => added
  | combine how left right => .combine how left.erase right.erase
  | not _ operand => .not operand.erase
  | grouped _ operand => .grouped operand.erase

def numbers : Traced → List Nat
  | leaf number _ => [number]
  | combine _ left right => left.numbers ++ right.numbers
  | not number operand => number :: operand.numbers
  | grouped number operand => number :: operand.numbers

def negated (number : Nat) : Traced → List Traced
  | leaf _ _ => []
  | combine _ left right => left.negated number ++ right.negated number
  | not own operand => (if own = number then [operand] else []) ++ operand.negated number
  | grouped _ operand => operand.negated number

def core : Traced → Traced
  | not _ operand => operand.core
  | operand => operand

def pushed? : Traced → Option Nat
  | leaf number _ | grouped number _ => some number
  | combine .. | not .. => none

theorem numbers_ne_nil : (t : Traced) → t.numbers ≠ []
  | leaf _ _ | not _ _ | grouped _ _ => List.cons_ne_nil _ _
  | combine _ left right => by
    rw [numbers]
    exact List.append_ne_nil_of_left_ne_nil left.numbers_ne_nil _

theorem length_negated_le (number : Nat) (t : Traced) :
    (t.negated number).length ≤ t.numbers.count number := by
  induction t with
  | leaf own added => exact Nat.zero_le _
  | combine how left right ihl ihr =>
      rw [negated, numbers, List.length_append, List.count_append]
      exact Nat.add_le_add ihl ihr
  | not own operand ih =>
      rw [negated, numbers, List.length_append, List.count_cons]
      by_cases same : own = number
      · simp only [same, if_true, List.length_singleton, beq_self_eq_true]
        omega
      · simp only [same, if_false, List.length_nil]
        omega
  | grouped own operand ih =>
      rw [negated, numbers, List.count_cons]
      omega

theorem numbers_core_subset : (t : Traced) → t.core.numbers ⊆ t.numbers
  | not _ operand => List.subset_cons_of_subset _ operand.numbers_core_subset
  | leaf .. | grouped .. | combine .. => List.Subset.refl _

theorem core_of_pushed {t : Traced} {number : Nat} (pushed : t.pushed? = some number) :
    t.core = t := by
  cases t with
  | leaf | grouped => rfl
  | combine | not => cases pushed

/-! ## The numbered reading -/

inductive Pending where
  | not (number : Nat)
  | combine (how : Combinator) (left : Traced)

namespace Pending

def apply (p : Pending) (operand : Traced) : Traced :=
  match p with
  | .not number => .not number operand
  | .combine how left => .combine how left operand

def erase : Pending → RecordMapper.Pending
  | .not _ => .not
  | .combine how left => .combine how left.erase

def numbers : Pending → List Nat
  | .not number => [number]
  | .combine _ left => left.numbers

def negated (number : Nat) : Pending → List Traced
  | .not _ => []
  | .combine _ left => left.negated number

end Pending

def wrap (pending : List Pending) (operand : Traced) : Traced :=
  pending.foldl (fun operand p => p.apply operand) operand

private theorem erase_wrap (pending : List Pending) (operand : Traced) :
    (wrap pending operand).erase =
      (pending.map Pending.erase).foldl (fun operand p => p.apply operand) operand.erase := by
  induction pending generalizing operand with
  | nil => rfl
  | cons p pending ih =>
      refine (ih (p.apply operand)).trans ?_
      cases p <;> rfl

theorem numbers_wrap (pending : List Pending) (operand : Traced) :
    (wrap pending operand).numbers.Perm (pending.flatMap Pending.numbers ++ operand.numbers) := by
  induction pending generalizing operand with
  | nil => exact .refl _
  | cons p pending ih =>
      have applied : (p.apply operand).numbers = p.numbers ++ operand.numbers := by cases p <;> rfl
      rw [List.flatMap_cons, List.append_assoc]
      refine (ih (p.apply operand)).trans ?_
      rw [applied]
      exact List.perm_append_comm_assoc _ _ _

private theorem negated_wrap (number : Nat) (pending : List Pending) (operand : Traced) :
    pending.flatMap (Pending.negated number) ++ operand.negated number ⊆
      (wrap pending operand).negated number := by
  induction pending generalizing operand with
  | nil => exact List.Subset.refl _
  | cons p pending ih =>
      have applied : p.negated number ++ operand.negated number ⊆
          (p.apply operand).negated number := by
        cases p with
        | not own => exact List.subset_append_right _ _
        | combine how left => exact List.Subset.refl _
      refine List.Subset.trans ?_ (ih (p.apply operand))
      grind

/-- Negations in front of an operand are the only ones that `core` takes away. -/
theorem core_wrap_not (numbers : List Nat) (operand : Traced) :
    (wrap (numbers.map Pending.not) operand).core = operand.core := by
  induction numbers generalizing operand with
  | nil => rfl
  | cons number numbers ih => exact ih (.not number operand)

structure Frame where
  operand : Option Traced := none
  pending : List Pending := []

namespace Frame

def push (f : Frame) (operand : Traced) : Frame :=
  { operand := some (match f.operand with
      | some left => .combine .and left (wrap f.pending operand)
      | none => wrap f.pending operand) }

def erase (f : Frame) : RecordMapper.Frame :=
  { operand := f.operand.map Traced.erase, pending := f.pending.map Pending.erase }

def numbers (f : Frame) : List Nat :=
  f.operand.toList.flatMap Traced.numbers ++ f.pending.flatMap Pending.numbers

def negated (number : Nat) (f : Frame) : List Traced :=
  f.operand.toList.flatMap (Traced.negated number) ++ f.pending.flatMap (Pending.negated number)

private theorem erase_push (f : Frame) (operand : Traced) :
    (f.push operand).erase = f.erase.push operand.erase := by
  obtain ⟨left, pending⟩ := f
  cases left with
  | none => simp only [push, erase, RecordMapper.Frame.push, Option.map, erase_wrap, List.map_nil]
  | some left =>
      simp only [push, erase, RecordMapper.Frame.push, Option.map, Traced.erase, erase_wrap,
        List.map_nil]

theorem numbers_read (operand : Traced) : numbers ⟨some operand, []⟩ = operand.numbers := by
  simp only [numbers, Option.toList, List.flatMap_cons, List.flatMap_nil, List.append_nil]

theorem negated_read (number : Nat) (operand : Traced) :
    negated number ⟨some operand, []⟩ = operand.negated number := by
  simp only [negated, Option.toList, List.flatMap_cons, List.flatMap_nil, List.append_nil]

/-- A combinator keeps the operand that it takes. -/
theorem numbers_join (how : Combinator) (left : Traced) (pending : List Pending) :
    numbers ⟨none, .combine how left :: pending⟩ = numbers ⟨some left, pending⟩ := by
  simp [numbers, Pending.numbers]

theorem numbers_negate (number : Nat) (f : Frame) :
    (numbers ⟨f.operand, .not number :: f.pending⟩).Perm (number :: f.numbers) := by
  simp only [numbers, List.flatMap_cons, Pending.numbers]
  exact List.perm_middle

theorem numbers_push (f : Frame) (operand : Traced) :
    (f.push operand).numbers.Perm (f.numbers ++ operand.numbers) := by
  obtain ⟨left, pending⟩ := f
  have wrapped := numbers_wrap pending operand
  cases left with
  | none => simpa [push, numbers] using wrapped
  | some left =>
      simpa [push, numbers, Traced.numbers] using wrapped.append_left left.numbers

theorem negated_push (number : Nat) (f : Frame) (operand : Traced) :
    f.negated number ++ operand.negated number ⊆ (f.push operand).negated number := by
  obtain ⟨left, pending⟩ := f
  have wrapped := negated_wrap number pending operand
  cases left with
  | none => simpa [push, negated] using wrapped
  | some left =>
      simp only [push, negated, Traced.negated, Option.toList, List.flatMap_cons, List.flatMap_nil,
        List.append_nil, List.append_assoc]
      exact List.append_subset.mpr ⟨List.subset_append_left _ _,
        List.Subset.trans wrapped (List.subset_append_right _ _)⟩

end Frame

structure Builder where
  current : Frame := {}
  outer : List Frame := []

namespace Builder

def step (number : Nat) (b : Builder) : Move → Builder
  | .leaf added => { b with current := b.current.push (.leaf number added) }
  | .combine how =>
    match b with
    | ⟨⟨some left, pending⟩, outer⟩ => ⟨⟨none, .combine how left :: pending⟩, outer⟩
    | b => b
  | .negateNext =>
    { b with current := { b.current with pending := .not number :: b.current.pending } }
  | .openGroup => { outer := b.current :: b.outer }
  | .closeGroup =>
    match b with
    | ⟨⟨some operand, []⟩, around :: outer⟩ => ⟨around.push (.grouped number operand), outer⟩
    | ⟨⟨none, []⟩, around :: outer⟩ => ⟨around, outer⟩
    | b => b
  | .other => b

def run (next : Nat) (b : Builder) : List Move → Builder
  | [] => b
  | m :: moves => run (next + 1) (b.step next m) moves

def erase (b : Builder) : FilterBuilder :=
  { current := b.current.erase, outer := b.outer.map Frame.erase }

theorem erase_step (number : Nat) (b : Builder) (m : Move) :
    (b.step number m).erase = m.apply b.erase := by
  cases m with
  | leaf added =>
      simp only [step, erase, Frame.erase_push]
      rfl
  | combine how =>
      obtain ⟨⟨left, pending⟩, outer⟩ := b
      cases left <;> rfl
  | negateNext | openGroup | other => rfl
  | closeGroup =>
      obtain ⟨⟨operand, pending⟩, outer⟩ := b
      match operand, pending, outer with
      | none, [], [] | none, [], _ :: _ | none, _ :: _, [] | none, _ :: _, _ :: _ => rfl
      | some _, [], [] | some _, _ :: _, [] | some _, _ :: _, _ :: _ => rfl
      | some operand, [], around :: outer =>
          simp only [step, erase, Frame.erase_push]
          rfl

theorem erase_run (next : Nat) (b : Builder) (moves : List Move) :
    (run next b moves).erase = b.erase.after moves := by
  induction moves generalizing next b with
  | nil => rfl
  | cons m moves ih =>
      refine (ih (next + 1) (b.step next m)).trans ?_
      rw [erase_step]
      rfl

theorem run_append (next : Nat) (b : Builder) (moves others : List Move) :
    run next b (moves ++ others) = run (next + moves.length) (run next b moves) others := by
  induction moves generalizing next b with
  | nil => rfl
  | cons m moves ih =>
      refine (ih (next + 1) (b.step next m)).trans ?_
      rw [List.length_cons, Nat.add_right_comm, Nat.add_assoc]
      rfl

/-! ## What one move does -/

/-- All that a move can do to the open groups. -/
inductive Effect (number : Nat) : Move → Builder → Builder → Prop where
  | leaf (added : Filter) (f : Frame) (outer : List Frame) :
      Effect number (.leaf added) ⟨f, outer⟩ ⟨f.push (.leaf number added), outer⟩
  | combine (how : Combinator) (left : Traced) (pending : List Pending) (outer : List Frame) :
      Effect number (.combine how) ⟨⟨some left, pending⟩, outer⟩
        ⟨⟨none, .combine how left :: pending⟩, outer⟩
  | negateNext (f : Frame) (outer : List Frame) :
      Effect number .negateNext ⟨f, outer⟩ ⟨⟨f.operand, .not number :: f.pending⟩, outer⟩
  | openGroup (f : Frame) (outer : List Frame) :
      Effect number .openGroup ⟨f, outer⟩ ⟨{}, f :: outer⟩
  | closeGroup (operand : Traced) (around : Frame) (outer : List Frame) :
      Effect number .closeGroup ⟨⟨some operand, []⟩, around :: outer⟩
        ⟨around.push (.grouped number operand), outer⟩
  | closeEmpty (around : Frame) (outer : List Frame) :
      Effect number .closeGroup ⟨{}, around :: outer⟩ ⟨around, outer⟩
  | nothing (m : Move) (b : Builder) (adds : m.operand? b.erase = none)
      (joins : ¬ m.Joins b.erase) : Effect number m b b

theorem effect_step (number : Nat) (b : Builder) (m : Move) :
    Effect number m b (b.step number m) := by
  cases m with
  | leaf added => exact .leaf added b.current b.outer
  | combine how =>
      obtain ⟨⟨left, pending⟩, outer⟩ := b
      cases left with
      | some left => exact .combine how left pending outer
      | none => exact .nothing _ _ rfl Bool.false_ne_true
  | negateNext => exact .negateNext b.current b.outer
  | openGroup => exact .openGroup b.current b.outer
  | closeGroup =>
      obtain ⟨⟨operand, pending⟩, outer⟩ := b
      match operand, pending, outer with
      | some operand, [], around :: outer => exact .closeGroup operand around outer
      | none, [], around :: outer => exact .closeEmpty around outer
      | none, [], [] | none, _ :: _, [] | none, _ :: _, _ :: _ => exact .nothing _ _ rfl id
      | some _, [], [] | some _, _ :: _, [] | some _, _ :: _, _ :: _ => exact .nothing _ _ rfl id
  | other => exact .nothing _ _ rfl id

def numbers (b : Builder) : List Nat := b.current.numbers ++ b.outer.flatMap Frame.numbers

def negated (number : Nat) (b : Builder) : List Traced :=
  b.current.negated number ++ b.outer.flatMap (Frame.negated number)

/-- A move adds its own number, at most once. -/
theorem Effect.numbers_subperm {number : Nat} {m : Move} {b b' : Builder}
    (effect : Effect number m b b') : List.Subperm b'.numbers (number :: b.numbers) := by
  cases effect with
  | leaf added f outer =>
      refine (((f.numbers_push _).append_right _).trans ?_).subperm
      rw [Traced.numbers, List.append_assoc]
      exact List.perm_middle
  | combine how left pending outer =>
      rw [numbers, Frame.numbers_join]
      exact (List.sublist_cons_self _ _).subperm
  | negateNext f outer => exact ((f.numbers_negate number).append_right _).subperm
  | openGroup f outer => exact (List.sublist_cons_self _ _).subperm
  | closeGroup operand around outer =>
      refine (((around.numbers_push _).append_right _).trans ?_).subperm
      rw [Traced.numbers, List.append_assoc]
      refine List.perm_middle.trans (.cons _ ?_)
      rw [numbers, Frame.numbers_read, List.flatMap_cons]
      exact List.perm_append_comm_assoc _ _ _
  | closeEmpty around outer => exact (List.sublist_cons_self _ _).subperm
  | nothing => exact (List.sublist_cons_self _ _).subperm

/-- What a negation has taken stays what it takes. -/
theorem Effect.negated_subset {number : Nat} {m : Move} {b b' : Builder} (own : Nat)
    (effect : Effect number m b b') : b.negated own ⊆ b'.negated own := by
  cases effect with
  | leaf added f outer =>
      have pushed := (List.append_subset.mp (f.negated_push own (.leaf number added))).1
      simp only [negated]
      grind
  | combine how left pending outer => simp [negated, Frame.negated, Pending.negated]
  | negateNext f outer => simp [negated, Frame.negated, Pending.negated]
  | openGroup f outer => simp [negated, Frame.negated]
  | closeGroup operand around outer =>
      have pushed := List.append_subset.mp (around.negated_push own (.grouped number operand))
      rw [Traced.negated] at pushed
      simp only [negated, Frame.negated_read, List.flatMap_cons]
      grind
  | closeEmpty around outer => simp [negated, Frame.negated]
  | nothing => exact List.Subset.refl _

/-- No number is given to two leaves, negations or groups, and none that is not the number of a move. -/
theorem numbers_run (next : Nat) (b : Builder) (moves : List Move) :
    List.Subperm (run next b moves).numbers (List.range' next moves.length ++ b.numbers) := by
  induction moves generalizing next b with
  | nil => exact List.Subperm.refl _
  | cons m moves ih =>
      refine (ih (next + 1) (b.step next m)).trans ?_
      refine ((List.subperm_append_left _).mpr (effect_step next b m).numbers_subperm).trans ?_
      exact List.perm_middle.subperm

theorem negated_run (own next : Nat) (b : Builder) (moves : List Move) :
    b.negated own ⊆ (run next b moves).negated own := by
  induction moves generalizing next b with
  | nil => exact List.Subset.refl _
  | cons m moves ih =>
      exact List.Subset.trans ((effect_step next b m).negated_subset own) (ih (next + 1) _)

end Builder

def ofMoves (moves : List Move) : Option Traced := (Builder.run 0 {} moves).current.operand

end Traced

end RecordMapper
