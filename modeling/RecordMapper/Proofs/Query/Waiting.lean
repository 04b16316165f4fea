import RecordMapper.Proofs.Query.Traced

/-!
Operators that wait for an operand. What is known of a group in which an operator waits stays known
until a move adds an operand to it: groups inside of it are opened and closed meanwhile, but it can
not be closed itself. If no operand comes, the filter is refused in the end.
-/

set_option autoImplicit false

namespace RecordMapper

open FilterBuilder (Move Idle after)

namespace Traced

private theorem Frame.later_push {number : Nat} {f : Frame} {operand : Traced}
    (frame : ∀ own ∈ f.numbers, number < own) (pushed : ∀ own ∈ operand.numbers, number < own) :
    ∀ own ∈ (f.push operand).numbers, number < own := fun own mem =>
  (List.mem_append.mp ((f.numbers_push operand).mem_iff.mp mem)).elim (frame own) (pushed own)

namespace Builder

/-- The group around which `depth` groups are open satisfies `holds`, and the groups inside it hold
only what comes from moves after `number`. -/
def Within (number depth : Nat) (holds : Frame → Prop) (b : Builder) : Prop :=
  ∃ above frame below, b.current :: b.outer = above ++ frame :: below ∧ below.length = depth ∧
    (∀ f ∈ above, ∀ own ∈ f.numbers, number < own) ∧ holds frame

variable {number next depth : Nat} {m : Move} {b b' : Builder} {holds : Frame → Prop}

theorem completes_iff (next : Nat) :
    m.Completes b.erase depth ↔
      (m.operand? b.erase).isSome = true ∧ (b.step next m).outer.length = depth := by
  have same : (b.step next m).erase.depth = (b.step next m).outer.length := List.length_map _
  rw [Move.Completes, ← erase_step next, same]

/-- What holds of a group in which an operator waits goes on to hold while no operand is added to the
group, if negations and combinators keep it. -/
theorem Effect.within (effect : Effect next m b b') (within : Within number depth holds b)
    (idle : ¬ ((m.operand? b.erase).isSome = true ∧ b'.outer.length = depth)) (late : number < next)
    (waits : ∀ f, holds f → f.pending ≠ [])
    (negates : ∀ f, holds f → holds ⟨f.operand, .not next :: f.pending⟩)
    (joins : ∀ how left, m = .combine how → b.current.operand = some left →
      b.outer.length = depth → holds b.current →
        holds ⟨none, .combine how left :: b.current.pending⟩) :
    Within number depth holds b' := by
  obtain ⟨above, frame, below, stack, deep, later, held⟩ := within
  cases effect with
  | leaf added f outer =>
      cases above with
      | nil =>
          obtain ⟨rfl, rfl⟩ := List.cons.inj stack
          exact absurd ⟨rfl, deep⟩ idle
      | cons top above =>
          obtain ⟨rfl, rfl⟩ := List.cons.inj stack
          refine ⟨f.push (.leaf next added) :: above, frame, below, rfl, deep, ?_, held⟩
          rw [List.forall_mem_cons] at later ⊢
          exact ⟨Frame.later_push later.1 fun own mem => by rwa [List.mem_singleton.mp mem], later.2⟩
  | combine how left pending outer =>
      cases above with
      | nil =>
          obtain ⟨rfl, rfl⟩ := List.cons.inj stack
          exact ⟨[], _, outer, rfl, deep, later, joins how left rfl rfl deep held⟩
      | cons top above =>
          obtain ⟨rfl, rfl⟩ := List.cons.inj stack
          refine ⟨⟨none, .combine how left :: pending⟩ :: above, frame, below, rfl, deep, ?_, held⟩
          rw [List.forall_mem_cons] at later ⊢
          exact ⟨by rw [Frame.numbers_join]; exact later.1, later.2⟩
  | negateNext f outer =>
      cases above with
      | nil =>
          obtain ⟨rfl, rfl⟩ := List.cons.inj stack
          exact ⟨[], _, outer, rfl, deep, later, negates f held⟩
      | cons top above =>
          obtain ⟨rfl, rfl⟩ := List.cons.inj stack
          refine ⟨⟨f.operand, .not next :: f.pending⟩ :: above, frame, below, rfl, deep, ?_, held⟩
          rw [List.forall_mem_cons] at later ⊢
          refine ⟨fun own mem => ?_, later.2⟩
          rcases List.mem_cons.mp ((f.numbers_negate next).mem_iff.mp mem) with rfl | old
          · exact late
          · exact later.1 own old
  | openGroup f outer =>
      refine ⟨{} :: above, frame, below, congrArg ({} :: ·) stack, deep, ?_, held⟩
      exact List.forall_mem_cons.mpr ⟨fun own mem => absurd mem List.not_mem_nil, later⟩
  | closeGroup operand around outer =>
      match above, stack with
      | [], stack =>
        obtain ⟨rfl, _⟩ := List.cons.inj stack
        exact absurd rfl (waits _ held)
      | [top], stack =>
        obtain ⟨rfl, rfl⟩ := List.cons.inj (List.cons.inj stack).2
        exact absurd ⟨rfl, deep⟩ idle
      | top :: _ :: above, stack =>
        obtain ⟨rfl, rest⟩ := List.cons.inj stack
        obtain ⟨rfl, rfl⟩ := List.cons.inj rest
        refine ⟨around.push (.grouped next operand) :: above, frame, below, rfl, deep, ?_, held⟩
        rw [List.forall_mem_cons, List.forall_mem_cons, Frame.numbers_read] at later
        refine List.forall_mem_cons.mpr ⟨Frame.later_push later.2.1 ?_, later.2.2⟩
        exact List.forall_mem_cons.mpr ⟨late, later.1⟩
  | closeEmpty around outer =>
      cases above with
      | nil =>
          obtain ⟨rfl, _⟩ := List.cons.inj stack
          exact absurd rfl (waits _ held)
      | cons top above =>
          exact ⟨above, frame, below, (List.cons.inj stack).2, deep,
            (List.forall_mem_cons.mp later).2, held⟩
  | nothing => exact ⟨above, frame, below, stack, deep, later, held⟩

theorem within_run {moves : List Move} (within : Within number depth holds b)
    (idle : Idle depth b.erase moves) (late : number < next)
    (waits : ∀ f, holds f → f.pending ≠ [])
    (negates : ∀ f later, number < later → holds f → holds ⟨f.operand, .not later :: f.pending⟩)
    (joins : ∀ how left pending, holds ⟨some left, pending⟩ →
      holds ⟨none, .combine how left :: pending⟩) :
    Within number depth holds (run next b moves) := by
  induction moves generalizing next b with
  | nil => exact within
  | cons m moves ih =>
      obtain ⟨first, rest⟩ := idle
      rw [← erase_step next] at rest
      refine ih ((effect_step next b m).within within (mt (completes_iff next).mpr first) late waits
        (fun f => negates f next late) ?_) rest (Nat.lt_succ_of_lt late)
      intro how left _ operand _ held
      obtain ⟨⟨_, pending⟩, outer⟩ := b
      obtain rfl := operand
      exact joins how left pending held

/-- An operator that has just been called waits in its group. -/
theorem within_of_waits (number : Nat) (waits : m.Waits b.erase) :
    Within number b.erase.depth (fun f => f.pending ≠ []) (b.step number m) := by
  have level : b.outer.length = b.erase.depth := (List.length_map _).symm
  rcases waits with rfl | joins
  · exact ⟨[], _, b.outer, rfl, level, List.forall_mem_nil _, List.cons_ne_nil _ _⟩
  · cases m with
    | combine how =>
        obtain ⟨⟨left, pending⟩, outer⟩ := b
        cases left with
        | none => cases joins
        | some left => exact ⟨[], _, outer, rfl, level, List.forall_mem_nil _, List.cons_ne_nil _ _⟩
    | leaf | negateNext | openGroup | closeGroup | other => cases joins

private theorem finish_of_within (within : Within number depth (fun f => f.pending ≠ []) b) :
    ∃ e, b.erase.finish = .error e := by
  obtain ⟨above, frame, below, stack, _, _, waiting⟩ := within
  apply FilterBuilder.finish_eq_error
  cases above with
  | nil =>
      obtain ⟨rfl, _⟩ := List.cons.inj stack
      exact .inr (mt List.map_eq_nil_iff.mp waiting)
  | cons current above =>
      refine .inl (mt List.map_eq_nil_iff.mp ?_)
      rw [(List.cons.inj stack).2]
      exact List.append_ne_nil_of_right_ne_nil _ (List.cons_ne_nil _ _)

end Builder

end Traced

namespace FilterBuilder

/-- A filter is refused if an operator waits for an operand that its group does not get. -/
theorem finish_of_idle {before behind : List Move} {m : Move} (waits : m.Waits (after {} before))
    (idle : Idle (after {} before).depth (after {} (before ++ [m])) behind) :
    ∃ e, (after {} (before ++ m :: behind)).finish = .error e := by
  have erased : after {} before = (Traced.Builder.run 0 {} before).erase :=
    (Traced.Builder.erase_run 0 {} before).symm
  have called : after {} (before ++ [m]) =
      ((Traced.Builder.run 0 {} before).step before.length m).erase := by
    rw [Traced.Builder.erase_step, ← erased]
    exact after_append ..
  have all : after {} (before ++ m :: behind) = (after {} (before ++ [m])).after behind := by
    rw [← after_append, List.append_assoc]
    rfl
  rw [called] at idle
  rw [erased] at waits idle
  have waiting := Traced.Builder.within_run (Traced.Builder.within_of_waits before.length waits) idle
    (Nat.lt_succ_self _) (fun _ waits => waits) (fun _ _ _ _ => List.cons_ne_nil _ _)
    (fun _ _ _ _ => List.cons_ne_nil _ _)
  rw [all, called, ← Traced.Builder.erase_run]
  exact Traced.Builder.finish_of_within waiting

end FilterBuilder

end RecordMapper
