import RecordMapper.Proofs.Query.Waiting
import Mathlib.Data.List.Nodup

/-!
What a negation takes: the next operand of its group, unless a combinator comes between them that
takes the operand before the negation. The combinator is then applied first, and the negation takes
what it joins.
-/

set_option autoImplicit false

namespace RecordMapper

namespace FilterBuilder

/-- A combinator takes the operand of the group around which `depth` groups are open. -/
def Overtaken (depth : Nat) : FilterBuilder → List Move → Prop
  | _, [] => False
  | b, m :: moves => m.Joins b ∧ b.depth = depth ∨ Overtaken depth (m.apply b) moves

private theorem idle_or_completes (depth : Nat) (b : FilterBuilder) (moves : List Move) :
    Idle depth b moves ∨ ∃ between m rest, moves = between ++ m :: rest ∧ Idle depth b between ∧
      m.Completes (b.after between) depth := by
  induction moves generalizing b with
  | nil => exact .inl trivial
  | cons m moves ih =>
      by_cases completes : m.Completes b depth
      · exact .inr ⟨[], m, moves, rfl, trivial, completes⟩
      · rcases ih (m.apply b) with idle | ⟨between, last, rest, rfl, idle, last_completes⟩
        · exact .inl ⟨completes, idle⟩
        · exact .inr ⟨m :: between, last, rest, rfl, ⟨completes, idle⟩, last_completes⟩

/-- A negation comes to its operand before a filter is finished. -/
theorem negation_completes {before behind : List Move} {filter : Option Filter}
    (finished : (after {} (before ++ .negateNext :: behind)).finish = .ok filter) :
    let start := after {} (before ++ [.negateNext])
    ∃ between m rest, behind = between ++ m :: rest ∧ Idle start.depth start between ∧
      m.Completes (start.after between) start.depth := by
  intro start
  refine (idle_or_completes start.depth start behind).resolve_left fun idle => ?_
  have level : start.depth = (after {} before).depth := by
    rw [show start = (after {} before).negateNext from after_append ..]
    rfl
  obtain ⟨e, refused⟩ := finish_of_idle (m := .negateNext) (.inl rfl) (level ▸ idle)
  rw [refused] at finished
  cases finished

end FilterBuilder

open FilterBuilder (Move Idle Overtaken after)

namespace Traced

/-! ## A negation that waits -/

namespace Frame

/-- A negation waits, and behind it at most other negations. The operand before it is older. -/
def Fresh (number : Nat) (f : Frame) : Prop :=
  ∃ (later : List Nat) (earlier : List Pending),
    f.pending = later.map Pending.not ++ .not number :: earlier ∧ (∀ own ∈ later, number < own) ∧
      ∀ left ∈ f.operand, ∀ own ∈ left.numbers, own < number

/-- A negation waits, and behind it a combinator that has taken the operand before the negation. -/
def Taken (number : Nat) (f : Frame) : Prop :=
  f.operand = none ∧ ∃ (later sooner : List Nat) (earlier : List Pending) (how : Combinator)
    (left : Traced),
    f.pending = later.map Pending.not ++ .combine how left ::
        (sooner.map Pending.not ++ .not number :: earlier) ∧
      ∀ own ∈ left.numbers, own < number

theorem Fresh.pending_ne_nil {number : Nat} {f : Frame} (fresh : f.Fresh number) :
    f.pending ≠ [] := by
  obtain ⟨later, earlier, waiting, _⟩ := fresh
  rw [waiting]
  exact List.append_ne_nil_of_right_ne_nil _ (List.cons_ne_nil _ _)

theorem Taken.pending_ne_nil {number : Nat} {f : Frame} (taken : f.Taken number) :
    f.pending ≠ [] := by
  obtain ⟨_, later, sooner, earlier, how, left, waiting, _⟩ := taken
  rw [waiting]
  exact List.append_ne_nil_of_right_ne_nil _ (List.cons_ne_nil _ _)

end Frame

namespace Builder

variable {number next depth : Nat} {m : Move} {b b' : Builder} {holds : Frame → Prop}

theorem length_lt_of_inside {outer above below : List Frame} {frame : Frame}
    (stack : outer = above ++ frame :: below) : below.length < outer.length := by
  rw [stack, List.length_append, List.length_cons]
  omega

/-- The move that adds an operand to the group of a negation that waits pushes it there. -/
theorem Effect.pushes (effect : Effect next m b b') (within : Within number depth holds b)
    (adds : (m.operand? b.erase).isSome = true ∧ b'.outer.length = depth) (late : number < next)
    (waits : ∀ f, holds f → f.pending ≠ []) :
    ∃ frame operand, holds frame ∧ b'.current = frame.push operand ∧
      operand.pushed? = some next ∧ ∀ own ∈ operand.numbers, number < own := by
  obtain ⟨above, frame, below, stack, deep, later, held⟩ := within
  obtain ⟨some, level⟩ := adds
  cases effect with
  | leaf added f outer =>
      cases above with
      | nil =>
          obtain ⟨rfl, rfl⟩ := List.cons.inj stack
          exact ⟨f, _, held, rfl, rfl, fun own mem => by rwa [List.mem_singleton.mp mem]⟩
      | cons top above =>
          have inside := (List.cons.inj stack).2
          exact absurd (deep.trans level.symm) (Nat.ne_of_lt (length_lt_of_inside inside))
  | closeGroup operand around outer =>
      match above, stack with
      | [], stack =>
        obtain ⟨rfl, _⟩ := List.cons.inj stack
        exact absurd rfl (waits _ held)
      | [top], stack =>
        obtain ⟨rfl, rest⟩ := List.cons.inj stack
        obtain ⟨rfl, rfl⟩ := List.cons.inj rest
        rw [List.forall_mem_singleton, Frame.numbers_read] at later
        exact ⟨around, _, held, rfl, rfl, List.forall_mem_cons.mpr ⟨late, later⟩⟩
      | top :: _ :: above, stack =>
        have inside := (List.cons.inj (List.cons.inj stack).2).2
        exact absurd (deep.trans level.symm) (Nat.ne_of_lt (length_lt_of_inside inside))
  | combine | negateNext | openGroup | closeEmpty => cases some
  | nothing m b adds => rw [adds] at some; cases some

/-! ## The moves up to the operand of a negation -/

private theorem taken_run {moves : List Move} (taken : Within number depth (Frame.Taken number) b)
    (idle : Idle depth b.erase moves) (late : number < next) :
    Within number depth (Frame.Taken number) (run next b moves) := by
  refine within_run taken idle late (fun f held => held.pending_ne_nil) ?_ ?_
  · rintro f own - ⟨none, later, sooner, earlier, how, left, waiting, older⟩
    exact ⟨none, own :: later, sooner, earlier, how, left, congrArg (.not own :: ·) waiting, older⟩
  · rintro how left pending ⟨none, _⟩
    cases none

/-- A combinator that is accepted in the group of a negation takes the operand before it. -/
theorem Effect.taken (effect : Effect next m b b')
    (fresh : Within number depth (Frame.Fresh number) b) (joins : m.Joins b.erase)
    (level : b.outer.length = depth) :
    Within number depth (Frame.Taken number) b' := by
  obtain ⟨above, frame, below, stack, deep, later, held⟩ := fresh
  cases effect with
  | combine how left pending outer =>
      cases above with
      | nil =>
          obtain ⟨rfl, rfl⟩ := List.cons.inj stack
          obtain ⟨sooner, earlier, waiting, _, older⟩ := held
          exact ⟨[], _, outer, rfl, deep, later, rfl, [], sooner, earlier, how, left,
            congrArg (.combine how left :: ·) waiting, older left rfl⟩
      | cons top above =>
          have inside := (List.cons.inj stack).2
          exact absurd (deep.trans level.symm) (Nat.ne_of_lt (length_lt_of_inside inside))
  | leaf | negateNext | openGroup | closeGroup | closeEmpty => cases joins
  | nothing m b _ ignored => exact absurd joins ignored

/-- A negation that has just been called waits. -/
theorem fresh_negateNext (before : List Move) :
    let b := (run 0 {} before).step before.length .negateNext
    Within before.length b.erase.depth (Frame.Fresh before.length) b := by
  have older {own : Nat} (mem : own ∈ (run 0 {} before).numbers) : own < before.length := by
    have made := (numbers_run 0 {} before).subset mem
    have empty : numbers {} = [] := rfl
    rw [empty, List.append_nil, List.mem_range'_1] at made
    omega
  refine ⟨[], _, _, rfl, (List.length_map _).symm, fun _ mem => absurd mem List.not_mem_nil, [], _,
    rfl, fun _ mem => absurd mem List.not_mem_nil, fun left some own mem => older ?_⟩
  exact List.mem_append_left _ (List.mem_append_left _
    (List.mem_flatMap.mpr ⟨left, Option.mem_toList.mpr some, mem⟩))

private theorem fresh_run {moves : List Move} (fresh : Within number depth (Frame.Fresh number) b)
    (idle : Idle depth b.erase moves) (late : number < next) :
    Overtaken depth b.erase moves ∧ Within number depth (Frame.Taken number) (run next b moves) ∨
      ¬ Overtaken depth b.erase moves ∧
        Within number depth (Frame.Fresh number) (run next b moves) := by
  induction moves generalizing next b with
  | nil => exact .inr ⟨id, fresh⟩
  | cons m moves ih =>
      obtain ⟨first, rest⟩ := idle
      rw [Overtaken, ← erase_step next]
      rw [← erase_step next] at rest
      have level : b.erase.depth = b.outer.length := List.length_map _
      by_cases joins : m.Joins b.erase ∧ b.erase.depth = depth
      · have taken := (effect_step next b m).taken fresh joins.1 (level ▸ joins.2)
        have run := taken_run taken rest (Nat.lt_succ_of_lt late)
        exact .inl ⟨.inl joins, run⟩
      · have still : Within number depth (Frame.Fresh number) (b.step next m) := by
          refine (effect_step next b m).within fresh (mt (completes_iff next).mpr first) late
            (fun f held => held.pending_ne_nil) ?_ ?_
          · rintro f ⟨later, earlier, waiting, after, older⟩
            exact ⟨next :: later, earlier, congrArg (.not next :: ·) waiting,
              List.forall_mem_cons.mpr ⟨late, after⟩, older⟩
          · rintro how left rfl some deep -
            refine absurd ⟨?_, level.trans deep⟩ joins
            simp only [Move.Joins, erase, Frame.erase, some, Option.map, Option.isSome]
        rcases ih still rest (Nat.lt_succ_of_lt late) with ⟨overtaken, taken⟩ | ⟨under, fresh⟩
        · exact .inl ⟨.inr overtaken, taken⟩
        · exact .inr ⟨not_or.mpr ⟨joins, under⟩, fresh⟩

end Builder

/-! ## What a negation has taken -/

namespace Frame

variable {number next : Nat} {f : Frame} {operand : Traced}

private theorem push_append (left : Option Traced) (later earlier : List Pending)
    (operand : Traced) :
    push ⟨left, later ++ earlier⟩ operand = push ⟨left, earlier⟩ (wrap later operand) := by
  simp only [push, wrap, List.foldl_append]

theorem mem_negated_push {later earlier : List Pending}
    (waiting : f.pending = later ++ .not number :: earlier) :
    wrap later operand ∈ (f.push operand).negated number := by
  obtain ⟨left, pending⟩ := f
  obtain rfl : pending = later ++ .not number :: earlier := waiting
  have same : push ⟨left, later ++ .not number :: earlier⟩ operand =
      push ⟨left, earlier⟩ (.not number (wrap later operand)) := push_append left later _ operand
  rw [same]
  refine negated_push number _ _ (List.mem_append_right _ ?_)
  simp [Traced.negated]

private theorem Fresh.takes (fresh : f.Fresh number) (pushed : operand.pushed? = some next)
    (after : ∀ own ∈ operand.numbers, number < own) :
    ∃ taken ∈ (f.push operand).negated number,
      (∀ own ∈ taken.numbers, number < own) ∧ taken.core.pushed? = some next := by
  obtain ⟨later, earlier, waiting, younger, _⟩ := fresh
  refine ⟨_, mem_negated_push waiting, fun own mem => ?_, ?_⟩
  · rcases List.mem_append.mp ((numbers_wrap _ _).mem_iff.mp mem) with negation | inside
    · refine younger own ?_
      simpa [List.flatMap_map, Pending.numbers] using negation
    · exact after own inside
  · rwa [core_wrap_not, core_of_pushed pushed]

private theorem Taken.takes (taken : f.Taken number) (pushed : operand.pushed? = some next) :
    ∃ taken ∈ (f.push operand).negated number, ∃ how left right,
      taken.core = .combine how left right ∧ (∀ own ∈ left.numbers, own < number) ∧
        right.core.pushed? = some next := by
  obtain ⟨_, later, sooner, earlier, how, left, waiting, older⟩ := taken
  have split : f.pending =
      (later.map Pending.not ++ .combine how left :: sooner.map Pending.not) ++
        .not number :: earlier := by
    rw [waiting, List.append_assoc, List.cons_append]
  refine ⟨_, mem_negated_push split, how, left, wrap (later.map Pending.not) operand, ?_, older, ?_⟩
  · have unfolded :
        wrap (later.map Pending.not ++ .combine how left :: sooner.map Pending.not) operand =
          wrap (sooner.map Pending.not) (.combine how left (wrap (later.map Pending.not) operand)) :=
      List.foldl_append
    rw [unfolded, core_wrap_not, core]
    rintro _ _ ⟨⟩
  · rwa [core_wrap_not, core_of_pushed pushed]

end Frame

namespace Builder

variable {number next depth : Nat} {b : Builder} {filter : Option Filter}

/-- What is read at the move that adds an operand to the group of a negation that waits. -/
theorem takes {between : List Move} {m : Move} (fresh : Within number depth (Frame.Fresh number) b)
    (late : number < next) (idle : Idle depth b.erase between)
    (completes : m.Completes (b.erase.after between) depth) :
    let read := (run next b between).step (next + between.length) m
    Overtaken depth b.erase between ∧
        (∃ taken ∈ read.negated number, ∃ how left right,
          taken.core = .combine how left right ∧ (∀ own ∈ left.numbers, own < number) ∧
            right.core.pushed? = some (next + between.length)) ∨
      ¬ Overtaken depth b.erase between ∧
        ∃ taken ∈ read.negated number, (∀ own ∈ taken.numbers, number < own) ∧
          taken.core.pushed? = some (next + between.length) := by
  intro read
  have late' : number < next + between.length := Nat.lt_add_right _ late
  rw [← erase_run next, completes_iff (next + between.length)] at completes
  have effect := effect_step (next + between.length) (run next b between) m
  rcases fresh_run fresh idle late with ⟨overtaken, taken⟩ | ⟨under, still⟩
  · obtain ⟨frame, operand, held, current, pushed, _⟩ :=
      effect.pushes taken completes late' fun f held => held.pending_ne_nil
    obtain ⟨whole, mem, joined⟩ := held.takes pushed
    exact .inl ⟨overtaken, whole, List.mem_append_left _ (current ▸ mem), joined⟩
  · obtain ⟨frame, operand, held, current, pushed, younger⟩ :=
      effect.pushes still completes late' fun f held => held.pending_ne_nil
    obtain ⟨whole, mem, next⟩ := held.takes pushed younger
    exact .inr ⟨under, whole, List.mem_append_left _ (current ▸ mem), next⟩

theorem complete_of_finish (finished : b.erase.finish = .ok filter) :
    b.outer = [] ∧ b.current.pending = [] ∧ filter = b.current.operand.map Traced.erase := by
  have complete : b.erase.outer = [] ∧ b.erase.current.pending = [] := by
    by_contra left
    obtain ⟨e, refused⟩ := FilterBuilder.finish_eq_error (not_and_or.mp left)
    rw [refused] at finished
    cases finished
  refine ⟨List.map_eq_nil_iff.mp complete.1, List.map_eq_nil_iff.mp complete.2, ?_⟩
  rw [FilterBuilder.finish, complete.1, complete.2] at finished
  exact (Except.ok.inj finished).symm

/-- In the end there is one negation for a move at most, and it is in the filter. -/
theorem negated_of_finish {moves : List Move} {taken : Traced}
    (finished : (after {} moves).finish = .ok filter)
    (mem : taken ∈ (run 0 {} moves).negated number) :
    ∃ whole, ofMoves moves = some whole ∧ whole.negated number = [taken] := by
  have once := (numbers_run 0 {} moves).count_le number
  have empty : numbers {} = [] := rfl
  rw [empty, List.append_nil] at once
  have distinct : (List.range' 0 moves.length).Nodup := List.nodup_range'
  have single := List.nodup_iff_count_le_one.mp distinct number
  have erased : (run 0 {} moves).erase = after {} moves := erase_run 0 {} moves
  rw [← erased] at finished
  obtain ⟨closed, read, _⟩ := complete_of_finish finished
  rw [ofMoves]
  generalize run 0 {} moves = b at mem once closed read ⊢
  obtain ⟨⟨operand, pending⟩, outer⟩ := b
  obtain rfl : outer = [] := closed
  obtain rfl : pending = [] := read
  cases operand with
  | none => cases mem
  | some whole =>
      rw [negated, Frame.negated_read, List.flatMap_nil, List.append_nil] at mem
      rw [numbers, Frame.numbers_read, List.flatMap_nil, List.append_nil] at once
      have short := Nat.le_trans (whole.length_negated_le number) (Nat.le_trans once single)
      have one : (whole.negated number).length = 1 :=
        Nat.le_antisymm short (List.length_pos_of_mem mem)
      obtain ⟨only, same⟩ := List.length_eq_one_iff.mp one
      rw [same] at mem
      exact ⟨whole, rfl, by rw [same, List.mem_singleton.mp mem]⟩

/-- What a negation has taken at a move is what it takes in the filter. -/
theorem negated_of_takes {before between rest : List Move} {m : Move} {taken : Traced}
    (finished : (after {} (before ++ .negateNext :: (between ++ m :: rest))).finish = .ok filter)
    (mem : taken ∈ ((run (before.length + 1) ((run 0 {} before).step before.length .negateNext)
      between).step (before.length + 1 + between.length) m).negated before.length) :
    ∃ whole, ofMoves (before ++ .negateNext :: (between ++ m :: rest)) = some whole ∧
      whole.negated before.length = [taken] := by
  refine negated_of_finish finished ?_
  rw [run_append, Nat.zero_add]
  exact (run_append (before.length + 1) _ between (m :: rest)).symm ▸ negated_run _ _ _ rest mem

end Builder

private theorem erase_ofMoves {moves : List Move} {filter : Option Filter}
    (finished : (after {} moves).finish = .ok filter) : (ofMoves moves).map erase = filter := by
  have erased : (Builder.run 0 {} moves).erase = after {} moves := Builder.erase_run 0 {} moves
  rw [← erased] at finished
  exact (Builder.complete_of_finish finished).2.2.symm

/-- The next operand of its group is taken by a negation, with nothing from before the negation,
unless a combinator takes the operand before the negation first. Then the negation takes what the
combinator joins. -/
theorem negation_takes (moves : List Move) (filter : Option Filter)
    (finished : (after {} moves).finish = .ok filter) :
    (ofMoves moves).map erase = filter ∧
      ∀ before behind, moves = before ++ .negateNext :: behind →
        let start := after {} (before ++ [.negateNext])
        ∃ between m rest whole taken,
          behind = between ++ m :: rest ∧ Idle start.depth start between ∧
            m.Completes (start.after between) start.depth ∧
          ofMoves moves = some whole ∧ whole.negated before.length = [taken] ∧
          ((∀ own ∈ taken.numbers, before.length < own) ↔ ¬ Overtaken start.depth start between) ∧
          (taken.core.pushed? = some (before.length + 1 + between.length) ↔
            ¬ Overtaken start.depth start between) ∧
          (Overtaken start.depth start between → ∃ how left right,
            taken.core = .combine how left right ∧ (∀ own ∈ left.numbers, own < before.length) ∧
              right.core.pushed? = some (before.length + 1 + between.length)) := by
  refine ⟨erase_ofMoves finished, ?_⟩
  rintro before behind rfl
  obtain ⟨between, m, rest, rfl, idle, completes⟩ := FilterBuilder.negation_completes finished
  have erased : after {} (before ++ [.negateNext]) =
      ((Builder.run 0 {} before).step before.length .negateNext).erase := by
    rw [Builder.erase_step, Builder.erase_run]
    exact FilterBuilder.after_append ..
  rw [erased] at idle completes ⊢
  intro start
  rcases Builder.takes (Builder.fresh_negateNext before) (Nat.lt_succ_self _) idle completes with
    ⟨overtaken, taken, mem, how, left, right, joined, older, next⟩ | ⟨under, taken, mem, younger, next⟩
  · obtain ⟨whole, read, single⟩ := Builder.negated_of_takes finished mem
    refine ⟨between, m, rest, whole, taken, rfl, idle, completes, read, single,
      iff_of_false (fun younger => ?_) (not_not_intro overtaken),
      iff_of_false (fun pushed => ?_) (not_not_intro overtaken),
      fun _ => ⟨how, left, right, joined, older, next⟩⟩
    · obtain ⟨own, mem⟩ := List.exists_mem_of_ne_nil _ left.numbers_ne_nil
      have inside : own ∈ taken.numbers := taken.numbers_core_subset (by
        rw [joined]
        exact List.mem_append_left _ mem)
      exact Nat.lt_asymm (older own mem) (younger own inside)
    · rw [joined] at pushed
      cases pushed
  · obtain ⟨whole, read, single⟩ := Builder.negated_of_takes finished mem
    exact ⟨between, m, rest, whole, taken, rfl, idle, completes, read, single,
      iff_of_true younger under, iff_of_true next under, fun overtaken => absurd overtaken under⟩

theorem negation_takes_second :
    let calls : List Query.Call :=
      [.whereRaw "a" [], .combine .or, .negateNext, .whereRaw "b" [], .negateNext, .whereRaw "c" []]
    let moves := calls.map Query.Call.move
    (after {} moves).finish = .ok (some (.combine .and
        (.combine .or (.raw "a" []) (.not (.raw "b" []))) (.not (.raw "c" [])))) ∧
      ∃ whole taken, ofMoves moves = some whole ∧ whole.negated 4 = [taken] ∧
        (∀ own ∈ taken.numbers, 4 < own) ∧ taken.core.pushed? = some 5 := by
  intro calls moves
  have finished : (after {} moves).finish = .ok (some (.combine .and
      (.combine .or (.raw "a" []) (.not (.raw "b" []))) (.not (.raw "c" [])))) := rfl
  obtain ⟨between, m, rest, whole, taken, split, -, -, read, single, younger, next, -⟩ :=
    (negation_takes moves _ finished).2 (moves.take 4) [.leaf (.raw "c" [])] rfl
  cases between with
  | nil => exact ⟨finished, whole, taken, read, single, younger.mpr id, next.mpr id⟩
  | cons first between => simp at split

/-- A combinator between a negation and its operand brings what stands before the negation under
it. -/
theorem negation_takes_earlier_operand :
    let equals (column : String) (value : Value) : Query.Call :=
      .whereOperator column (.compare .eq) (.value value)
    let calls := [equals "name" (.text "Ann"), .negateNext, .combine .and, equals "vip" (.bool true)]
    let whole : Traced := .not 1 (.combine .and
      (.leaf 0 (.leaf "name" (.compare .eq (.text "Ann"))))
      (.leaf 3 (.leaf "vip" (.compare .eq (.bool true)))))
    ((Query.ofTable "customer" none).built calls).filter.finish = .ok (some whole.erase) ∧
      ofMoves (calls.map Query.Call.move) = some whole :=
  ⟨rfl, rfl⟩

end Traced

end RecordMapper
