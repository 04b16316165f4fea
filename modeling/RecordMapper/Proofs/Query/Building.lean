import Mathlib.Algebra.GroupWithZero.Nat
import RecordMapper.Proofs.Query.Call
import RecordMapper.Proofs.Query.Lowering

/-!
Reading a filter from calls keeps every leaf and every negation. Between two calls the leaves stand
in the open groups, in the operands read so far and in the operators that wait; no operator that
waits beside an operand has leaves of its own.
-/

set_option autoImplicit false

namespace RecordMapper

/-! ## Filters that are being read -/

def Filter.negations : Filter → Nat
  | .leaf _ _ | .raw _ _ => 0
  | .combine _ left right => left.negations + right.negations
  | .not operand => operand.negations + 1
  | .grouped operand => operand.negations

namespace Pending

def leaves : Pending → List Filter
  | .not => []
  | .combine _ left => left.leaves

def negations : Pending → Nat
  | .not => 1
  | .combine _ left => left.negations

private theorem leaves_apply (p : Pending) (operand : Filter) :
    (p.apply operand).leaves = p.leaves ++ operand.leaves := by
  cases p with
  | not => rfl
  | combine how left => rfl

private theorem negations_apply (p : Pending) (operand : Filter) :
    (p.apply operand).negations = p.negations + operand.negations := by
  cases p with
  | not => exact Nat.add_comm _ _
  | combine how left => rfl

private theorem leaves_foldl (pending : List Pending) (operand : Filter) :
    (pending.foldl (fun operand p => p.apply operand) operand).leaves =
      pending.reverse.flatMap leaves ++ operand.leaves := by
  induction pending generalizing operand with
  | nil => rfl
  | cons p pending ih => simp [ih, leaves_apply]

private theorem negations_foldl (pending : List Pending) (operand : Filter) :
    (pending.foldl (fun operand p => p.apply operand) operand).negations =
      (pending.map negations).sum + operand.negations := by
  induction pending generalizing operand with
  | nil => simp
  | cons p pending ih =>
      rw [List.foldl_cons, ih, negations_apply, List.map_cons, List.sum_cons]
      omega

end Pending

namespace Frame

def leaves (f : Frame) : List Filter :=
  (f.operand.map Filter.leaves).getD [] ++ f.pending.reverse.flatMap Pending.leaves

def negations (f : Frame) : Nat :=
  (f.operand.map Filter.negations).getD 0 + (f.pending.map Pending.negations).sum

/-- Only negations wait beside an operand. -/
def Settled (f : Frame) : Prop := f.operand.isSome → ∀ p ∈ f.pending, p = .not

theorem leaves_push (f : Frame) (operand : Filter) :
    (f.push operand).leaves = f.leaves ++ operand.leaves := by
  unfold push leaves
  cases f.operand with
  | none => simp [Pending.leaves_foldl]
  | some left => simp [Filter.leaves, Pending.leaves_foldl]

theorem negations_push (f : Frame) (operand : Filter) :
    (f.push operand).negations = f.negations + operand.negations := by
  unfold push negations
  cases f.operand with
  | none => simp [Pending.negations_foldl]
  | some left =>
      simp [Filter.negations, Pending.negations_foldl]
      omega

theorem settled_push (f : Frame) (operand : Filter) : (f.push operand).Settled := by
  intro _ p member
  cases member

private theorem leaves_eq_nil_of_not {pending : List Pending} (nots : ∀ p ∈ pending, p = .not) :
    pending.reverse.flatMap Pending.leaves = [] := by
  rw [List.flatMap_eq_nil_iff]
  intro p member
  rw [nots p (List.mem_reverse.mp member)]
  rfl

end Frame

namespace FilterBuilder

def frames (b : FilterBuilder) : List Frame := b.outer.reverse ++ [b.current]

def leaves (b : FilterBuilder) : List Filter := b.frames.flatMap Frame.leaves

def negations (b : FilterBuilder) : Nat := (b.frames.map Frame.negations).sum

def Settled (b : FilterBuilder) : Prop := ∀ f ∈ b.frames, f.Settled

theorem settled_iff {b : FilterBuilder} :
    b.Settled ↔ b.current.Settled ∧ ∀ f ∈ b.outer, f.Settled := by
  simp [Settled, frames, or_imp, forall_and, and_comm]

theorem leaves_eq (b : FilterBuilder) :
    b.leaves = b.outer.reverse.flatMap Frame.leaves ++ b.current.leaves := by
  simp [leaves, frames]

theorem negations_eq (b : FilterBuilder) :
    b.negations = (b.outer.map Frame.negations).sum + b.current.negations := by
  simp [negations, frames]

/-- What one call keeps: the leaves and negations so far, with those it adds. -/
structure Keeps (b next : FilterBuilder) (leaves : List Filter) (negations : Nat) : Prop where
  settled : next.Settled
  leaves : next.leaves = b.leaves ++ leaves
  negations : next.negations = b.negations + negations

variable {b : FilterBuilder}

theorem Settled.refl (settled : b.Settled) : Keeps b b [] 0 :=
  ⟨settled, (List.append_nil _).symm, rfl⟩

private theorem Settled.push (settled : b.Settled) (operand : Filter) :
    Keeps b (b.push operand) operand.leaves operand.negations := by
  obtain ⟨_, outer⟩ := settled_iff.mp settled
  refine ⟨settled_iff.mpr ⟨b.current.settled_push operand, outer⟩, ?_, ?_⟩
  · rw [leaves_eq, leaves_eq, FilterBuilder.push, Frame.leaves_push, List.append_assoc]
  · rw [negations_eq, negations_eq, FilterBuilder.push, Frame.negations_push, Nat.add_assoc]

private theorem Settled.combine (settled : b.Settled) (how : Combinator) :
    Keeps b (b.combine how) [] 0 := by
  obtain ⟨current, outer⟩ := settled_iff.mp settled
  unfold FilterBuilder.combine
  split
  · rename_i left operand
    have nots := current (by rw [operand]; rfl)
    refine ⟨settled_iff.mpr ⟨(fun absent => by cases absent), outer⟩, ?_, ?_⟩
    · simp [leaves_eq, Frame.leaves, operand, Pending.leaves, Frame.leaves_eq_nil_of_not nots]
    · simp [negations_eq, Frame.negations, operand, Pending.negations]
  · exact settled.refl

private theorem Settled.negateNext (settled : b.Settled) : Keeps b b.negateNext [] 1 := by
  obtain ⟨current, outer⟩ := settled_iff.mp settled
  refine ⟨settled_iff.mpr ⟨fun present p member => ?_, outer⟩, ?_, ?_⟩
  · rcases List.mem_cons.mp member with rfl | inside
    · rfl
    · exact current present p inside
  · simp [leaves_eq, FilterBuilder.negateNext, Frame.leaves, Pending.leaves]
  · simp [negations_eq, FilterBuilder.negateNext, Frame.negations, Pending.negations]
    omega

private theorem Settled.openGroup (settled : b.Settled) : Keeps b b.openGroup [] 0 := by
  have empty : Frame.Settled {} := fun absent => by cases absent
  refine ⟨settled_iff.mpr ⟨empty, ?_⟩, ?_, ?_⟩
  · exact List.forall_mem_cons.mpr (settled_iff.mp settled)
  · simp [leaves_eq, FilterBuilder.openGroup, Frame.leaves]
  · simp [negations_eq, FilterBuilder.openGroup, Frame.negations]
    omega

private theorem Settled.closeGroup (settled : b.Settled) {closed : FilterBuilder}
    (closes : b.closeGroup = .ok closed) : Keeps b closed [] 0 := by
  obtain ⟨_, frames⟩ := settled_iff.mp settled
  unfold FilterBuilder.closeGroup at closes
  split at closes
  · cases closes
  · rename_i around outer opened
    rw [opened] at frames
    obtain ⟨aroundSettled, outerSettled⟩ := List.forall_mem_cons.mp frames
    split at closes
    · rename_i complete
      have idle : b.current.pending = [] := List.isEmpty_iff.mp complete
      cases operand : b.current.operand with
      | none =>
          rw [operand] at closes
          cases closes
          refine ⟨settled_iff.mpr ⟨aroundSettled, outerSettled⟩, ?_, ?_⟩
          · simp [leaves_eq, opened, Frame.leaves, operand, idle]
          · simp [negations_eq, opened, Frame.negations, operand, idle]
            omega
      | some whole =>
          rw [operand] at closes
          cases closes
          refine ⟨settled_iff.mpr ⟨around.settled_push _, outerSettled⟩, ?_, ?_⟩
          · have current : b.current.leaves = whole.leaves := by
              simp [Frame.leaves, operand, idle]
            rw [leaves_eq, leaves_eq, Frame.leaves_push, opened, current]
            simp [Filter.leaves]
          · have current : b.current.negations = whole.negations := by
              simp [Frame.negations, operand, idle]
            rw [negations_eq, negations_eq, Frame.negations_push, opened, current]
            simp [Filter.negations]
            omega
    · cases closes

private theorem finish_eq_ok {b : FilterBuilder} {filter : Option Filter}
    (finished : b.finish = .ok filter) :
    b.leaves = (filter.map Filter.leaves).getD [] ∧
      b.negations = (filter.map Filter.negations).getD 0 := by
  unfold FilterBuilder.finish at finished
  split at finished
  · cases finished
  split at finished
  · cases finished
  · rename_i closed complete
    cases finished
    have outer : b.outer = [] := by simpa using closed
    have pending : b.current.pending = [] := by simpa using complete
    constructor
    · simp [leaves_eq, outer, Frame.leaves, pending]
    · simp [negations_eq, outer, Frame.negations, pending]

end FilterBuilder

/-! ## Calls -/

namespace FilterBuilder

private theorem Settled.pushAll {b : FilterBuilder} (settled : b.Settled) {added : List Filter}
    (single : ∀ leaf ∈ added, leaf.leaves = [leaf] ∧ leaf.negations = 0) :
    Keeps b (added.foldl FilterBuilder.push b) added 0 := by
  induction added generalizing b with
  | nil => exact settled.refl
  | cons leaf added ih =>
      obtain ⟨⟨leaves, negations⟩, others⟩ := List.forall_mem_cons.mp single
      have pushed := settled.push leaf
      have rest := ih pushed.settled others
      refine ⟨rest.settled, ?_, ?_⟩
      · rw [List.foldl_cons, rest.leaves, pushed.leaves, leaves, List.append_assoc]
        rfl
      · rw [List.foldl_cons, rest.negations, pushed.negations, negations]

end FilterBuilder

namespace Query

namespace Call

private theorem pushed_single (c : Call) :
    ∀ leaf ∈ c.pushed, leaf.leaves = [leaf] ∧ leaf.negations = 0 := by
  have test (column : String) (op : Operator) (operand : Operand) :
      ∀ leaf ∈ (testLeaf column op operand).toOption.getD [],
        leaf.leaves = [leaf] ∧ leaf.negations = 0 := by
    unfold testLeaf
    cases Test.make column op operand with
    | error e => exact List.forall_mem_nil _
    | ok test => exact List.forall_mem_singleton.mpr ⟨rfl, rfl⟩
  cases c with
  | whereOperator column op operand => exact test column op operand
  | whereText column op operand =>
      unfold pushed leaves spelledLeaf
      dsimp only
      cases Operator.ofText op with
      | error e => exact List.forall_mem_nil _
      | ok op => exact test column op operand
  | whereRaw sql values => exact List.forall_mem_singleton.mpr ⟨rfl, rfl⟩
  | _ => exact List.forall_mem_nil _

private theorem keeps_build {b : FilterBuilder} (settled : b.Settled) (c : Call) :
    b.Keeps (c.build b) c.pushed (if c.isNegation then 1 else 0) := by
  cases c with
  | combine how => exact settled.combine how
  | negateNext => exact settled.negateNext
  | openGroup => exact settled.openGroup
  | closeGroup =>
      simp only [build]
      cases closes : b.closeGroup with
      | error e => exact settled.refl
      | ok closed => exact settled.closeGroup closes
  | _ => exact settled.pushAll (pushed_single _)

end Call

/-- A sequence of calls keeps what was read before it and adds what it pushes. -/
theorem keeps_built {q : Query} (settled : q.filter.Settled) (calls : List Call) :
    q.filter.Keeps (q.built calls).filter (calls.flatMap Call.pushed)
      (calls.countP Call.isNegation) := by
  induction calls generalizing q with
  | nil => exact settled.refl
  | cons c calls ih =>
      have first := c.keeps_build settled
      rw [← c.filter_apply q] at first
      have rest := ih first.settled
      refine ⟨rest.settled, ?_, ?_⟩
      · rw [List.flatMap_cons, ← List.append_assoc, ← first.leaves]
        exact rest.leaves
      · rw [List.countP_cons, Nat.add_comm (calls.countP _), ← Nat.add_assoc, ← first.negations]
        exact rest.negations

/-- The filter that calls on a new query leave holds what they pushed, in order and each once, and
as many negations as were asked for. -/
theorem leaves_of_finish {q : Query} (fresh : q.filter = {}) {calls : List Call}
    {filter : Option Filter} (finished : (q.built calls).filter.finish = .ok filter) :
    (filter.map Filter.leaves).getD [] = calls.flatMap Call.pushed ∧
      (filter.map Filter.negations).getD 0 = calls.countP Call.isNegation := by
  have empty : q.filter.Settled := by
    rw [fresh]
    intro f member
    rw [List.mem_singleton.mp member]
    intro absent
    cases absent
  have kept := keeps_built empty calls
  obtain ⟨leaves, negations⟩ := FilterBuilder.finish_eq_ok finished
  rw [fresh] at kept
  constructor
  · rw [← leaves, kept.leaves]
    rfl
  · rw [← negations, kept.negations]
    exact Nat.zero_add _

end Query

end RecordMapper
