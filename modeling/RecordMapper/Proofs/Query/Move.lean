import RecordMapper.Proofs.Query.Building

/-!
The moves of a filter that is being read: what the calls of a query come down to for its filter. A
group is told from others by the number of groups that are open around it.
-/

set_option autoImplicit false

namespace RecordMapper

namespace FilterBuilder

inductive Move where
  | leaf (added : Filter)
  | combine (how : Combinator)
  | negateNext
  | openGroup
  | closeGroup
  /-- Nothing, as of a call that fails or that is about another part of the query. -/
  | other

namespace Move

def apply (b : FilterBuilder) : Move → FilterBuilder
  | .leaf added => b.push added
  | .combine how => b.combine how
  | .negateNext => b.negateNext
  | .openGroup => b.openGroup
  | .closeGroup =>
    match b.closeGroup with
    | .ok closed => closed
    | .error _ => b
  | .other => b

def operand? (b : FilterBuilder) : Move → Option Filter
  | .leaf added => some added
  | .closeGroup =>
    match b.closeGroup with
    | .ok _ => b.current.operand.map .grouped
    | .error _ => none
  | _ => none

def opens : Move → Bool
  | .openGroup => true
  | _ => false

def closes (b : FilterBuilder) : Move → Bool
  | .closeGroup => b.closeGroup.isOk
  | _ => false

end Move

def depth (b : FilterBuilder) : Nat := b.outer.length

def after (b : FilterBuilder) (moves : List Move) : FilterBuilder := moves.foldl Move.apply b

theorem after_append (b : FilterBuilder) (moves others : List Move) :
    b.after (moves ++ others) = (b.after moves).after others :=
  List.foldl_append

/-- Whether a move adds an operand to the group around which `depth` groups are open. -/
def Move.Completes (m : Move) (b : FilterBuilder) (depth : Nat) : Prop :=
  (m.operand? b).isSome = true ∧ (m.apply b).depth = depth

def Idle (depth : Nat) : FilterBuilder → List Move → Prop
  | _, [] => True
  | b, m :: moves => ¬ m.Completes b depth ∧ Idle depth (m.apply b) moves

def closings : FilterBuilder → List Move → Nat
  | _, [] => 0
  | b, m :: moves => (if m.closes b then 1 else 0) + closings (m.apply b) moves

/-- A group that closes has no operator left; if it has an operand, that becomes one operand of the
group around it. -/
theorem closeGroup_cases {b closed : FilterBuilder} (closes : b.closeGroup = .ok closed) :
    ∃ around outer, b.outer = around :: outer ∧ b.current.pending = [] ∧
      (b.current.operand = none ∧ closed = { current := around, outer } ∨
        ∃ operand, b.current.operand = some operand ∧
          closed = { current := around.push (.grouped operand), outer }) := by
  unfold closeGroup at closes
  split at closes
  · cases closes
  · rename_i around outer opened
    split at closes
    · rename_i complete
      refine ⟨around, outer, opened, List.isEmpty_iff.mp complete, ?_⟩
      cases operand : b.current.operand with
      | none => rw [operand] at closes; cases closes; exact .inl ⟨rfl, rfl⟩
      | some whole => rw [operand] at closes; cases closes; exact .inr ⟨whole, rfl, rfl⟩
    · cases closes

theorem finish_eq_error {b : FilterBuilder} (left : b.outer ≠ [] ∨ b.current.pending ≠ []) :
    ∃ e, b.finish = .error e := by
  unfold finish
  split
  · exact ⟨_, rfl⟩
  · rename_i closed
    have waiting := left.resolve_left (by simpa using closed)
    rw [if_pos (by simpa using waiting)]
    exact ⟨_, rfl⟩

/-- What a move does to the open groups: it opens one, closes one, or leaves those around the
current one. -/
theorem Move.apply_cases (b : FilterBuilder) (m : Move) :
    m = .openGroup ∨ (∃ closed, m = .closeGroup ∧ b.closeGroup = .ok closed) ∨
      (m.opens = false ∧ m.closes b = false ∧ (m.apply b).outer = b.outer) := by
  cases m with
  | openGroup => exact .inl rfl
  | closeGroup =>
      cases closes : b.closeGroup with
      | ok closed => exact .inr (.inl ⟨closed, rfl, rfl⟩)
      | error e =>
          refine .inr (.inr ⟨rfl, ?_, ?_⟩)
          · rw [Move.closes, closes]
            rfl
          · rw [apply, closes]
  | combine how =>
      refine .inr (.inr ⟨rfl, rfl, ?_⟩)
      simp only [apply, FilterBuilder.combine]
      split <;> rfl
  | leaf | negateNext | other => exact .inr (.inr ⟨rfl, rfl, rfl⟩)

private theorem Move.depth_apply (b : FilterBuilder) (m : Move) :
    (m.apply b).depth + (if m.closes b then 1 else 0) = b.depth + if m.opens then 1 else 0 := by
  rcases m.apply_cases b with rfl | ⟨closed, rfl, closes⟩ | ⟨opens, stays, same⟩
  · rfl
  · have shut : Move.closes b .closeGroup = true := by rw [Move.closes, closes]; rfl
    rw [if_pos shut, apply, closes]
    obtain ⟨around, outer, opened, _, ⟨_, rfl⟩ | ⟨_, _, rfl⟩⟩ := closeGroup_cases closes
    · rw [depth, depth, opened]
      rfl
    · rw [depth, depth, opened]
      rfl
  · rw [opens, stays, depth, same]
    rfl

theorem depth_after (b : FilterBuilder) (moves : List Move) :
    (b.after moves).depth + closings b moves = b.depth + moves.countP Move.opens := by
  induction moves generalizing b with
  | nil => rfl
  | cons m moves ih =>
      have first := m.depth_apply b
      have rest := ih (m.apply b)
      rw [after] at rest
      rw [after, List.foldl_cons, closings, List.countP_cons]
      omega

/-- Whether a move is a combinator that takes the operand before it: one without such an operand is
ignored. -/
def Move.Joins (b : FilterBuilder) : Move → Prop
  | .combine _ => b.current.operand.isSome = true
  | _ => False

def Move.Waits (b : FilterBuilder) (m : Move) : Prop := m = .negateNext ∨ m.Joins b

end FilterBuilder

namespace Query

open FilterBuilder (Move)

def Call.move : Call → Move
  | .combine how => .combine how
  | .negateNext => .negateNext
  | .openGroup => .openGroup
  | .closeGroup => .closeGroup
  | c =>
    match c.pushed with
    | added :: _ => .leaf added
    | [] => .other

private theorem Call.length_pushed_le (c : Call) : c.pushed.length ≤ 1 := by
  have test (column : String) (op : Operator) (operand : Operand) :
      ((testLeaf column op operand).toOption.getD []).length ≤ 1 := by
    unfold testLeaf
    cases Test.make column op operand with
    | error e => exact Nat.zero_le 1
    | ok test => exact Nat.le_refl 1
  cases c with
  | whereOperator column op operand => exact test column op operand
  | whereText column op operand =>
      unfold pushed leaves spelledLeaf
      dsimp only
      cases Operator.ofText op with
      | error e => exact Nat.zero_le 1
      | ok op => exact test column op operand
  | whereRaw sql values => exact Nat.le_refl 1
  | _ => exact Nat.zero_le 1

private theorem Call.build_eq_apply (b : FilterBuilder) (c : Call) :
    c.build b = c.move.apply b := by
  have pushes : c.pushed.foldl FilterBuilder.push b =
      (match c.pushed with
        | added :: _ => Move.leaf added
        | [] => Move.other).apply b := by
    have short := c.length_pushed_le
    match c.pushed, short with
    | [], _ => rfl
    | [leaf], _ => rfl
  cases c with
  | combine | negateNext | openGroup => rfl
  | closeGroup =>
      rw [build, move, Move.apply]
      cases b.closeGroup <;> rfl
  | _ => simpa only [build, move] using pushes

theorem filter_built (q : Query) (calls : List Call) :
    (q.built calls).filter = q.filter.after (calls.map Call.move) := by
  induction calls generalizing q with
  | nil => rfl
  | cons c calls ih =>
      refine (ih (c.apply q)).trans ?_
      rw [c.filter_apply, c.build_eq_apply]
      rfl

end Query

end RecordMapper
