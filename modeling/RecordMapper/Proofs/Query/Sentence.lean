import RecordMapper.Proofs.Query.Waiting

/-!
Sequences of calls as sentences. A sentence joins terms from left to right, each to everything before
it in its group, and is read into exactly the filter that it stands for. A sequence that leaves a
group open, or an operator without its operand, is refused in the end.
-/

set_option autoImplicit false

namespace RecordMapper

/-! ## What is left open -/

namespace FilterBuilder

def LeavesGroup (moves : List Move) : Prop := closings {} moves < moves.countP Move.opens

def LeavesOperator (moves : List Move) : Prop :=
  ∃ before m behind, moves = before ++ m :: behind ∧ m.Waits (after {} before) ∧
    Idle (after {} before).depth (after {} (before ++ [m])) behind

private theorem finish_of_leavesGroup {moves : List Move} (left : LeavesGroup moves) :
    ∃ e, (after {} moves).finish = .error e := by
  have depth := depth_after {} moves
  have empty : FilterBuilder.depth {} = 0 := rfl
  rw [LeavesGroup] at left
  refine finish_eq_error (.inl fun closed => ?_)
  rw [FilterBuilder.depth, closed, List.length_nil] at depth
  omega

private theorem finish_of_leavesOperator {moves : List Move} (left : LeavesOperator moves) :
    ∃ e, (after {} moves).finish = .error e := by
  obtain ⟨before, m, behind, rfl, waits, idle⟩ := left
  exact finish_of_idle waits idle

private theorem push_negateNext (b : FilterBuilder) (operand : Filter) :
    b.negateNext.push operand = b.push (.not operand) :=
  rfl

end FilterBuilder

namespace Query

/-! ## Sentences -/

structure LeafCall where
  call : Call
  leaf : Filter
  adds : call.leaves = .ok [leaf]

mutual

inductive Term where
  | leaf (c : LeafCall)
  | group (inside : Sentence)
  | not (operand : Term)

/-- Terms one after the other. Two terms without a combinator between them are both required. -/
inductive Sentence where
  | term (t : Term)
  | join (before : Sentence) (how : Option Combinator) (t : Term)

end

mutual

def Term.calls : Term → List Call
  | .leaf c => [c.call]
  | .group inside => .openGroup :: (inside.calls ++ [.closeGroup])
  | .not operand => .negateNext :: operand.calls

def Sentence.calls : Sentence → List Call
  | .term t => t.calls
  | .join before how t => before.calls ++ ((how.map Call.combine).toList ++ t.calls)

end

mutual

def Term.reading : Term → Filter
  | .leaf c => c.leaf
  | .group inside => .grouped inside.reading
  | .not operand => .not operand.reading

/-- The filter that a sentence stands for: a combinator takes all that is before it in the group as
its left operand, and the next term as its right one. -/
def Sentence.reading : Sentence → Filter
  | .term t => t.reading
  | .join before how t => .combine (how.getD .and) before.reading t.reading

end

private theorem LeafCall.move_call (c : LeafCall) : c.call.move = .leaf c.leaf := by
  obtain ⟨call, leaf, adds⟩ := c
  have pushed : call.pushed = [leaf] := by rw [Call.pushed, adds]; rfl
  cases call with
  | whereOperator | whereText | whereRaw => simp only [Call.move, pushed]
  | _ => cases adds

mutual

theorem after_term : (t : Term) → (b : FilterBuilder) →
    b.after (t.calls.map Call.move) = b.push t.reading
  | .leaf c, b => by
    rw [Term.calls, List.map_singleton, c.move_call]
    rfl
  | .group inside, b => by
    rw [Term.calls, List.map_cons, List.map_append, FilterBuilder.after, List.foldl_cons,
      ← FilterBuilder.after, FilterBuilder.after_append]
    change FilterBuilder.after (FilterBuilder.after { outer := b.current :: b.outer } _) _ = _
    rw [after_sentence inside]
    rfl
  | .not operand, b => by
    rw [Term.calls, Term.reading, ← FilterBuilder.push_negateNext]
    exact after_term operand b.negateNext

/-- In a group that has just been opened, a sentence leaves the filter that it stands for and no
operator that waits. -/
theorem after_sentence : (s : Sentence) → (outer : List Frame) →
    FilterBuilder.after { outer } (s.calls.map Call.move) =
      { current := { operand := some s.reading }, outer }
  | .term t, outer => after_term t { outer }
  | .join before how t, outer => by
    rw [Sentence.calls, List.map_append, List.map_append, FilterBuilder.after_append,
      after_sentence before, FilterBuilder.after_append, after_term t]
    cases how <;> rfl

end

/-- A sentence is read into the filter that it stands for. A group without anything in it, wherever
it is opened and closed, leaves no trace, and a sequence that leaves a group open or an operator
without its operand is refused. -/
theorem reads_as_written (table : String) (error : Option Error) :
    let finished calls := ((Query.ofTable table error).built calls).filter.finish
    (∀ s : Sentence, finished s.calls = .ok (some s.reading)) ∧
      (∀ before behind, finished (before ++ .openGroup :: .closeGroup :: behind) =
        finished (before ++ behind)) ∧
      ∀ calls, FilterBuilder.LeavesGroup (calls.map Call.move) ∨
          FilterBuilder.LeavesOperator (calls.map Call.move) →
        ∃ e, finished calls = .error e := by
  intro finished
  have fresh (calls : List Call) :
      finished calls = (FilterBuilder.after {} (calls.map Call.move)).finish :=
    congrArg FilterBuilder.finish (filter_built _ calls)
  refine ⟨fun s => ?_, fun before behind => ?_, fun calls left => ?_⟩
  · rw [fresh, after_sentence]
    rfl
  · rw [fresh, fresh, List.map_append, List.map_append, FilterBuilder.after_append,
      FilterBuilder.after_append]
    rfl
  · rw [fresh]
    exact left.elim FilterBuilder.finish_of_leavesGroup FilterBuilder.finish_of_leavesOperator

theorem reads_as_written_raw :
    let raw (sql : String) : Term := .leaf ⟨.whereRaw sql [], .raw sql [], rfl⟩
    let s : Sentence :=
      .join (.term (raw "a")) (some .or) (.not (.group (.join (.term (raw "b")) none (raw "c"))))
    let pending : List Call := [.whereRaw "a" [], .combine .or]
    let finished calls := ((Query.ofTable "customer" none).built calls).filter.finish
    finished s.calls = .ok (some (.combine .or (.raw "a" [])
        (.not (.grouped (.combine .and (.raw "b" []) (.raw "c" [])))))) ∧
      FilterBuilder.LeavesOperator (pending.map Call.move) ∧ ∃ e, finished pending = .error e := by
  intro raw s pending finished
  have left : FilterBuilder.LeavesOperator (pending.map Call.move) :=
    ⟨[.leaf (.raw "a" [])], .combine .or, [], rfl, .inr rfl, trivial⟩
  exact ⟨(reads_as_written "customer" none).1 s, left,
    (reads_as_written "customer" none).2.2 pending (.inr left)⟩

end Query

end RecordMapper
