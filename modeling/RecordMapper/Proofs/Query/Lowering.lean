import RecordMapper.Proofs.Except
import RecordMapper.Query.Compile

/-!
What the expression of a filter and the condition of a query are made of.
-/

set_option autoImplicit false

namespace RecordMapper

theorem Expr.nest_eq_or (flattens : Expr → Bool) (e : Expr) :
    e.nest flattens = e ∨ e.nest flattens = e.group := by
  cases kept : flattens e <;> cases e <;> simp [nest, kept]

namespace Combinator

def joined : Combinator → List Expr → Expr
  | .and => .and
  | .or => .or
  | .xor => .xor

/-- The operands that an expression brings into those that a combinator joins. -/
def parts : Combinator → Expr → List Expr
  | .and => Expr.conjuncts
  | .or => Expr.disjuncts
  | .xor => Expr.exclusives

def flattens : Combinator → Expr → Bool
  | .and => Expr.isConjunction
  | .or => Expr.isAlternative
  | .xor => fun _ => false

theorem join_eq (how : Combinator) (left right : Expr) :
    how.join left right =
      how.joined (how.parts (left.nest how.flattens) ++ how.parts (right.nest how.flattens)) := by
  cases how <;> rfl

theorem parts_cases (how : Combinator) (e : Expr) :
    how.parts e = [e] ∨ e = how.joined (how.parts e) := by
  cases how <;> cases e <;> simp [parts, joined, Expr.conjuncts, Expr.disjuncts, Expr.exclusives]

end Combinator

namespace Filter

def leaves : Filter → List Filter
  | .leaf column test => [.leaf column test]
  | .raw sql values => [.raw sql values]
  | .combine _ left right => left.leaves ++ right.leaves
  | .not operand | .grouped operand => operand.leaves

inductive Lowers (d : Dialect) (scope : Scope) : Filter → Expr → Prop where
  | leaf {column : String} {test : Test} {target : ColumnRef}
      (resolved : scope.resolve column = .ok target) :
      Lowers d scope (.leaf column test) (test.condition target)
  | raw {sql : String} {values : List Value} {text : List Char}
      (filled : fill d sql sql.toList values = .ok text) :
      Lowers d scope (.raw sql values) (.raw (.ofList text))
  | combine {how : Combinator} {left right : Filter} {first second : Expr}
      (lowersLeft : Lowers d scope left first) (lowersRight : Lowers d scope right second) :
      Lowers d scope (.combine how left right) (how.join first second)
  | not {operand : Filter} {inner : Expr} (lowers : Lowers d scope operand inner) :
      Lowers d scope (.not operand) (.not (inner.nest fun _ => false))
  | grouped {operand : Filter} {inner : Expr} (lowers : Lowers d scope operand inner) :
      Lowers d scope (.grouped operand) inner.group

theorem lowers_of_lower {d : Dialect} {scope : Scope} {filter : Filter} {e : Expr}
    (lowered : filter.lower d scope = .ok e) : Lowers d scope filter e := by
  induction filter generalizing e with
  | leaf column test =>
      obtain ⟨target, resolved, returned⟩ := bind_eq_ok.mp lowered
      cases returned
      exact .leaf resolved
  | raw sql values =>
      obtain ⟨text, filled, returned⟩ := bind_eq_ok.mp lowered
      cases returned
      exact .raw filled
  | combine how left right leftIH rightIH =>
      obtain ⟨first, loweredLeft, rest⟩ := bind_eq_ok.mp lowered
      obtain ⟨second, loweredRight, returned⟩ := bind_eq_ok.mp rest
      cases returned
      exact .combine (leftIH loweredLeft) (rightIH loweredRight)
  | not operand ih =>
      obtain ⟨inner, loweredOperand, returned⟩ := bind_eq_ok.mp lowered
      cases returned
      exact .not (ih loweredOperand)
  | grouped operand ih =>
      obtain ⟨inner, loweredOperand, returned⟩ := bind_eq_ok.mp lowered
      cases returned
      exact .grouped (ih loweredOperand)

end Filter

/-- The condition of a query: its joins alone, or its joins and the expression of its filter. -/
theorem Query.exists_of_condition {q : Query} {d : Dialect} {scope : Scope}
    {filter : Option Filter} {whole : Option Expr} (finished : q.filter.finish = .ok filter)
    (compiled : q.condition d scope = .ok whole) :
    (filter = none ∧ whole = Expr.conjAll? (scope.equalities.map KeyEquality.condition)) ∨
      ∃ f e, filter = some f ∧ Filter.Lowers d scope f e ∧
        whole = Expr.conjAll? (scope.equalities.map KeyEquality.condition ++
          [if scope.equalities.isEmpty then e else e.nest Expr.isConjunction]) := by
  obtain ⟨found, same, rest⟩ := bind_eq_ok.mp compiled
  obtain rfl := Except.ok.inj (finished.symm.trans same)
  cases filter with
  | none =>
      cases rest
      exact .inl ⟨rfl, rfl⟩
  | some f =>
      obtain ⟨e, lowered, returned⟩ := bind_eq_ok.mp rest
      cases returned
      refine .inr ⟨f, e, rfl, Filter.lowers_of_lower lowered, ?_⟩
      rw [List.isEmpty_map]

end RecordMapper
