import RecordMapper.Proofs.Query.Lowering
import RecordMapper.Proofs.Sql.ExprReading

/-!
The condition of a query means what its filter says. Parentheses, flattening and the two spellings
of an exclusive disjunction leave the value of the filter as it is, in both dialects.
-/

set_option autoImplicit false

namespace RecordMapper

open Sql

/-! ## Meanings -/

def Test.meaning (d : Dialect) (column : ColumnRef) : Test → Meaning
  | .inList [] negated => fun _ => if negated then .true else .false
  | test => fun v => v ((test.condition column).tokens d)

/-- The value of a filter in a scope, as the filter is written. -/
def Filter.meaning (d : Dialect) (scope : Scope) : Filter → Meaning
  | .leaf column test => fun v =>
    match scope.resolve column with
    | .ok column => test.meaning d column v
    | .error _ => .null
  | .raw sql values => fun v =>
    match fill d sql sql.toList values with
    | .ok text => fragmentMeaning d (.ofList text) v
    | .error _ => .null
  | .combine how left right => fun v => how.truth (left.meaning d scope v) (right.meaning d scope v)
  | .not operand => fun v => (operand.meaning d scope v).negate
  | .grouped operand => operand.meaning d scope

def Scope.meaning (d : Dialect) (scope : Scope) (filter : Option Filter) : Meaning := fun v =>
  Combinator.and.truth
    (Combinator.and.truthAll (scope.equalities.map fun e => v (e.condition.tokens d)))
    (match filter with
      | some filter => filter.meaning d scope v
      | none => .true)

/-- The value of the condition of a statement, as its text is read. -/
def Sql.conditionTruth (d : Dialect) (v : Valuation) : Option Expr → Option Truth
  | some e => (readCondition d (e.render d)).map (Condition.truth v)
  | none => some .true

/-- Each fragment of SQL is a complete condition. -/
def Sql.Complete (d : Dialect) (filter : Option Expr) : Prop :=
  ∀ e ∈ filter, ∀ sql ∈ e.fragments, (readCondition d sql).isSome

/-- Assignments for two dialects that give the same values to the same joins and leaves. -/
structure Scope.Agree (d d' : Dialect) (scope : Scope) (filter : Option Filter)
    (v v' : Valuation) : Prop where
  joins : ∀ e ∈ scope.equalities, v (e.condition.tokens d) = v' (e.condition.tokens d')
  leaves : ∀ f ∈ filter, ∀ leaf ∈ f.leaves, leaf.meaning d scope v = leaf.meaning d' scope v'

/-! ## Tests -/

theorem Sql.Valuation.atom_column (v : Valuation) (c : ColumnRef) (rest : List Token) :
    v.atom (c.tokens ++ rest) = v (c.tokens ++ rest) := by
  obtain ⟨spelling, others, tokens⟩ := c.exists_tokens_eq
  rw [tokens]
  simp [Valuation.atom, constantTokens]

theorem KeyEquality.isTest_condition (e : KeyEquality) : e.condition.IsTest :=
  .equal e.left e.right

theorem KeyEquality.meaning_condition (d : Dialect) (e : KeyEquality) (v : Valuation) :
    e.condition.meaning d v = v (e.condition.tokens d) := by
  have atom := v.atom_column e.left (Comparison.eq.tokens d ++ e.right.tokens)
  rw [← List.append_assoc] at atom
  exact atom

private theorem Test.isTest_condition (test : Test) (column : ColumnRef) :
    (test.condition column).IsTest := by
  cases test with
  | compare op value => exact .compare column op value
  | inList values negated => exact .inList column values negated
  | is test negated => exact .is column test negated

private theorem Test.meaning_condition (d : Dialect) (test : Test) (column : ColumnRef)
    (v : Valuation) :
    (test.condition column).meaning d v = test.meaning d column v := by
  cases test with
  | compare op value =>
      have atom := v.atom_column column (op.tokens d ++ value.tokens d)
      rw [← List.append_assoc] at atom
      exact atom
  | is test negated =>
      have atom := v.atom_column column
        ((if negated then [.keyword "is", .keyword "not"] else [.keyword "is"]) ++ [test.token])
      rw [← List.append_assoc] at atom
      exact atom
  | inList values negated =>
      cases values with
      | nil => cases negated <;> rfl
      | cons value values =>
          have atom := v.atom_column column
            ((if negated then [.keyword "not", .keyword "in"] else [.keyword "in"]) ++
              parenthesized (listed ((value :: values).map (Value.tokens d))))
          rw [← List.append_assoc] at atom
          exact atom

/-! ## Joined expressions -/

namespace Expr

variable {d : Dialect} {e : Expr}

theorem meaning_joined (how : Combinator) (operands : List Expr) (v : Valuation) :
    (how.joined operands).meaning d v = how.truthAll (operands.map fun x => x.meaning d v) := by
  cases how <;> simp [Combinator.joined, meaning, Meaning.joined, Function.comp_def]

private theorem meaning_parts (how : Combinator) (d : Dialect) (e : Expr) (v : Valuation) :
    how.truthAll ((how.parts e).map fun x => x.meaning d v) = e.meaning d v := by
  rcases how.parts_cases e with single | same
  · rw [single]
    exact how.truth_unit _
  · rw [← meaning_joined how, ← same]

theorem meaning_joined_parts (how : Combinator) (left right : Expr) (v : Valuation) :
    (how.joined (how.parts left ++ how.parts right)).meaning d v =
      how.truth (left.meaning d v) (right.meaning d v) := by
  rw [meaning_joined, List.map_append, Combinator.truthAll_append, meaning_parts, meaning_parts]

theorem conjuncts_conj (left right : Expr) :
    (left.conj right).conjuncts = left.conjuncts ++ right.conjuncts := rfl

private theorem meaning_conj (left right : Expr) (v : Valuation) :
    (left.conj right).meaning d v =
      Combinator.and.truth (left.meaning d v) (right.meaning d v) :=
  meaning_joined_parts .and left right v

@[simp] theorem meaning_group (d : Dialect) (e : Expr) : e.group.meaning d = e.meaning d := by
  cases e <;> rfl

@[simp] theorem meaning_nest (d : Dialect) (flattens : Expr → Bool) (e : Expr) :
    (e.nest flattens).meaning d = e.meaning d := by
  rcases nest_eq_or flattens e with same | grouped
  · rw [same]
  · rw [grouped, meaning_group]

theorem Placed.group (placed : Placed .whole e) : Placed .operand e.group := by
  cases e with
  | grouped inner =>
      cases placed with
      | operand operand => exact operand
  | _ => exact .grouped placed

/-- An expression that is not flattened becomes an operand. -/
theorem Placed.nest (placed : Placed .whole e) (flattens : Expr → Bool)
    (kept : flattens e = false) : Placed .operand (e.nest flattens) := by
  cases placed with
  | operand operand =>
      cases operand with
      | test isTest => cases isTest <;> exact .test (by constructor)
      | grouped inner => exact .grouped inner
      | not operand => exact .not operand
  | raw sql => simpa [Expr.nest, kept] using Placed.group (.raw sql)
  | and filled operands => simpa [Expr.nest, kept] using Placed.group (.and filled operands)
  | or filled operands => simpa [Expr.nest, kept] using Placed.group (.or filled operands)
  | xor first second => simpa [Expr.nest, kept] using Placed.group (.xor first second)

theorem Placed.parts (placed : Placed .operand e) (how : Combinator) : how.parts e = [e] := by
  cases placed with
  | test isTest => cases isTest <;> cases how <;> rfl
  | grouped inner => cases how <;> rfl
  | not operand => cases how <;> rfl

private theorem Placed.parts_of_flattens {how : Combinator} (placed : Placed .whole e)
    (flattened : how.flattens e = true) :
    how.parts e ≠ [] ∧ ∀ x ∈ how.parts e, Placed .operand x := by
  cases placed with
  | operand operand =>
      rw [operand.parts how]
      simp [operand]
  | raw sql => cases how <;> cases flattened
  | and filled operands =>
      cases how with
      | and => exact ⟨filled, operands⟩
      | or => cases flattened
      | xor => cases flattened
  | or filled operands =>
      cases how with
      | and => cases flattened
      | or => exact ⟨filled, operands⟩
      | xor => cases flattened
  | xor first second => cases how <;> cases flattened

theorem Placed.parts_nest (placed : Placed .whole e) (how : Combinator) :
    how.parts (e.nest how.flattens) ≠ [] ∧
      ∀ x ∈ how.parts (e.nest how.flattens), Placed .operand x := by
  cases flattened : how.flattens e with
  | false =>
      have operand := placed.nest _ flattened
      rw [operand.parts how]
      simp [operand]
  | true =>
      have same : e.nest how.flattens = e := by cases e <;> simp [Expr.nest, flattened]
      rw [same]
      exact placed.parts_of_flattens flattened

private theorem Placed.joined {how : Combinator} {operands : List Expr} (flat : how ≠ .xor)
    (filled : operands ≠ []) (each : ∀ x ∈ operands, Placed .operand x) :
    Placed .whole (how.joined operands) := by
  cases how with
  | and => exact .and filled each
  | or => exact .or filled each
  | xor => exact absurd rfl flat

end Expr

/-! ## Filters -/

private theorem Combinator.placed_join {how : Combinator} {left right : Expr}
    (placedLeft : left.Placed .whole) (placedRight : right.Placed .whole) :
    (how.join left right).Placed .whole := by
  rw [how.join_eq]
  by_cases exclusive : how = .xor
  · subst exclusive
    have first := placedLeft.nest (fun _ => false) rfl
    have second := placedRight.nest (fun _ => false) rfl
    rw [Combinator.flattens, first.parts, second.parts]
    exact .xor first second
  · obtain ⟨filled, lefts⟩ := placedLeft.parts_nest how
    obtain ⟨_, rights⟩ := placedRight.parts_nest how
    exact .joined exclusive (List.append_ne_nil_of_left_ne_nil filled _)
      (List.forall_mem_append.mpr ⟨lefts, rights⟩)

private theorem Combinator.meaning_join (d : Dialect) (how : Combinator) (left right : Expr)
    (v : Valuation) :
    (how.join left right).meaning d v = how.truth (left.meaning d v) (right.meaning d v) := by
  rw [how.join_eq, Expr.meaning_joined_parts, Expr.meaning_nest, Expr.meaning_nest]

/-- The expression of a filter stands alone without parentheses, and means what the filter means. -/
theorem Filter.Lowers.placed {d : Dialect} {scope : Scope} {filter : Filter} {e : Expr}
    (lowers : filter.Lowers d scope e) :
    e.Placed .whole ∧ ∀ v, e.meaning d v = filter.meaning d scope v := by
  induction lowers with
  | @leaf column test target resolved =>
      refine ⟨.operand (.test (test.isTest_condition target)), fun v => ?_⟩
      rw [test.meaning_condition, Filter.meaning, resolved]
  | @raw sql values text filled =>
      refine ⟨.raw _, fun v => ?_⟩
      rw [Expr.meaning, Filter.meaning, filled]
  | @combine how left right first second lowersLeft lowersRight leftIH rightIH =>
      obtain ⟨placedFirst, meansFirst⟩ := leftIH
      obtain ⟨placedSecond, meansSecond⟩ := rightIH
      refine ⟨how.placed_join placedFirst placedSecond, fun v => ?_⟩
      rw [how.meaning_join, meansFirst, meansSecond, Filter.meaning]
  | @not operand inner lowers ih =>
      obtain ⟨placed, means⟩ := ih
      refine ⟨.operand (.not (placed.nest _ rfl)), fun v => ?_⟩
      have negated : (Expr.not (inner.nest fun _ => false)).meaning d v =
          ((inner.nest fun _ => false).meaning d v).negate := by
        rw [Expr.meaning]
      rw [negated, Expr.meaning_nest, means, Filter.meaning]
  | @grouped operand inner lowers ih =>
      obtain ⟨placed, means⟩ := ih
      refine ⟨.operand placed.group, fun v => ?_⟩
      rw [Expr.meaning_group, means, Filter.meaning]

/-! ## Conditions -/

namespace Expr

private theorem Placed.foldl_conj {first : Expr} {rest : List Expr} (placed : Placed .whole first)
    (filled : first.conjuncts ≠ [])
    (operands : ∀ e ∈ first :: rest, ∀ x ∈ e.conjuncts, Placed .operand x) :
    Placed .whole (rest.foldl Expr.conj first) := by
  induction rest generalizing first with
  | nil => exact placed
  | cons next rest ih =>
      obtain ⟨firsts, others⟩ := List.forall_mem_cons.mp operands
      obtain ⟨nexts, others⟩ := List.forall_mem_cons.mp others
      have some : (first.conj next).conjuncts ≠ [] := by simp [conjuncts_conj, filled]
      have both := List.forall_mem_append.mpr ⟨firsts, nexts⟩
      exact ih (.and some both) some (List.forall_mem_cons.mpr ⟨both, others⟩)

private theorem meaning_foldl_conj (d : Dialect) (first : Expr) (rest : List Expr) (v : Valuation) :
    (rest.foldl conj first).meaning d v =
      Combinator.and.truth (first.meaning d v)
        (Combinator.and.truthAll (rest.map fun e => e.meaning d v)) := by
  induction rest generalizing first with
  | nil => exact (Combinator.and.truth_unit _).symm
  | cons next rest ih =>
      rw [List.foldl_cons, ih, meaning_conj, Combinator.truth_assoc]
      rfl

end Expr

private theorem KeyEquality.operands_condition (equalities : List KeyEquality) :
    ∀ e ∈ equalities.map KeyEquality.condition, ∀ x ∈ e.conjuncts, x.Placed .operand := by
  intro e member x inside
  obtain ⟨equality, _, rfl⟩ := List.mem_map.mp member
  rw [List.mem_singleton.mp inside]
  exact .test equality.isTest_condition

private theorem KeyEquality.meaning_conditions (d : Dialect) (equalities : List KeyEquality)
    (v : Valuation) :
    (equalities.map KeyEquality.condition).map (fun e => e.meaning d v) =
      equalities.map fun e => v (e.condition.tokens d) := by
  rw [List.map_map]
  exact List.map_congr_left fun e _ => e.meaning_condition d v

/-- Joins and operands behind them make one condition, which means all of them. -/
theorem KeyEquality.placed_joined (d : Dialect) (first : KeyEquality) (others : List KeyEquality)
    {rest : List Expr} (operands : ∀ e ∈ rest, ∀ x ∈ e.conjuncts, x.Placed .operand) :
    ∃ e, Expr.conjAll? ((first :: others).map KeyEquality.condition ++ rest) = some e ∧
      e.Placed .whole ∧
      ∀ v, e.meaning d v =
        Combinator.and.truth
          (Combinator.and.truthAll ((first :: others).map fun e => v (e.condition.tokens d)))
          (Combinator.and.truthAll (rest.map fun e => e.meaning d v)) := by
  refine ⟨(others.map KeyEquality.condition ++ rest).foldl Expr.conj first.condition, rfl, ?_,
    fun v => ?_⟩
  · refine .foldl_conj (.operand (.test first.isTest_condition)) (List.cons_ne_nil _ _) ?_
    intro e member
    rcases List.mem_append.mp (List.cons_append ▸ member) with inside | inside
    · exact KeyEquality.operands_condition (first :: others) e inside
    · exact operands e inside
  · rw [Expr.meaning_foldl_conj, List.map_append, KeyEquality.meaning_conditions,
      Combinator.truthAll_append, first.meaning_condition, ← Combinator.truth_assoc]
    rfl

/-- Without joins and filter a query has no condition; otherwise it has one that means its joins and
its filter. -/
theorem Query.placed_condition {q : Query} {d : Dialect} {scope : Scope}
    {filter : Option Filter} {whole : Option Expr} (finished : q.filter.finish = .ok filter)
    (compiled : q.condition d scope = .ok whole) :
    (whole = none ∧ ∀ v, scope.meaning d filter v = .true) ∨
      ∃ e, whole = some e ∧ e.Placed .whole ∧ ∀ v, e.meaning d v = scope.meaning d filter v := by
  rcases Query.exists_of_condition finished compiled with ⟨rfl, rfl⟩ | ⟨f, e, rfl, lowers, rfl⟩
  · cases equalities : scope.equalities with
    | nil =>
        refine .inl ⟨rfl, fun v => ?_⟩
        rw [Scope.meaning, equalities]
        rfl
    | cons first others =>
        obtain ⟨e, joined, placed, means⟩ := first.placed_joined d others (List.forall_mem_nil _)
        rw [List.append_nil] at joined
        refine .inr ⟨e, joined, placed, fun v => ?_⟩
        rw [means, Scope.meaning, equalities]
        rfl
  · obtain ⟨placed, means⟩ := lowers.placed
    cases equalities : scope.equalities with
    | nil =>
        refine .inr ⟨e, rfl, placed, fun v => ?_⟩
        rw [means, Scope.meaning, equalities]
        exact (Combinator.and.unit_truth _).symm
    | cons first others =>
        have nested : ∀ x ∈ [e.nest Expr.isConjunction], ∀ y ∈ x.conjuncts, y.Placed .operand :=
          List.forall_mem_singleton.mpr (placed.parts_nest .and).2
        obtain ⟨whole, joined, placed, values⟩ := first.placed_joined d others nested
        refine .inr ⟨whole, joined, placed, fun v => ?_⟩
        have last : Combinator.and.truthAll
            ([e.nest Expr.isConjunction].map fun e => e.meaning d v) = f.meaning d scope v := by
          rw [← means, ← Expr.meaning_nest d Expr.isConjunction e]
          exact Combinator.and.truth_unit _
        rw [values, last, Scope.meaning, equalities]

private theorem Filter.meaning_congr {d d' : Dialect} {scope : Scope} {v v' : Valuation}
    {filter : Filter}
    (agree : ∀ leaf ∈ filter.leaves, leaf.meaning d scope v = leaf.meaning d' scope v') :
    filter.meaning d scope v = filter.meaning d' scope v' := by
  induction filter with
  | leaf column test => exact agree _ (List.mem_singleton.mpr rfl)
  | raw sql values => exact agree _ (List.mem_singleton.mpr rfl)
  | combine how left right leftIH rightIH =>
      have first := leftIH fun leaf member => agree leaf (List.mem_append_left _ member)
      have second := rightIH fun leaf member => agree leaf (List.mem_append_right _ member)
      simp only [Filter.meaning, first, second]
  | not operand ih => simp only [Filter.meaning, ih agree]
  | grouped operand ih => exact ih agree

private theorem Scope.Agree.meaning_eq {d d' : Dialect} {scope : Scope} {filter : Option Filter}
    {v v' : Valuation} (agree : scope.Agree d d' filter v v') :
    scope.meaning d filter v = scope.meaning d' filter v' := by
  have joins := List.map_congr_left agree.joins
  unfold Scope.meaning
  rw [joins]
  cases filter with
  | none => rfl
  | some f => exact congrArg _ (Filter.meaning_congr (agree.leaves f rfl))

private theorem Query.conditionTruth_of_condition {q : Query} {d : Dialect} {scope : Scope}
    {filter : Option Filter} {whole : Option Expr} (finished : q.filter.finish = .ok filter)
    (compiled : q.condition d scope = .ok whole) (complete : Complete d whole) (v : Valuation) :
    conditionTruth d v whole = some (scope.meaning d filter v) := by
  rcases Query.placed_condition finished compiled with ⟨rfl, means⟩ | ⟨e, rfl, placed, means⟩
  · rw [conditionTruth, means]
  · obtain ⟨condition, reading, values⟩ := placed.exists_readCondition (complete e rfl)
    rw [conditionTruth, reading, Option.map_some, values, means]

/-- The text of the condition of a query is read as its joins and its filter, whatever the filter
is; the texts for two dialects have the same value where their leaves have. -/
theorem Query.meaning_preserved {q : Query} {d : Dialect} {scope : Scope}
    {filter : Option Filter} {whole : Option Expr} (finished : q.filter.finish = .ok filter)
    (compiled : q.condition d scope = .ok whole) (complete : Complete d whole) :
    (∀ v, conditionTruth d v whole = some (scope.meaning d filter v)) ∧
      ∀ d' whole', q.condition d' scope = .ok whole' → Complete d' whole' →
        ∀ v v', scope.Agree d d' filter v v' →
          conditionTruth d v whole = conditionTruth d' v' whole' := by
  refine ⟨Query.conditionTruth_of_condition finished compiled complete, ?_⟩
  intro d' whole' compiled' complete' v v' agree
  rw [Query.conditionTruth_of_condition finished compiled complete,
    Query.conditionTruth_of_condition finished compiled' complete', agree.meaning_eq]

theorem Query.meaning_preserved_exclusive :
    let filter := Filter.combine .xor (.raw "a" []) (.raw "b OR c" [])
    let q : Query := { table := "t", filter := { current := { operand := some filter } } }
    let e := Expr.xor [.grouped (.raw "a"), .grouped (.raw "b OR c")]
    let v : Valuation := fun tokens => if tokens = [.name "a"] then .true else .null
    q.filter.finish = .ok (some filter) ∧ q.condition .mysql {} = .ok (some e) ∧
      q.condition .postgresql {} = .ok (some e) ∧ Complete .mysql (some e) ∧
      Complete .postgresql (some e) ∧
      conditionTruth .mysql v (some e) = some (Scope.meaning .mysql {} (some filter) v) ∧
      conditionTruth .mysql v (some e) = conditionTruth .postgresql v (some e) := by
  intro filter q e v
  have complete (d : Dialect) : Complete d (some e) := by
    intro x member
    cases member
    cases d <;> decide +kernel
  have preserved := @Query.meaning_preserved q .mysql {} filter e rfl rfl (complete .mysql)
  have agree : Scope.Agree .mysql .postgresql {} (some filter) v v := by
    constructor
    · intro equality member
      cases member
    · intro f member
      cases member
      decide +kernel
  exact ⟨rfl, rfl, rfl, complete _, complete _, preserved.1 v,
    preserved.2 .postgresql (some e) rfl (complete _) v v agree⟩

end RecordMapper
