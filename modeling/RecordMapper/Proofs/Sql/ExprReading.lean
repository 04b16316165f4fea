import RecordMapper.Proofs.Sql.Reading

/-!
What expressions mean and how their texts are read. `Placed` says where an expression may stand
without parentheses: a conjunction, a disjunction or a fragment of SQL only alone or between
parentheses.
-/

set_option autoImplicit false

namespace RecordMapper

open Sql

def Sql.fragmentMeaning (d : Dialect) (sql : String) : Meaning := fun v =>
  match readCondition d sql with
  | some condition => condition.truth v
  | none => .null

namespace Expr

mutual

def meaning (d : Dialect) : Expr → Meaning
  | .and operands => .joined .and (meaningAll d operands)
  | .or operands => .joined .or (meaningAll d operands)
  | .xor operands => .joined .xor (meaningAll d operands)
  | .not operand => fun v => (meaning d operand v).negate
  | .grouped operand => meaning d operand
  | .raw sql => fragmentMeaning d sql
  | .compare left op right => fun v => v.atom ((Expr.compare left op right).tokens d)
  | .inList operand list negated => fun v => v.atom ((Expr.inList operand list negated).tokens d)
  | .is operand test negated => fun v => v.atom ((Expr.is operand test negated).tokens d)
  | .column c => fun v => v.atom c.tokens
  | .value constant => fun v => v.atom (constant.tokens d)

def meaningAll (d : Dialect) : List Expr → List Meaning
  | [] => []
  | e :: rest => meaning d e :: meaningAll d rest

end

@[simp] theorem meaningAll_eq_map (d : Dialect) (es : List Expr) :
    meaningAll d es = es.map (meaning d) := by
  induction es with
  | nil => rfl
  | cons e es ih => rw [meaningAll, ih, List.map_cons]

@[simp] theorem tokensAll_eq_map (d : Dialect) (es : List Expr) :
    tokensAll d es = es.map (tokens d) := by
  induction es with
  | nil => rfl
  | cons e es ih => rw [tokensAll, ih, List.map_cons]

private theorem mem_fragmentsAll {sql : String} {es : List Expr} :
    sql ∈ fragmentsAll es ↔ ∃ e ∈ es, sql ∈ e.fragments := by
  induction es with
  | nil => simp [fragmentsAll]
  | cons e es ih => simp [fragmentsAll, ih]

inductive IsTest : Expr → Prop where
  | compare (column : ColumnRef) (op : Comparison) (value : Value) :
      IsTest (.compare (.column column) op (.value value))
  | equal (left right : ColumnRef) : IsTest (.eq (.column left) (.column right))
  | inList (column : ColumnRef) (list : List Value) (negated : Bool) :
      IsTest (.inList (.column column) list negated)
  | is (column : ColumnRef) (test : Truth) (negated : Bool) :
      IsTest (.is (.column column) test negated)

inductive Place where
  | operand
  | whole

/-- Expressions whose parentheses suffice where they stand. -/
inductive Placed : Place → Expr → Prop where
  | test {e : Expr} (isTest : IsTest e) : Placed .operand e
  | grouped {e : Expr} (inner : Placed .whole e) : Placed .operand (.grouped e)
  | not {e : Expr} (operand : Placed .operand e) : Placed .operand (.not e)
  | operand {e : Expr} (operand : Placed .operand e) : Placed .whole e
  | raw (sql : String) : Placed .whole (.raw sql)
  | and {es : List Expr} (filled : es ≠ []) (operands : ∀ e ∈ es, Placed .operand e) :
      Placed .whole (.and es)
  | or {es : List Expr} (filled : es ≠ []) (operands : ∀ e ∈ es, Placed .operand e) :
      Placed .whole (.or es)
  | xor {left right : Expr} (first : Placed .operand left) (second : Placed .operand right) :
      Placed .whole (.xor [left, right])

/-! ## Tests -/

end Expr

namespace Sql

def Token.isSimple (token : Token) : Bool :=
  token != .symbol "(" && token != .symbol ")" && !(Item.single token).isConnective

theorem Token.isSimple_of_isOperand {token : Token} (operand : token.isOperand = true) :
    token.isSimple = true := by
  cases token with
  | symbol sign =>
      simp only [Token.isOperand, List.contains_eq_mem, List.mem_cons, List.not_mem_nil, or_false,
        decide_eq_true_eq] at operand
      rcases operand with rfl | rfl | rfl <;> decide
  | keyword word =>
      obtain rfl : word = "null" := by simpa [Token.isOperand] using operand
      decide
  | name | text | bytes | number => simp [isSimple, Item.isConnective, Item.isKeyword]

private theorem not_isComparison_of_isOperand {token : Token} (operand : token.isOperand = true) :
    (Item.single token).isComparison = false := by
  cases token with
  | symbol sign =>
      simp only [Token.isOperand, List.contains_eq_mem, List.mem_cons, List.not_mem_nil, or_false,
        decide_eq_true_eq] at operand
      rcases operand with rfl | rfl | rfl <;> rfl
  | keyword | name | text | bytes | number => rfl

theorem Gathers.of_isSimple {d : Dialect} {tokens : List Token}
    (simple : ∀ token ∈ tokens, token.isSimple = true) : Gathers d tokens (tokens.map .single) := by
  apply Gathers.tokens
  intro token member
  have parts := simple token member
  simp only [Token.isSimple, Bool.and_eq_true, bne_iff_ne] at parts
  exact parts.1

theorem plain_of_isSimple {tokens : List Token}
    (simple : ∀ token ∈ tokens, token.isSimple = true) : Plain (tokens.map .single) := by
  intro item member
  obtain ⟨token, inside, rfl⟩ := List.mem_map.mp member
  have parts := simple token inside
  simp only [Token.isSimple, Bool.and_eq_true, Bool.not_eq_true'] at parts
  exact parts.2

theorem flatMap_single (tokens : List Token) :
    (tokens.map Item.single).flatMap Item.tokens = tokens := by
  rw [List.flatMap_map]
  exact List.flatMap_singleton' tokens

theorem countP_isComparison_eq_zero {tokens : List Token}
    (operands : ∀ token ∈ tokens, token.isOperand = true) :
    (tokens.map Item.single).countP Item.isComparison = 0 := by
  rw [List.countP_eq_zero]
  intro item member
  obtain ⟨token, inside, rfl⟩ := List.mem_map.mp member
  rw [not_isComparison_of_isOperand (operands token inside)]
  decide

/-- Simple tokens with at most one comparison are an atom. -/
theorem readsOperand_simple {d : Dialect} {first : Token} {rest : List Token}
    (simple : ∀ token ∈ first :: rest, token.isSimple = true) (positive : first ≠ .keyword "not")
    (once : ((first :: rest).map Item.single).countP Item.isComparison ≤ 1) :
    ReadsOperand d (first :: rest) fun v => v.atom (first :: rest) :=
  readsOperand_atom (Gathers.of_isSimple simple) (plain_of_isSimple simple) positive once
    (flatMap_single (first :: rest))

end Sql

theorem ColumnRef.exists_tokens_eq (c : ColumnRef) :
    ∃ spelling rest, c.tokens = .name spelling :: rest := by
  unfold ColumnRef.tokens
  split
  · exact ⟨_, _, rfl⟩
  · exact ⟨_, _, rfl⟩

theorem ColumnRef.isSimple_of_mem_tokens {c : ColumnRef} {token : Token}
    (member : token ∈ c.tokens) : token.isSimple = true :=
  Token.isSimple_of_isOperand (ColumnRef.isOperand_of_mem_tokens member)

private theorem Value.isSimple_of_mem_tokens {d : Dialect} {v : Value} {token : Token}
    (member : token ∈ v.tokens d) : token.isSimple = true :=
  Token.isSimple_of_isOperand (Value.isOperand_of_mem_tokens member)

private theorem Comparison.isSimple_of_mem_tokens {d : Dialect} {op : Comparison} {token : Token}
    (member : token ∈ op.tokens d) : token.isSimple = true := by
  have all : ∀ token ∈ op.tokens d, token.isSimple = true := by
    cases d <;> cases op <;> decide
  exact all token member

private theorem Comparison.countP_isComparison_le (d : Dialect) (op : Comparison) :
    ((op.tokens d).map Item.single).countP Item.isComparison ≤ 1 := by
  cases d <;> cases op <;> decide

namespace Sql

private theorem isSimple_of_mem_listed {d : Dialect} {values : List Value} {token : Token}
    (member : token ∈ listed (values.map (Value.tokens d))) : token.isSimple = true := by
  by_contra odd
  refine absurd member (not_mem_intercalate ?_ ?_)
  · intro comma
    rw [List.mem_singleton.mp comma] at odd
    exact odd (by decide)
  · intro tokens inside within
    obtain ⟨value, _, rfl⟩ := List.mem_map.mp inside
    exact odd (Value.isSimple_of_mem_tokens within)

/-- The tokens of a column, with simple tokens behind it that compare once at most. -/
theorem readsOperand_column {d : Dialect} {c : ColumnRef} {rest : List Token}
    (simple : ∀ token ∈ rest, token.isSimple = true)
    (once : (rest.map Item.single).countP Item.isComparison ≤ 1) :
    ReadsOperand d (c.tokens ++ rest) fun v => v.atom (c.tokens ++ rest) := by
  obtain ⟨spelling, others, tokens⟩ := c.exists_tokens_eq
  have operands : ∀ token ∈ c.tokens, token.isOperand = true :=
    fun _ => ColumnRef.isOperand_of_mem_tokens
  have all : ∀ token ∈ c.tokens ++ rest, token.isSimple = true := by
    intro token member
    rcases List.mem_append.mp member with inside | inside
    · exact ColumnRef.isSimple_of_mem_tokens inside
    · exact simple token inside
  have count : ((c.tokens ++ rest).map Item.single).countP Item.isComparison ≤ 1 := by
    rw [List.map_append, List.countP_append, countP_isComparison_eq_zero operands]
    omega
  rw [tokens] at all count ⊢
  exact readsOperand_simple all (by simp) count

private theorem readsOperand_comparison {d : Dialect} {c : ColumnRef} {op : Comparison}
    {rest : List Token} (operands : ∀ token ∈ rest, token.isOperand = true) :
    ReadsOperand d (c.tokens ++ (op.tokens d ++ rest)) fun v =>
      v.atom (c.tokens ++ (op.tokens d ++ rest)) := by
  apply readsOperand_column
  · intro token member
    rcases List.mem_append.mp member with inside | inside
    · exact Comparison.isSimple_of_mem_tokens inside
    · exact Token.isSimple_of_isOperand (operands token inside)
  · have bound := op.countP_isComparison_le d
    rw [List.map_append, List.countP_append, countP_isComparison_eq_zero operands]
    omega

private theorem readsOperand_group {d : Dialect} {c : ColumnRef} {words inner : List Token}
    (wordsSimple : ∀ token ∈ words, token.isSimple = true)
    (wordsCount : (words.map Item.single).countP Item.isComparison = 0)
    (innerSimple : ∀ token ∈ inner, token.isSimple = true) :
    ReadsOperand d (c.tokens ++ words ++ parenthesized inner) fun v =>
      v.atom (c.tokens ++ words ++ parenthesized inner) := by
  obtain ⟨spelling, others, tokens⟩ := c.exists_tokens_eq
  have operands : ∀ token ∈ c.tokens, token.isOperand = true :=
    fun _ => ColumnRef.isOperand_of_mem_tokens
  have simple : ∀ token ∈ c.tokens ++ words, token.isSimple = true := by
    intro token member
    rcases List.mem_append.mp member with inside | inside
    · exact ColumnRef.isSimple_of_mem_tokens inside
    · exact wordsSimple token inside
  let group := Item.group ((inner.map Item.single).flatMap Item.tokens)
    (readDisjunction d (inner.map .single))
  have gathers := (Gathers.of_isSimple (d := d) simple).append
    (Gathers.of_isSimple innerSimple).parenthesized
  have plain : Plain ((c.tokens ++ words).map .single ++ [group]) := by
    intro item member
    rcases List.mem_append.mp member with inside | inside
    · exact plain_of_isSimple simple item inside
    · rw [List.mem_singleton.mp inside]
      rfl
  have count : ((c.tokens ++ words).map Item.single ++ [group]).countP Item.isComparison ≤ 1 := by
    have last : [group].countP Item.isComparison = 0 := rfl
    rw [List.countP_append, List.map_append, List.countP_append, wordsCount,
      countP_isComparison_eq_zero operands, last]
    decide
  have spelled : ((c.tokens ++ words).map Item.single ++ [group]).flatMap Item.tokens =
      c.tokens ++ words ++ parenthesized inner := by
    have last : [group].flatMap Item.tokens = parenthesized inner := by
      rw [List.flatMap_singleton, Item.tokens, flatMap_single]
    rw [List.flatMap_append, flatMap_single, last]
  rw [tokens] at gathers plain count spelled ⊢
  exact readsOperand_atom gathers plain (by simp) count spelled

end Sql

private theorem Expr.IsTest.readsOperand {d : Dialect} {e : Expr} (isTest : e.IsTest) :
    ReadsOperand d (e.tokens d) fun v => v.atom (e.tokens d) := by
  cases isTest with
  | compare column op value =>
      rw [Expr.tokens, Expr.tokens, Expr.tokens, List.append_assoc]
      exact readsOperand_comparison fun _ => Value.isOperand_of_mem_tokens
  | equal left right =>
      rw [Expr.eq, Expr.tokens, Expr.tokens, Expr.tokens, List.append_assoc]
      exact readsOperand_comparison fun _ => ColumnRef.isOperand_of_mem_tokens
  | is column test negated =>
      rw [Expr.tokens, Expr.tokens, List.append_assoc]
      apply readsOperand_column
      · cases negated <;> cases test <;> decide
      · cases negated <;> cases test <;> decide
  | inList column list negated =>
      rw [Expr.tokens]
      split
      · apply readsOperand_simple
        · cases negated <;> decide
        · decide
        · cases negated <;> decide
      · let words := if negated then [Token.keyword "not", .keyword "in"] else [.keyword "in"]
        let values := listed (list.map (Value.tokens d))
        have wordsSimple : ∀ token ∈ words, token.isSimple = true := by
          cases negated <;> decide
        have wordsCount : (words.map Item.single).countP Item.isComparison = 0 := by
          cases negated <;> rfl
        exact readsOperand_group wordsSimple wordsCount fun _ => isSimple_of_mem_listed

/-! ## Expressions -/

namespace Expr

def enclosedTokens (d : Dialect) (e : Expr) : List Token :=
  if e.isGrouped then e.tokens d else parenthesized (e.tokens d)

@[simp] theorem tokensEnclosed_eq_map (d : Dialect) (es : List Expr) :
    tokensEnclosed d es = es.map (enclosedTokens d) := by
  induction es with
  | nil => rfl
  | cons e es ih => rw [tokensEnclosed, ih, List.map_cons, enclosedTokens]

/-- How an expression is read where it stands. An operand is read with more parentheses as well. -/
def Reads (d : Dialect) (e : Expr) : Place → Prop
  | .operand => ReadsOperand d (e.tokens d) (e.meaning d) ∧
      ∃ inner, e.enclosedTokens d = parenthesized inner ∧ ReadsWhole d inner (e.meaning d)
  | .whole => ReadsWhole d (e.tokens d) (e.meaning d)

private theorem Reads.operands {d : Dialect} {es : List Expr}
    (each : ∀ e ∈ es, e.Reads d .operand) :
    List.Forall₂ (ReadsOperand d) (tokensAll d es) (meaningAll d es) := by
  rw [tokensAll_eq_map, meaningAll_eq_map]
  refine List.forall₂_map_left_iff.mpr (List.forall₂_map_right_iff.mpr ?_)
  exact List.forall₂_same.mpr fun e member => (each e member).1

private theorem tokensAll_ne_nil {d : Dialect} {es : List Expr} (filled : es ≠ []) :
    tokensAll d es ≠ [] := by
  rw [tokensAll_eq_map]
  exact mt List.map_eq_nil_iff.mp filled

/-- An expression is read as what it means, if its fragments of SQL are complete conditions. -/
theorem Placed.reads {d : Dialect} {place : Place} {e : Expr} (placed : Placed place e)
    (complete : ∀ sql ∈ e.fragments, (readCondition d sql).isSome) : e.Reads d place := by
  induction placed with
  | @test e isTest =>
      have reads : ReadsOperand d (e.tokens d) (e.meaning d) := by
        have atom := isTest.readsOperand (d := d)
        cases isTest <;> exact atom
      have ungrouped : e.isGrouped = false := by cases isTest <;> rfl
      exact ⟨reads, e.tokens d, by simp [enclosedTokens, ungrouped], reads.whole⟩
  | @grouped e inner ih =>
      have reads : ReadsWhole d (e.tokens d) (e.meaning d) := ih complete
      exact ⟨reads.enclosed, e.tokens d, rfl, reads⟩
  | @not e operand ih =>
      have reads : ReadsOperand d ((Expr.not e).tokens d) ((Expr.not e).meaning d) :=
        (ih complete).1.not
      exact ⟨reads, _, rfl, reads.whole⟩
  | operand operand ih => exact (ih complete).1.whole
  | raw sql =>
      obtain ⟨condition, reading⟩ :=
        Option.isSome_iff_exists.mp (complete sql (List.mem_singleton.mpr rfl))
      obtain ⟨tokens, lexed, reads⟩ := exists_readsWhole reading
      have spelled : (Expr.raw sql).tokens d = tokens := by simp [Expr.tokens, lexed]
      have means : (Expr.raw sql).meaning d = fun v => condition.truth v := by
        funext v
        simp [meaning, fragmentMeaning, reading]
      rw [Reads, spelled, means]
      exact reads
  | @and es filled operands ih =>
      have each : ∀ e ∈ es, e.Reads d .operand := fun e member =>
        ih e member fun sql inside => complete sql (mem_fragmentsAll.mpr ⟨e, member, inside⟩)
      exact ReadsOperand.conjunction (Reads.operands each) (tokensAll_ne_nil filled)
  | @or es filled operands ih =>
      have each : ∀ e ∈ es, e.Reads d .operand := fun e member =>
        ih e member fun sql inside => complete sql (mem_fragmentsAll.mpr ⟨e, member, inside⟩)
      exact ReadsOperand.disjunction (Reads.operands each) (tokensAll_ne_nil filled)
  | @xor left right first second leftIH rightIH =>
      have readsLeft := leftIH fun sql inside =>
        complete sql (by simp [fragments, fragmentsAll, inside])
      have readsRight := rightIH fun sql inside =>
        complete sql (by simp [fragments, fragmentsAll, inside])
      cases d with
      | mysql =>
          have each : ∀ e ∈ [left, right], e.Reads .mysql .operand := by
            intro e member
            simp only [List.mem_cons, List.not_mem_nil, or_false] at member
            rcases member with rfl | rfl
            · exact readsLeft
            · exact readsRight
          exact ReadsOperand.exclusive (Reads.operands each) (tokensAll_ne_nil (by simp))
      | postgresql =>
          obtain ⟨_, lefts, leftEnclosed, leftWhole⟩ := readsLeft
          obtain ⟨_, rights, rightEnclosed, rightWhole⟩ := readsRight
          have tokens : (Expr.xor [left, right]).tokens .postgresql =
              parenthesized lefts ++ .symbol "<>" :: parenthesized rights := by
            simp [Expr.tokens, leftEnclosed, rightEnclosed, List.intercalate_cons_cons]
          have means : (Expr.xor [left, right]).meaning .postgresql = fun v =>
              Combinator.xor.truth (left.meaning .postgresql v) (right.meaning .postgresql v) := by
            funext v
            have last := Combinator.xor.truth_unit (right.meaning .postgresql v)
            simp [meaning, Meaning.joined, last]
          rw [Reads, tokens, means]
          exact (leftWhole.unequal rightWhole).whole

/-- The text of an expression that stands alone is read as one condition with its meaning. -/
theorem Placed.exists_readCondition {d : Dialect} {e : Expr} (placed : Placed .whole e)
    (complete : ∀ sql ∈ e.fragments, (readCondition d sql).isSome) :
    ∃ condition, readCondition d (e.render d) = some condition ∧
      ∀ v, condition.truth v = e.meaning d v := by
  have readable : ∀ sql ∈ e.fragments, (lex d sql.toList).isSome := by
    intro sql member
    obtain ⟨condition, reading⟩ := Option.isSome_iff_exists.mp (complete sql member)
    obtain ⟨tokens, lexed, _⟩ := exists_readsWhole reading
    rw [lexed]
    rfl
  exact (placed.reads complete).exists_readCondition (e.lex_render d readable)

end Expr

end RecordMapper
