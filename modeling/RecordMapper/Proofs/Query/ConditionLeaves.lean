import RecordMapper.Example.Shop
import RecordMapper.Proofs.Query.Building
import RecordMapper.Proofs.Query.Executed
import RecordMapper.Proofs.Query.ScopePath

/-!
The leaves of the condition of a query: its joins, in the order in which its path was followed, and
then the leaves of its filter.
-/

set_option autoImplicit false

namespace RecordMapper

/-! ## Leaves of expressions -/

namespace Expr

mutual

/-- The tests, columns, values and fragments of SQL that an expression joins, from left to right. -/
def leaves : Expr → List Expr
  | .and operands | .or operands | .xor operands => leavesAll operands
  | .not operand | .grouped operand => leaves operand
  | .compare left op right => [.compare left op right]
  | .inList operand list negated => [.inList operand list negated]
  | .is operand test negated => [.is operand test negated]
  | .column c => [.column c]
  | .value v => [.value v]
  | .raw sql => [.raw sql]

def leavesAll : List Expr → List Expr
  | [] => []
  | e :: rest => leaves e ++ leavesAll rest

end

theorem leavesAll_append (first second : List Expr) :
    leavesAll (first ++ second) = leavesAll first ++ leavesAll second := by
  induction first with
  | nil => rfl
  | cons e first ih => simp [leavesAll, ih]

theorem leavesAll_singleton (e : Expr) : leavesAll [e] = e.leaves := List.append_nil _

theorem leaves_joined (how : Combinator) (operands : List Expr) :
    (how.joined operands).leaves = leavesAll operands := by
  cases how <;> rfl

private theorem leavesAll_parts (how : Combinator) (e : Expr) :
    leavesAll (how.parts e) = e.leaves := by
  rcases how.parts_cases e with single | same
  · rw [single, leavesAll_singleton]
  · rw [← leaves_joined how, ← same]

theorem leaves_joined_parts (how : Combinator) (left right : Expr) :
    (how.joined (how.parts left ++ how.parts right)).leaves = left.leaves ++ right.leaves := by
  rw [leaves_joined, leavesAll_append, leavesAll_parts, leavesAll_parts]

private theorem leaves_conj (left right : Expr) :
    (left.conj right).leaves = left.leaves ++ right.leaves :=
  leaves_joined_parts .and left right

@[simp] theorem leaves_group (e : Expr) : e.group.leaves = e.leaves := by
  cases e <;> rfl

@[simp] theorem leaves_nest (flattens : Expr → Bool) (e : Expr) :
    (e.nest flattens).leaves = e.leaves := by
  rcases nest_eq_or flattens e with same | grouped
  · rw [same]
  · rw [grouped, leaves_group]

theorem leaves_join (how : Combinator) (left right : Expr) :
    (how.join left right).leaves = left.leaves ++ right.leaves := by
  rw [how.join_eq, leaves_joined_parts, leaves_nest, leaves_nest]

private theorem leaves_foldl_conj (first : Expr) (rest : List Expr) :
    (rest.foldl conj first).leaves = first.leaves ++ leavesAll rest := by
  induction rest generalizing first with
  | nil => exact (List.append_nil _).symm
  | cons next rest ih => rw [List.foldl_cons, ih, leaves_conj, List.append_assoc, leavesAll]

private theorem leaves_conjAll? (es : List Expr) :
    ((conjAll? es).map leaves).getD [] = leavesAll es := by
  cases es with
  | nil => rfl
  | cons first rest => exact leaves_foldl_conj first rest

end Expr

private theorem KeyEquality.leavesAll_conditions (equalities : List KeyEquality) :
    Expr.leavesAll (equalities.map KeyEquality.condition) =
      equalities.map KeyEquality.condition := by
  induction equalities with
  | nil => rfl
  | cons e equalities ih =>
      rw [List.map_cons, Expr.leavesAll, ih]
      rfl

/-! ## Filters -/

/-- An expression has the leaves of its filter, each as it is lowered on its own. -/
theorem Filter.Lowers.leaves {d : Dialect} {scope : Scope} {filter : Filter} {e : Expr}
    (lowers : filter.Lowers d scope e) : filter.leaves.mapM (Filter.lower d scope) = .ok e.leaves := by
  induction lowers with
  | @leaf column test target resolved =>
      have leaf : (test.condition target).leaves = [test.condition target] := by cases test <;> rfl
      have lowered : Filter.lower d scope (.leaf column test) = .ok (test.condition target) :=
        bind_eq_ok.mpr ⟨target, resolved, rfl⟩
      rw [leaf]
      simp [Filter.leaves, lowered]
  | @raw sql values text filled =>
      have lowered : Filter.lower d scope (.raw sql values) = .ok (.raw (.ofList text)) :=
        bind_eq_ok.mpr ⟨text, filled, rfl⟩
      simp [Filter.leaves, Expr.leaves, lowered]
  | @combine how left right first second lowersLeft lowersRight leftIH rightIH =>
      rw [Expr.leaves_join, Filter.leaves, List.mapM_append, leftIH, rightIH]
      rfl
  | @not operand inner lowers ih =>
      rw [Expr.leaves, Expr.leaves_nest]
      exact ih
  | @grouped operand inner lowers ih =>
      rw [Expr.leaves_group]
      exact ih

/-- The condition of a query has the leaves of its joins and of its filter. -/
theorem Query.leaves_of_condition {q : Query} {d : Dialect} {scope : Scope}
    {filter : Option Filter} {whole : Option Expr} (finished : q.filter.finish = .ok filter)
    (compiled : q.condition d scope = .ok whole) :
    ∃ lowered, ((filter.map Filter.leaves).getD []).mapM (Filter.lower d scope) = .ok lowered ∧
      (whole.map Expr.leaves).getD [] =
        scope.equalities.map KeyEquality.condition ++ lowered := by
  rcases Query.exists_of_condition finished compiled with ⟨rfl, rfl⟩ | ⟨f, e, rfl, lowers, rfl⟩
  · refine ⟨[], rfl, ?_⟩
    rw [Expr.leaves_conjAll?, KeyEquality.leavesAll_conditions, List.append_nil]
  · refine ⟨e.leaves, lowers.leaves, ?_⟩
    have last : (if scope.equalities.isEmpty then e else e.nest Expr.isConjunction).leaves =
        e.leaves := by
      split
      · rfl
      · exact Expr.leaves_nest _ e
    rw [Expr.leaves_conjAll?, Expr.leavesAll_append, KeyEquality.leavesAll_conditions,
      Expr.leavesAll_singleton, last]

namespace Query

inductive Compiles (q : Query) (d : Dialect) (scope : Scope) : Option Expr → Prop where
  | select {s : Select} (compiled : q.compileSelect d scope = .ok s) : Compiles q d scope s.filter
  | count {s : Select} (compiled : q.compileCount d scope = .ok s) : Compiles q d scope s.filter
  | update {fields : List (String × Value)} {s : Update}
      (compiled : q.compileUpdate d scope fields = .ok s) : Compiles q d scope s.filter
  | delete {s : Delete} (compiled : q.compileDelete d scope = .ok s) : Compiles q d scope s.filter

theorem Compiles.condition {q : Query} {d : Dialect} {scope : Scope} {whole : Option Expr}
    (compiles : q.Compiles d scope whole) : q.condition d scope = .ok whole := by
  cases compiles with
  | select compiled => exact (compileSelect_eq_ok compiled).2.1
  | count compiled =>
      obtain ⟨filter, condition, rfl⟩ := compileCount_eq_ok_iff.mp compiled
      exact condition
  | update compiled => exact (compileUpdate_eq_ok compiled).2.2.1
  | delete compiled =>
      obtain ⟨filter, condition, rfl⟩ := compileDelete_eq_ok_iff.mp compiled
      exact condition

private theorem exists_path_of_scope {σ : Type} [Connection σ] {q : Query} {registry : Registry}
    {connection connection' : σ} {scope : Scope}
    (ran : (q.scope registry).runOn connection = (.ok scope, connection')) :
    ∃ hops, scope.Path q.table q.joins hops ∧
      scope.equalities = hops.flatMap JoinHop.equalities := by
  unfold Query.scope at ran
  cases failed : q.error with
  | none =>
      rw [failed] at ran
      exact Scope.exists_path_of_build ran
  | some e =>
      rw [failed] at ran
      cases ran

/-- Whatever calls are made on a new query, its filter holds exactly what they pushed, and every
statement asks for exactly its joins, hop by hop, and for that. -/
theorem leaves_preserved {σ : Type} [Connection σ] {start q : Query} (fresh : start.filter = {})
    {calls : List Call} (built : q = start.built calls) {filter : Option Filter}
    (finished : q.filter.finish = .ok filter) :
    (filter.map Filter.leaves).getD [] = calls.flatMap Call.pushed ∧
      (filter.map Filter.negations).getD 0 = calls.countP Call.isNegation ∧
      (∀ d scope whole, q.Compiles d scope whole →
        ∃ lowered, (calls.flatMap Call.pushed).mapM (Filter.lower d scope) = .ok lowered ∧
          (whole.map Expr.leaves).getD [] =
            scope.equalities.map KeyEquality.condition ++ lowered) ∧
      ∀ registry (connection connection' : σ) scope,
        (q.scope registry).runOn connection = (.ok scope, connection') →
        ∃ hops, scope.Path q.table q.joins hops ∧
          scope.equalities = hops.flatMap JoinHop.equalities := by
  subst built
  obtain ⟨leaves, negations⟩ := leaves_of_finish fresh finished
  refine ⟨leaves, negations, ?_, ?_⟩
  · intro d scope whole compiles
    rw [← leaves]
    exact leaves_of_condition finished compiles.condition
  · intro registry connection connection' scope ran
    exact exists_path_of_scope ran

/-- A negated group, a test and fragments, asked of the purchases and their customers. -/
theorem leaves_preserved_nested :
    let calls : List Call := [.negateNext, .openGroup, .whereRaw "a" [], .combine .or,
      .combine .and, .whereOperator "vip" (.compare .eq) (.value (.int 1)), .closeGroup,
      .whereRaw "c" []]
    let start : Query := { table := "purchase", joins := ["customer"] }
    let q := start.built calls
    let filter := Filter.combine .and (.not (.grouped (.combine .or (.raw "a" [])
      (.leaf "vip" (.compare .eq (.int 1)))))) (.raw "c" [])
    let c := Example.Shop.describe { dialect := .mysql, database := "shop" }
    start.filter = {} ∧ q.filter.finish = .ok (some filter) ∧
      filter.leaves = calls.flatMap Call.pushed ∧ filter.negations = 1 ∧
      ∃ scope c' s lowered hops, (q.scope Example.Shop.registry).runOn c = (.ok scope, c') ∧
        q.compileSelect (Connection.dialect c') scope = .ok s ∧
        (calls.flatMap Call.pushed).mapM (Filter.lower (Connection.dialect c') scope) =
          .ok lowered ∧
        (s.filter.map Expr.leaves).getD [] =
          scope.equalities.map KeyEquality.condition ++ lowered ∧
        s.filter.map (fun e => e.leaves.length) = some 4 ∧
        scope.Path "purchase" ["customer"] hops ∧
        scope.equalities = hops.flatMap JoinHop.equalities ∧ scope.equalities.length = 1 := by
  intro calls start q filter c
  have run : ((q.compiled Example.Shop.registry q.compileSelect).runOn c).1.toOption.map
      (fun made => (made.1.equalities.length, made.2.filter.map fun e => e.leaves.length)) =
        some (1, some 4) := by
    decide +kernel
  obtain ⟨⟨scope, s⟩, c', ran, read⟩ := Action.exists_of_map_toOption run
  obtain ⟨one, four⟩ := Prod.mk.inj read
  obtain ⟨inScope, compiled⟩ := compiled_eq_ok_iff.mp ran
  obtain ⟨leaves, negations, statements, scopes⟩ :=
    @leaves_preserved Scripted _ start q rfl calls rfl filter rfl
  obtain ⟨lowered, lowers, asks⟩ := statements _ scope _ (.select compiled)
  obtain ⟨hops, path, equalities⟩ := scopes Example.Shop.registry c c' scope inScope
  exact ⟨rfl, rfl, leaves, negations, scope, c', s, lowered, hops, inScope, compiled, lowers, asks,
    four, path, equalities, one⟩

end Query

end RecordMapper
