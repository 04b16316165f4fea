import RecordMapper.Connection.ScriptedBackend
import RecordMapper.Proofs.Action
import RecordMapper.Proofs.Except
import RecordMapper.Proofs.Query.Call
import RecordMapper.Query.Run

/-!
Queries that are built and asked step by step. The first error of building answers everything that is
asked later, and what cannot be compiled is never executed.
-/

set_option autoImplicit false

namespace RecordMapper

/-! ## Questions about the schema -/

private theorem Model.detectFields_declares (m : Model) (columns : OrderedMap String) :
    (m.detectFields columns).table = m.table ∧ (m.detectFields columns).relations = m.relations := by
  unfold detectFields
  refine List.foldlRecOn (motive := fun (detected : Model) =>
    detected.table = m.table ∧ detected.relations = m.relations) _ _ ⟨rfl, rfl⟩ ?_
  intro detected same entry _
  dsimp only
  split <;> exact same

/-- A model that is loaded is the one registered under its name, but for its fields. -/
theorem Registry.load_eq_ok {σ : Type} [Connection σ] {registry : Registry} {table : String}
    {m : Model} {c c' : σ} (loaded : (registry.load table).runOn c = (.ok m, c')) :
    ∃ declared, registry.resolve (Name.normalize table) = .ok declared ∧
      m.table = declared.table ∧ m.relations = declared.relations := by
  obtain ⟨declared, _, resolved, loaded⟩ := Action.runOn_bind_eq_ok.mp loaded
  refine ⟨declared, (Prod.mk.inj resolved).1, ?_⟩
  obtain ⟨present, _, _, loaded⟩ := Action.runOn_bind_eq_ok.mp loaded
  split at loaded
  · split at loaded
    · obtain ⟨columns, _, _, loaded⟩ := Action.runOn_bind_eq_ok.mp loaded
      cases loaded
      exact declared.detectFields_declares columns
    · cases loaded
      exact ⟨rfl, rfl⟩
  · cases loaded

section

variable {σ : Type} [Connection σ] {holds : ∀ {α : Type}, Action σ α → Prop}
  (closed : Action.Closed (fun _ => True) holds)
  (tables : ∀ table, holds (Connection.tableExists table : Action σ Bool))
  (columns : ∀ table, holds (Connection.columnsOfTable table : Action σ (OrderedMap String)))

include closed

include tables in
theorem Connection.closed_hasTable (table : String) :
    holds (Connection.hasTable table : Action σ Bool) := by
  unfold Connection.hasTable
  dsimp only
  split
  · exact tables _
  · exact closed.pure _

include columns in
theorem Connection.closed_columnNames (table : String) :
    holds (Connection.columnNames table : Action σ (List String)) :=
  closed.bind (columns _) fun _ => closed.pure _

include tables columns in
theorem Registry.closed_load (registry : Registry) (table : String) :
    holds (registry.load table : Action σ Model) := by
  refine closed.bind (closed.ofExcept fun _ _ => trivial) fun model =>
    closed.bind (Connection.closed_hasTable closed tables _) fun present => ?_
  split
  · split
    · exact closed.bind (columns _) fun _ => closed.pure _
    · exact closed.pure _
  · exact closed.ofExcept fun _ _ => trivial

include tables columns in
theorem Registry.closed_load? (registry : Registry) (table : String) :
    holds (registry.load? table : Action σ (Option Model)) := by
  unfold Registry.load?
  split
  · exact closed.bind (Registry.closed_load closed tables columns registry table) fun _ =>
      closed.pure _
  · exact closed.pure _

include tables columns in
theorem Scope.closed_add (registry : Registry) (s : Scope) (table : String) :
    holds (s.add registry table : Action σ Scope) := by
  unfold Scope.add
  split
  · exact closed.pure _
  · refine closed.bind (Registry.closed_load? closed tables columns registry table) fun model => ?_
    cases model with
    | some model => exact closed.pure _
    | none =>
        exact closed.bind (Connection.closed_columnNames closed columns table) fun _ =>
          closed.pure _

include tables columns in
private theorem Scope.closed_follow (registry : Registry) (s : Scope) (source : String)
    (joins : List String) : holds (s.follow registry source joins : Action σ Scope) := by
  induction joins generalizing s source with
  | nil => exact closed.pure _
  | cons target rest ih =>
      unfold Scope.follow
      cases s.model? source with
      | none => exact closed.ofExcept fun _ _ => trivial
      | some model =>
          refine closed.bind (closed.ofExcept fun _ _ => trivial) fun hop =>
            closed.bind (closed.foldlM ?_ _ _) fun s => ih _ _
          exact Scope.closed_add closed tables columns registry

include tables columns in
/-- What holds of asking about tables holds of finding out the scope of a path. -/
theorem Scope.closed_build (registry : Registry) (primary : String) (joins : List String) :
    holds (build registry primary joins : Action σ Scope) :=
  closed.bind (Scope.closed_add closed tables columns registry _ _) fun s =>
    Scope.closed_follow closed tables columns registry s _ _

end

section

variable {σ τ : Type} [Connection σ] {view : σ → τ}
  (tables : ∀ table, (Connection.tableExists table : Action σ Bool).Keeps view)
  (columns : ∀ table, (Connection.columnsOfTable table : Action σ (OrderedMap String)).Keeps view)

include tables in
theorem Connection.keeps_hasTable (table : String) :
    (Connection.hasTable table : Action σ Bool).Keeps view :=
  Connection.closed_hasTable (Action.Keeps.closed view) tables table

include columns in
theorem Connection.keeps_columnNames (table : String) :
    (Connection.columnNames table : Action σ (List String)).Keeps view :=
  Connection.closed_columnNames (Action.Keeps.closed view) columns table

include tables columns in
theorem Registry.keeps_load (registry : Registry) (table : String) :
    (registry.load table : Action σ Model).Keeps view :=
  Registry.closed_load (Action.Keeps.closed view) tables columns registry table

include tables columns in
theorem Registry.keeps_load? (registry : Registry) (table : String) :
    (registry.load? table : Action σ (Option Model)).Keeps view :=
  Registry.closed_load? (Action.Keeps.closed view) tables columns registry table

include tables columns in
theorem Scope.keeps_add (registry : Registry) (s : Scope) (table : String) :
    (s.add registry table : Action σ Scope).Keeps view :=
  Scope.closed_add (Action.Keeps.closed view) tables columns registry s table

include tables columns in
theorem Query.keeps_scope (registry : Registry) (q : Query) :
    (q.scope registry : Action σ Scope).Keeps view := by
  unfold Query.scope
  split
  · exact .throw _
  · exact Scope.closed_build (Action.Keeps.closed view) tables columns registry _ _

end

/-- A connection with the texts of the statements that were executed on it, the latest first. -/
structure Logged (σ : Type) where
  connection : σ
  executed : List String := []

namespace Logged

variable {σ α : Type} [Connection σ]

def ask (action : Action σ α) : Action (Logged σ) α :=
  action.zoom connection fun connection c => { c with connection }

def execute (sql : String) (action : Action σ α) : Action (Logged σ) α := do
  modify fun c => { c with executed := sql :: c.executed }
  ask action

instance : Connection (Logged σ) where
  dialect c := Connection.dialect c.connection
  exec sql := execute sql (Connection.exec sql)
  run statement := do
    execute (statement.render (Connection.dialect (← get).connection)) (Connection.run statement)
  lastInsertId := ask Connection.lastInsertId
  affectedRows c := Connection.affectedRows c.connection
  tableExists table := ask (Connection.tableExists table)
  columnsOfTable table := ask (Connection.columnsOfTable table)
  currentDatabase := ask Connection.currentDatabase

omit [Connection σ] in
theorem keeps_ask (action : Action σ α) : (ask action).Keeps executed := fun _ => rfl

/-- The scope of a query is found out without executing a statement. -/
theorem keeps_scope (registry : Registry) (q : Query) :
    (q.scope registry : Action (Logged σ) Scope).Keeps executed :=
  Query.keeps_scope (fun _ => keeps_ask _) (fun _ => keeps_ask _) registry q

end Logged

/-! ## Terminal operations -/

namespace Query

inductive Answer where
  | result (result : QueryResult)
  | count (rows : UInt64)
  | text (sql : String)

inductive Terminal where
  | find
  | findPage (start size : UInt64)
  | update (fields : List (String × Value))
  | delete
  | selectText
  | countText
  | updateText (fields : List (String × Value))
  | deleteText

namespace Terminal

variable {σ : Type} [Connection σ]

def run (registry : Registry) : Terminal → Action (Query × σ) Answer
  | .find => do return .result (← Query.find registry)
  | .findPage start size => do return .result (← Query.findPage registry start size)
  | .update fields => do return .count (← Query.update registry fields)
  | .delete => do return .count (← Query.delete registry)
  | .selectText => do return .text (← Query.selectText registry)
  | .countText => do return .text (← Query.countText registry)
  | .updateText fields => do return .text (← Query.updateText registry fields)
  | .deleteText => do return .text (← Query.deleteText registry)

def asked (q : Query) : Terminal → Query
  | .findPage start size => (q.startingAt start).limitedTo size
  | _ => q

def statements (q : Query) (d : Dialect) (scope : Scope) : Terminal → Except Error (List Statement)
  | .find | .findPage _ _ => do
    let select ← q.compileSelect d scope
    if q.isPaged then do
      let count ← q.compileCount d scope
      return [.select select, .select count]
    else return [.select select]
  | .update fields | .updateText fields => do
    return [.update (← q.compileUpdate d scope (trimmed fields))]
  | .delete | .deleteText => do return [.delete (← q.compileDelete d scope)]
  | .selectText => do return [.select (← q.compileSelect d scope)]
  | .countText => do return [.select (← q.compileCount d scope)]

/-- All that an operation does before it executes anything: it builds the scope of the query and
compiles every statement. -/
def prepared (registry : Registry) (q : Query) (t : Terminal) : Action σ (List Statement) := do
  let scope ← (t.asked q).scope registry
  Action.ofExcept (t.statements (t.asked q) (← Connection.currentDialect) scope)

private theorem prepared_eq_error {registry : Registry} {q : Query} {t : Terminal} {c c' : σ}
    {e : Error}
    (failed : (t.prepared registry q).runOn c = (.error e, c')) :
    ((t.asked q).scope registry).runOn c = (.error e, c') ∨
      ∃ scope, ((t.asked q).scope registry).runOn c = (.ok scope, c') ∧
        t.statements (t.asked q) (Connection.dialect c') scope = .error e := by
  unfold prepared at failed
  rw [Action.runOn_bind] at failed
  cases ran : ((t.asked q).scope registry).runOn c with
  | mk outcome c'' =>
      rw [ran] at failed
      cases outcome with
      | error e' =>
          cases failed
          exact .inl rfl
      | ok scope =>
          obtain ⟨outcome, rfl⟩ := Prod.mk.inj failed
          exact .inr ⟨scope, rfl, outcome⟩

end Terminal

section

variable {σ α : Type} [Connection σ] {registry : Registry} {q : Query} {c c' : σ} {e : Error}
  {compile : Dialect → Scope → Except Error α}

theorem runOn_currentDialect (c : σ) :
    (Connection.currentDialect : Action σ Dialect).runOn c = (.ok (Connection.dialect c), c) := rfl

theorem runOn_compiled {scope : Scope} (ran : (q.scope registry).runOn c = (.ok scope, c')) :
    (q.compiled registry compile).runOn c =
      ((compile (Connection.dialect c') scope).map fun s => (scope, s), c') := by
  unfold compiled
  rw [Action.runOn_bind_ok ran, Action.runOn_bind_ok (runOn_currentDialect c'), Action.runOn_bind,
    Action.runOn_ofExcept]
  cases compile (Connection.dialect c') scope <;> rfl

theorem compiled_scope_error (failed : (q.scope registry).runOn c = (.error e, c')) :
    (q.compiled registry compile).runOn c = (.error e, c') :=
  Action.runOn_bind_error failed

theorem compiled_error {scope : Scope} (ran : (q.scope registry).runOn c = (.ok scope, c'))
    (failed : compile (Connection.dialect c') scope = .error e) :
    (q.compiled registry compile).runOn c = (.error e, c') := by
  rw [runOn_compiled ran, failed]
  rfl

theorem compiled_ok {scope : Scope} {s : α} (ran : (q.scope registry).runOn c = (.ok scope, c'))
    (compiled : compile (Connection.dialect c') scope = .ok s) :
    (q.compiled registry compile).runOn c = (.ok (scope, s), c') := by
  rw [runOn_compiled ran, compiled]
  rfl

private theorem found_error (failed : (q.scope registry).runOn c = (.error e, c') ∨
      ∃ scope, (q.scope registry).runOn c = (.ok scope, c') ∧
        Terminal.find.statements q (Connection.dialect c') scope = .error e) :
    (q.found registry).runOn c = (.error e, c') := by
  unfold found
  rcases failed with failed | ⟨scope, ran, failed⟩
  · exact Action.runOn_bind_error (compiled_scope_error failed)
  rcases bind_eq_error.mp failed with failed | ⟨select, compiled, failed⟩
  · exact Action.runOn_bind_error (compiled_error ran failed)
  rw [Action.runOn_bind_ok (compiled_ok ran compiled)]
  cases paged : q.isPaged with
  | false =>
      rw [paged] at failed
      cases failed
  | true =>
      simp only [paged, if_true] at failed ⊢
      rcases bind_eq_error.mp failed with failed | ⟨count, counted, failed⟩
      · rw [Action.runOn_bind_ok (runOn_currentDialect c'), failed]
        rfl
      · cases failed

/-- A statement that does not compile stops its operation. -/
theorem compiled_stops {wrap : α → Statement}
    (failed : (q.scope registry).runOn c = (.error e, c') ∨
      ∃ scope, (q.scope registry).runOn c = (.ok scope, c') ∧
        (do return [wrap (← compile (Connection.dialect c') scope)]) = Except.error e) :
    (q.compiled registry compile).runOn c = (.error e, c') := by
  rcases failed with failed | ⟨scope, ran, failed⟩
  · exact compiled_scope_error failed
  rcases bind_eq_error.mp failed with failed | ⟨s, _, returned⟩
  · exact compiled_error ran failed
  · cases returned

omit [Connection σ] in
private theorem observed_error {operation : Query → Action σ α} {make : α → Answer}
    (failed : (operation q).runOn c = (.error e, c')) :
    (do return make (← Action.observed operation) : Action (Query × σ) Answer).runOn (q, c) =
      (.error e, ({ q with lastError := some e }, c')) := by
  apply Action.runOn_bind_error
  rw [Action.runOn_observed, failed]
  rfl

omit [Connection σ] in
private theorem query_observed (operation : Query → Action σ α) (make : α → Answer) (q : Query)
    (c : σ) :
    ∃ lastError, ((do return make (← Action.observed operation) : Action (Query × σ) Answer).runOn
      (q, c)).2.1 = { q with lastError } := by
  rw [Action.runOn_bind, Action.runOn_observed]
  cases (operation q).runOn c with
  | mk outcome c' =>
      cases outcome with
      | error e => exact ⟨some e, rfl⟩
      | ok answer => exact ⟨q.lastError, rfl⟩

theorem Terminal.run_findPage (start size : UInt64) :
    ((Terminal.findPage start size).run registry).runOn (q, c) =
      (Terminal.find.run registry).runOn ((q.startingAt start).limitedTo size, c) := by
  have paged : (Query.findPage registry start size).runOn (q, c) =
      (Query.find registry).runOn ((q.startingAt start).limitedTo size, c) :=
    Action.runOn_bind_ok rfl
  unfold Terminal.run
  rw [Action.runOn_bind, Action.runOn_bind, paged]

/-- An operation that cannot be prepared answers with what is wrong, and leaves its connection as
the preparation left it. -/
theorem Terminal.run_error {t : Terminal}
    (failed : (t.prepared registry q).runOn c = (.error e, c')) :
    (t.run registry).runOn (q, c) = (.error e, ({ t.asked q with lastError := some e }, c')) := by
  have stopped := prepared_eq_error failed
  cases t with
  | find => exact observed_error (found_error stopped)
  | findPage start size =>
      rw [run_findPage]
      exact observed_error (found_error stopped)
  | update fields => exact observed_error (Action.runOn_bind_error (compiled_stops stopped))
  | delete => exact observed_error (Action.runOn_bind_error (compiled_stops stopped))
  | selectText => exact observed_error (Action.runOn_bind_error (compiled_stops stopped))
  | countText => exact observed_error (Action.runOn_bind_error (compiled_stops stopped))
  | updateText fields => exact observed_error (Action.runOn_bind_error (compiled_stops stopped))
  | deleteText => exact observed_error (Action.runOn_bind_error (compiled_stops stopped))

private theorem Terminal.exists_observed (t : Terminal) (registry : Registry) (q : Query) (c : σ) :
    ∃ (α : Type) (operation : Query → Action σ α) (make : α → Answer),
      (t.run registry).runOn (q, c) =
        (do return make (← Action.observed operation) : Action (Query × σ) Answer).runOn
          (t.asked q, c) := by
  cases t with
  | findPage start size => exact ⟨_, _, _, run_findPage start size⟩
  | _ => exact ⟨_, _, _, rfl⟩

theorem Terminal.error_asked (t : Terminal) (q : Query) : (t.asked q).error = q.error := by
  cases t <;> rfl

/-- Asking a query changes nothing of it but its window and its last error. -/
theorem Terminal.query_run (t : Terminal) (registry : Registry) (q : Query) (c : σ) :
    ∃ lastError, ((t.run registry).runOn (q, c)).2.1 = { t.asked q with lastError } := by
  obtain ⟨_, operation, make, observed⟩ := t.exists_observed registry q c
  rw [observed]
  exact query_observed operation make (t.asked q) c

private theorem Terminal.error_run (t : Terminal) (registry : Registry) (q : Query) (c : σ) :
    ((t.run registry).runOn (q, c)).2.1.error = q.error := by
  obtain ⟨lastError, same⟩ := t.query_run registry q c
  rw [same]
  exact t.error_asked q

/-- Nothing is executed while an operation is prepared. -/
theorem Terminal.keeps_prepared (t : Terminal) (registry : Registry) (q : Query) :
    (t.prepared registry q : Action (Logged σ) (List Statement)).Keeps Logged.executed :=
  .bind (Logged.keeps_scope registry _) fun _ =>
    .bind (fun _ => rfl) fun _ => .ofExcept _

private theorem Terminal.prepared_of_error {t : Terminal} (failed : q.error = some e) :
    (t.prepared registry q).runOn c = (.error e, c) := by
  apply Action.runOn_bind_error
  unfold Query.scope
  rw [t.error_asked, failed]
  rfl

end

/-! ## Sequences of steps -/

inductive Step where
  | call (c : Call)
  | run (t : Terminal)

section

variable {σ : Type} [Connection σ]

def Step.perform (registry : Registry) (state : Query × σ) : Step → Query × σ
  | .call c => (c.apply state.1, state.2)
  | .run t => ((t.run registry).runOn state).2

def performed (registry : Registry) (state : Query × σ) (steps : List Step) : Query × σ :=
  steps.foldl (Step.perform registry) state

def Step.failure? (q : Query) : Step → Option Error
  | .call c => c.failure? q.filter
  | .run _ => none

def failures (registry : Registry) (state : Query × σ) : List Step → List Error
  | [] => []
  | step :: rest =>
    (step.failure? state.1).toList ++ failures registry (step.perform registry state) rest

private theorem Step.error_perform (registry : Registry) (state : Query × σ) (step : Step) :
    (step.perform registry state).1.error = (state.1.error <|> step.failure? state.1) := by
  cases step with
  | call c => exact c.error_apply state.1
  | run t => exact (t.error_run registry state.1 state.2).trans (error_kept _)

/-- The error that a query keeps is the first one of its building. -/
theorem error_performed (registry : Registry) (state : Query × σ) (steps : List Step) :
    (performed registry state steps).1.error =
      (state.1.error.toList ++ failures registry state steps).head? := by
  induction steps generalizing state with
  | nil => cases kept : state.1.error <;> simp [performed, failures, kept]
  | cons step rest ih =>
      have stepped := step.error_perform registry state
      rw [performed, List.foldl_cons, ← performed, ih, stepped, failures]
      cases state.1.error with
      | some e => rfl
      | none => cases step.failure? state.1 <;> rfl

def openFailure? (table : String) (initial : σ) : Option Error :=
  match ((Connection.hasTable (Name.normalize table)).runOn initial).1 with
  | .ok true => none
  | .ok false => some (Registry.missingTable (Name.normalize table))
  | .error e => some e

private theorem error_of_query {table : String} {initial connected : σ} {start : Query}
    (opened : (Registry.query table).run initial = (start, connected)) :
    start.error = openFailure? table initial := by
  unfold Registry.query at opened
  unfold openFailure?
  generalize Name.normalize table = name at opened ⊢
  dsimp only [StateT.run] at opened
  generalize (Connection.hasTable name).runOn initial = asked at opened ⊢
  cases opened
  cases asked.1 with
  | error e => rfl
  | ok present => cases present <;> rfl

/-- The first error of building answers every operation from then on, and nothing is sent; and an
operation whose scope or statements fail has executed no statement. -/
theorem failure_never_sent {registry : Registry} {table : String} {steps : List Step}
    {initial connected connection : Logged σ} {start q : Query}
    (opened : (Registry.query table).run initial = (start, connected))
    (reached : performed registry (start, connected) steps = (q, connection)) (t : Terminal) :
    (∀ e, ((openFailure? table initial).toList ++
          failures registry (start, connected) steps).head? = some e →
      (t.run registry).runOn (q, connection) =
        (.error e, ({ t.asked q with lastError := some e }, connection))) ∧
      ∀ e, ((t.prepared registry q).runOn connection).1 = .error e →
        ((t.run registry).runOn (q, connection)).1 = .error e ∧
          ((t.run registry).runOn (q, connection)).2.2.executed = connection.executed := by
  constructor
  · intro e first
    have kept := error_performed registry (start, connected) steps
    rw [reached, error_of_query opened, first] at kept
    exact Terminal.run_error (Terminal.prepared_of_error kept)
  · intro e failed
    have silent := t.keeps_prepared registry q connection
    cases ran : (t.prepared registry q).runOn connection with
    | mk outcome c' =>
        rw [ran] at failed silent
        obtain rfl : outcome = .error e := failed
        rw [Terminal.run_error ran]
        exact ⟨rfl, silent⟩

theorem failure_never_sent_unbalanced :
    let initial : Logged Scripted := { connection :=
      { dialect := .mysql, database := "d", tables := OrderedMap.insert ∅ "t" ∅ } }
    let opened := (Registry.query "t").run initial
    let steps : List Step := [.call (.whereRaw "a" []), .call .closeGroup, .run .delete,
      .call (.whereRaw "b" [])]
    let state := performed {} opened steps
    let e : Error := .of (.invalidStatement "end_group() without start_group()")
    ((openFailure? "t" initial).toList ++ failures {} opened steps).head? = some e ∧
      (Terminal.delete.run {}).runOn state =
        (.error e, ({ state.1 with lastError := some e }, state.2)) ∧
      ((Terminal.delete.run {}).runOn state).2.2.executed = [] := by
  intro initial opened steps state e
  have first : ((openFailure? "t" initial).toList ++ failures {} opened steps).head? = some e := by
    rfl
  have never := @failure_never_sent Scripted _ {} "t" steps initial opened.2 state.2 opened.1
    state.1 rfl rfl .delete
  have answered := never.1 e first
  refine ⟨first, answered, ?_⟩
  have prepared : ((Terminal.delete.prepared {} state.1).runOn state.2).1 = .error e := by
    rfl
  exact (never.2 e prepared).2

end

end Query

end RecordMapper
