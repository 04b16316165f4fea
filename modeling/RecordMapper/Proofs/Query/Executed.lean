import RecordMapper.Proofs.Query.Compiled
import RecordMapper.Proofs.Query.Session

/-!
The statements that a query executes, against the texts that are given out for it. Both come from the
same scope and from the same compilation; a connection that fails can cut a query short, and nothing
else can.
-/

set_option autoImplicit false

namespace RecordMapper

/-- A connection with all texts that were executed on it and the answers to them, the latest
first. -/
structure Journal (σ : Type) where
  connection : σ
  entries : List (String × Except Error Response) := []

namespace Journal

variable {σ : Type} [Connection σ]

def ask {α : Type} (action : Action σ α) : Action (Journal σ) α :=
  action.zoom connection fun connection j => { j with connection }

def execute (sql : String) : Action (Journal σ) Response :=
  ExceptT.mk fun j =>
    let (answer, connection) := (Connection.exec sql).runOn j.connection
    (answer, { connection, entries := (sql, answer) :: j.entries })

instance : Connection (Journal σ) where
  dialect j := Connection.dialect j.connection
  exec := execute
  lastInsertId := ask Connection.lastInsertId
  affectedRows j := Connection.affectedRows j.connection
  tableExists table := ask (Connection.tableExists table)
  columnsOfTable table := ask (Connection.columnsOfTable table)
  currentDatabase := ask Connection.currentDatabase

theorem runOn_run (statement : Statement) (j : Journal σ) :
    ∃ answer connection,
      (Connection.exec (statement.render (Connection.dialect j))).runOn j.connection =
          (answer, connection) ∧
        (Connection.run statement).runOn j =
          (answer, ⟨connection, (statement.render (Connection.dialect j), answer) :: j.entries⟩) :=
  ⟨_, _, rfl, rfl⟩

theorem keeps_compiled {α : Type} (registry : Registry) (q : Query)
    (compile : Dialect → Scope → Except Error α) :
    (q.compiled registry compile : Action (Journal σ) (Scope × α)).Keeps entries :=
  .bind (Query.keeps_scope (fun _ _ => rfl) (fun _ _ => rfl) registry q) fun _ =>
    .bind (fun _ => rfl) fun _ => .bind (.ofExcept _) fun _ => .pure _

end Journal

/-! ## The dialect of a scripted connection -/

namespace Scripted

private theorem dialect_settle (s : Scripted) (sql : String) (response : Response) :
    (s.settle sql response).dialect = s.dialect := by
  unfold settle
  dsimp only
  split
  · rfl
  · split <;> rfl

theorem keeps_dialect_exec (sql : String) :
    (Connection.exec sql : Action Scripted Response).Keeps Connection.dialect := by
  intro s
  change ((Scripted.exec sql).runOn s).2.dialect = s.dialect
  unfold Scripted.exec Action.runOn
  dsimp only [ExceptT.run_mk, StateT.run]
  generalize Script.take sql s.script = taken
  generalize taken.1.getD (.ok (defaultAnswer sql)) = answer
  cases answer with
  | ok response =>
      dsimp only
      rw [dialect_settle]
  | error e => dsimp only

end Scripted

/-! ## Texts and what is executed -/

namespace Query

variable {σ α : Type} [Connection σ] {registry : Registry} {q : Query}

theorem compiled_eq_ok_iff {c c' : σ} {compile : Dialect → Scope → Except Error α} {scope : Scope}
    {s : α} :
    (q.compiled registry compile).runOn c = (.ok (scope, s), c') ↔
      (q.scope registry).runOn c = (.ok scope, c') ∧
        compile (Connection.dialect c') scope = .ok s := by
  constructor
  · intro ran
    obtain ⟨found, between, inScope, rest⟩ := Action.runOn_bind_eq_ok.mp ran
    obtain ⟨d, _, asked, rest⟩ := Action.runOn_bind_eq_ok.mp rest
    cases asked
    obtain ⟨statement, _, compiled, returned⟩ := Action.runOn_bind_eq_ok.mp rest
    cases returned
    obtain ⟨compiled, same⟩ := Prod.mk.inj compiled
    cases same
    exact ⟨inScope, compiled⟩
  · rintro ⟨inScope, compiled⟩
    exact compiled_ok inScope compiled

theorem exists_of_text {c : σ} {compile : Dialect → Scope → Except Error α} (wrap : α → Statement)
    {text : String}
    (asked : ((q.compiled registry compile >>= fun found => textOf (wrap found.2)).runOn c).1 =
      .ok text) :
    ∃ scope s c', (q.compiled registry compile).runOn c = (.ok (scope, s), c') ∧
      text = (wrap s).render (Connection.dialect c') := by
  rw [Action.runOn_bind] at asked
  cases compiled : (q.compiled registry compile).runOn c with
  | mk outcome c' =>
      rw [compiled] at asked
      cases outcome with
      | error e => cases asked
      | ok found =>
          cases asked
          exact ⟨found.1, found.2, c', rfl, rfl⟩

private theorem error_of_text {β : Type} {c : σ} {compile : Dialect → Scope → Except Error α}
    (wrap : α → Statement) {e : Error}
    (asked : ((q.compiled registry compile >>= fun found => textOf (wrap found.2)).runOn c).1 =
      .error e) (next : Scope × α → Action σ β) :
    (q.compiled registry compile >>= next).runOn c =
      (.error e, ((q.compiled registry compile).runOn c).2) := by
  rw [Action.runOn_bind] at asked ⊢
  cases compiled : (q.compiled registry compile).runOn c with
  | mk outcome c' =>
      rw [compiled] at asked
      cases outcome with
      | error e' =>
          cases asked
          rfl
      | ok found => cases asked

/-- An entry without a failure: its statement was answered, and one that counts rows was answered by
a number. -/
def Answered (count : String) (entry : String × Except Error Response) : Prop :=
  ∃ response, entry.2 = .ok response ∧
    (entry.1 = count → ∀ value, response.toRows.head?.bind Row.first? = some value →
      ∃ n, value.toInt64 = .ok n)

section

variable {c : Journal σ} {text : String}

/-- An operation that runs its one statement executes the text that is given out for it. -/
theorem entries_of_run {compile : Query → Dialect → Scope → Except Error α} (wrap : α → Statement)
    (asked : ((Action.observed fun q : Query => q.compiled registry (compile q) >>= fun found =>
      textOf (wrap found.2)).runOn (q, c)).1 = .ok text) :
    ∃ answer, ((Action.observed fun q : Query => q.compiled registry (compile q) >>= fun found => do
        return (← Connection.run (wrap found.2)).size : Action (Query × Journal σ) UInt64).runOn
          (q, c)).2.2.entries = (text, answer) :: c.entries := by
  rw [Action.runOn_observed_fst] at asked
  obtain ⟨scope, s, c', compiled, rfl⟩ := exists_of_text wrap asked
  have kept := Journal.keeps_compiled registry q (compile q) c
  rw [compiled] at kept
  obtain ⟨answer, connection, _, ran⟩ := Journal.runOn_run (wrap s) c'
  refine ⟨answer, ?_⟩
  rw [Action.runOn_observed_snd, Action.runOn_bind_ok compiled, Action.runOn_bind, ran]
  cases answer with
  | error e => exact congrArg _ kept
  | ok response => exact congrArg _ kept

private theorem exists_compileCount {d : Dialect} {scope : Scope} {select : Select}
    (compiled : q.compileSelect d scope = .ok select) :
    ∃ count, q.compileCount d scope = .ok count := by
  obtain ⟨_, condition, _⟩ := compileSelect_eq_ok compiled
  exact ⟨_, compileCount_eq_ok_iff.mpr ⟨_, condition, rfl⟩⟩

theorem entries_runQuery {β : Type} (s : Select) (next : List Row → Except Error β)
    (j : Journal σ) :
    ∃ answer, ((Connection.runQuery s >>= fun rows => Action.ofExcept (next rows) :
        Action (Journal σ) β).runOn j).2.entries =
      ((Statement.select s).render (Connection.dialect j), answer) :: j.entries := by
  obtain ⟨answer, connection, _, ran⟩ := Journal.runOn_run (.select s) j
  refine ⟨answer, ?_⟩
  unfold Connection.runQuery
  rw [Action.runOn_bind, Action.runOn_bind, ran]
  cases answer <;> rfl

/-- Counting rows executes one statement, and fails only where that is not answered by a number. -/
theorem runOn_runCount (s : Select) (j : Journal σ) :
    ∃ answer connection,
      (Connection.exec ((Statement.select s).render (Connection.dialect j))).runOn j.connection =
          (answer, connection) ∧
        ((Connection.runCount s).runOn j).2 =
          ⟨connection, ((Statement.select s).render (Connection.dialect j), answer) :: j.entries⟩ ∧
        (Answered ((Statement.select s).render (Connection.dialect j))
            ((Statement.select s).render (Connection.dialect j), answer) →
          ∃ n, ((Connection.runCount s).runOn j).1 = .ok n) := by
  obtain ⟨answer, connection, executed, ran⟩ := Journal.runOn_run (.select s) j
  refine ⟨answer, connection, executed, ?_⟩
  unfold Connection.runCount
  cases answer with
  | error e =>
      have failed : (Connection.runQuery s).runOn j = (.error e, _) := Action.runOn_bind_error ran
      rw [Action.runOn_bind_error failed]
      refine ⟨rfl, ?_⟩
      rintro ⟨response, succeeded, _⟩
      cases succeeded
  | ok response =>
      have rows : (Connection.runQuery s).runOn j = (.ok response.toRows, _) :=
        Action.runOn_bind_ok ran
      rw [Action.runOn_bind_ok rows]
      cases first : response.toRows.head?.bind Row.first? with
      | none => exact ⟨rfl, fun _ => ⟨0, rfl⟩⟩
      | some value =>
          dsimp only
          rw [Action.runOn_bind, Action.runOn_ofExcept]
          cases read : value.toInt64 with
          | ok n => exact ⟨rfl, fun _ => ⟨_, rfl⟩⟩
          | error e =>
              refine ⟨rfl, ?_⟩
              rintro ⟨same, succeeded, number⟩
              cases succeeded
              obtain ⟨n, number⟩ := number rfl value first
              rw [read] at number
              cases number

/-- Counting rows and then reading them executes both texts, unless the count fails. -/
theorem entries_runCount_runQuery {β : Type}
    (steady : ∀ sql, (Connection.exec sql : Action σ Response).Keeps Connection.dialect)
    (count select : Select) (next : UInt64 → List Row → Except Error β) (j : Journal σ) :
    let counting := (Statement.select count).render (Connection.dialect j)
    let selecting := (Statement.select select).render (Connection.dialect j)
    ∃ answers, ((Connection.runCount count >>= fun n => Connection.runQuery select >>= fun rows =>
        Action.ofExcept (next n rows) : Action (Journal σ) β).runOn j).2.entries =
          answers ++ j.entries ∧
      (answers.map Prod.fst).reverse <+: [counting, selecting] ∧
      ((∀ entry ∈ answers, Answered counting entry) →
        (answers.map Prod.fst).reverse = [counting, selecting]) := by
  intro counting selecting
  obtain ⟨answer, connection, executed, state, number⟩ := runOn_runCount count j
  rw [Action.runOn_bind]
  cases ran : (Connection.runCount count).runOn j with
  | mk outcome counted =>
      rw [ran] at state number
      obtain rfl : counted = _ := state
      cases outcome with
      | error e =>
          refine ⟨[(counting, answer)], rfl, by simp, ?_⟩
          intro answered
          obtain ⟨n, failed⟩ := number (answered _ List.mem_cons_self)
          cases failed
      | ok n =>
          have same : Connection.dialect connection = Connection.dialect j := by
            have held := steady counting j.connection
            rw [executed] at held
            exact held
          obtain ⟨last, entries⟩ := entries_runQuery select (next n)
            ⟨connection, (counting, answer) :: j.entries⟩
          have text : (Statement.select select).render
              (Connection.dialect (⟨connection, (counting, answer) :: j.entries⟩ : Journal σ)) =
                selecting := by
            rw [show Connection.dialect (⟨connection, _⟩ : Journal σ) = _ from same]
          rw [text] at entries
          exact ⟨[(selecting, last), (counting, answer)], entries, List.prefix_rfl, fun _ => rfl⟩

/-- What the operations of a query execute, beside the texts that are given out for it. -/
structure ExecutesTexts (registry : Registry) (q : Query) (c : Journal σ) : Prop where
  /-- The rows of a paged query are counted first. -/
  find : ∀ text, ((selectText registry).runOn (q, c)).1 = .ok text →
    ∃ count answers, ((countText registry).runOn (q, c)).1 = .ok count ∧
      ((find registry).runOn (q, c)).2.2.entries = answers ++ c.entries ∧
      (answers.map Prod.fst).reverse <+: (if q.isPaged then [count, text] else [text]) ∧
      ((∀ entry ∈ answers, Answered count entry) →
        (answers.map Prod.fst).reverse = if q.isPaged then [count, text] else [text])
  update : ∀ fields text, ((updateText registry fields).runOn (q, c)).1 = .ok text →
    ∃ answer, ((update registry fields).runOn (q, c)).2.2.entries = (text, answer) :: c.entries
  delete : ∀ text, ((deleteText registry).runOn (q, c)).1 = .ok text →
    ∃ answer, ((delete registry).runOn (q, c)).2.2.entries = (text, answer) :: c.entries
  /-- Without a text nothing is executed. -/
  refused : ∀ e,
    (((selectText registry).runOn (q, c)).1 = .error e →
      ((Query.find registry).runOn (q, c)).1 = .error e ∧
        ((Query.find registry).runOn (q, c)).2.2.entries = c.entries) ∧
    (∀ fields, ((updateText registry fields).runOn (q, c)).1 = .error e →
      ((Query.update registry fields).runOn (q, c)).1 = .error e ∧
        ((Query.update registry fields).runOn (q, c)).2.2.entries = c.entries) ∧
    (((deleteText registry).runOn (q, c)).1 = .error e →
      ((Query.delete registry).runOn (q, c)).1 = .error e ∧
        ((Query.delete registry).runOn (q, c)).2.2.entries = c.entries)

private theorem entries_find
    (steady : ∀ sql, (Connection.exec sql : Action σ Response).Keeps Connection.dialect)
    (asked : ((selectText registry).runOn (q, c)).1 = .ok text) :
    ∃ count answers, ((countText registry).runOn (q, c)).1 = .ok count ∧
      ((find registry).runOn (q, c)).2.2.entries = answers ++ c.entries ∧
      (answers.map Prod.fst).reverse <+: (if q.isPaged then [count, text] else [text]) ∧
      ((∀ entry ∈ answers, Answered count entry) →
        (answers.map Prod.fst).reverse = if q.isPaged then [count, text] else [text]) := by
  unfold selectText at asked
  rw [Action.runOn_observed_fst] at asked
  obtain ⟨scope, select, c', compiled, rfl⟩ := exists_of_text .select asked
  have kept := Journal.keeps_compiled registry q q.compileSelect c
  rw [compiled] at kept
  obtain ⟨inScope, selected⟩ := compiled_eq_ok_iff.mp compiled
  -- Whatever selects compiles also as a count, so a paged query fails before it executes anything.
  obtain ⟨count, counted⟩ := exists_compileCount selected
  have counting : ((countText registry).runOn (q, c)).1 =
      .ok ((Statement.select count).render (Connection.dialect c')) := by
    unfold countText
    rw [Action.runOn_observed_fst, Action.runOn_bind_ok (compiled_ok inScope counted)]
    rfl
  refine ⟨(Statement.select count).render (Connection.dialect c'), ?_⟩
  unfold find
  rw [Action.runOn_observed_snd]
  unfold found
  rw [Action.runOn_bind_ok compiled]
  cases paged : q.isPaged with
  | false =>
      obtain ⟨answer, ran⟩ := entries_runQuery select (fun rows => QueryResult.ofRows scope q.outputMode
        (.ofWindow (.ofNat rows.length) q.pageStart q.pageSize) rows) c'
      refine ⟨[_], counting, ran.trans (congrArg _ kept), ?_, ?_⟩
      · exact List.prefix_rfl
      · intro _
        rfl
  | true =>
      simp only [if_true]
      rw [Action.runOn_bind_ok (runOn_currentDialect c'), counted]
      obtain ⟨answers, entries, start, whole⟩ := entries_runCount_runQuery steady count select
        (fun n rows => QueryResult.ofRows scope q.outputMode
          (.ofWindow n q.pageStart q.pageSize) rows) c'
      exact ⟨answers, counting, entries.trans (congrArg _ kept), start, whole⟩

private theorem refused_of_text {β : Type} {compile : Query → Dialect → Scope → Except Error α}
    (wrap : α → Statement) {e : Error}
    (asked : ((Action.observed fun q : Query => q.compiled registry (compile q) >>= fun found =>
      textOf (wrap found.2)).runOn (q, c)).1 = .error e)
    (next : Query → Scope × α → Action (Journal σ) β) :
    ((Action.observed fun q : Query =>
        q.compiled registry (compile q) >>= next q).runOn (q, c)).1 = .error e ∧
      ((Action.observed fun q : Query =>
        q.compiled registry (compile q) >>= next q).runOn (q, c)).2.2.entries = c.entries := by
  rw [Action.runOn_observed_fst] at asked ⊢
  rw [Action.runOn_observed_snd, error_of_text wrap asked (next q)]
  exact ⟨rfl, Journal.keeps_compiled registry q (compile q) c⟩

theorem executesTexts
    (steady : ∀ sql, (Connection.exec sql : Action σ Response).Keeps Connection.dialect)
    (registry : Registry) (q : Query) (c : Journal σ) : q.ExecutesTexts registry c where
  find _ asked := entries_find steady asked
  update fields text asked := entries_of_run .update asked
  delete text asked := entries_of_run .delete asked
  refused e := by
    refine ⟨?_, ?_, ?_⟩
    · intro asked
      exact refused_of_text .select asked _
    · intro fields asked
      exact refused_of_text .update asked _
    · intro asked
      exact refused_of_text .delete asked _

end

end Query

end RecordMapper
