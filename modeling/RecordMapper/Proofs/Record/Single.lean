import RecordMapper.Proofs.Record.Mirrored
import RecordMapper.Proofs.Record.Refused

/-!
Relations to one record, linked from either side. A parent has at most one child as long as no link
gives it a second one, which only the call on the parent looks for.
-/

set_option autoImplicit false

namespace RecordMapper

namespace Linking

variable {σ : Type} [Connection σ]

/-! ## Calls one after another -/

structure Call (σ : Type) where
  onParent : Bool
  before : Linking σ
  after : Linking σ

namespace Call

def parent (call : Call σ) : Record :=
  bif call.onParent then call.before.source else call.before.target

def child (call : Call σ) : Record :=
  bif call.onParent then call.before.target else call.before.source

def parent' (call : Call σ) : Record :=
  bif call.onParent then call.after.source else call.after.target

def child' (call : Call σ) : Record :=
  bif call.onParent then call.after.target else call.after.source

def Unrivalled (held : σ → Database) (column : String) (call : Call σ) : Prop :=
  (held call.before.connection).Unrivalled call.child.model column call.parent'.id call.child'.id

/-- The rows of the records are there, if they are saved, and a child without changes remembers to
which parent its row refers. -/
def Current (held : σ → Database) (column : String) (call : Call σ) : Prop :=
  (0 < call.parent.id → ∃ owner, (held call.before.connection).Bears call.parent.table
    call.parent.model.primaryKey call.parent.id owner) ∧
  (0 < call.child.id → ∃ place, call.child.Kept column (held call.before.connection) place)

end Call

/-- Successful calls one after another, on records of two models and on one connection. -/
inductive Run (registry : Registry) (parent child : Model) : σ → List (Call σ) → Prop where
  | nil (start : σ) : Run registry parent child start []
  | cons (call : Call σ) (rest : List (Call σ)) (ofParent : call.parent.model = parent)
      (ofChild : call.child.model = child)
      (ran : (link registry).runOn call.before = (.ok (), call.after))
      (later : Run registry parent child call.after.connection rest) :
      Run registry parent child call.before.connection (call :: rest)

section

variable {engine : Engine} {output : Output} {key : String → String} {held : σ → Database}
  (law : Connection.Executes σ engine output key held) (numbers : engine.ComparesNumbers)
  {registry : Registry} {keys inverse : RelationKeys} {parent child : Model} {column : String}
  (mirrored : Mirrored parent child keys inverse column)
  (identified : key parent.table = parent.primaryKey)
  (identified' : key child.table = child.primaryKey)

include law numbers mirrored identified identified'

section

variable {call : Call σ} (ofParent : call.parent.model = parent)
  (ofChild : call.child.model = child)
  (ran : (link registry).runOn call.before = (.ok (), call.after))
  (constrained : (held call.before.connection).Constrained child column)
  (constrained' : (held call.after.connection).Constrained child column)

include ofParent ofChild ran constrained

/-- Both records are saved, and then the child is written. -/
theorem exists_written_of_call :
    ∃ between saved db,
      call.parent.SavedNew (held call.before.connection) call.parent' between ∧
      call.child.SavedNew between saved db ∧ call.child'.id = saved.id ∧
      Written engine (bif call.onParent then .hasOne else .belongsTo) column call.parent' saved db
        (held call.after.connection) := by
  have connected := remembering_eq_ok_iff.mp ran
  obtain ⟨onParent, before, after⟩ := call
  cases onParent with
  | true =>
      obtain ⟨saved, between, db, first, second, same, written⟩ := written_of_hasOne law numbers
        mirrored ofParent ofChild identified identified' constrained.keyed connected
      exact ⟨between, saved, db, first, second, same, written⟩
  | false =>
      obtain ⟨saved, between, db, first, second, same, written⟩ := written_of_belongsTo law numbers
        mirrored ofChild ofParent identified identified' constrained.keyed connected
      have apart : before.source.table ≠ before.target.table := by
        intro equal
        exact mirrored.apart ((congrArg Model.table ofParent).symm.trans
          (equal.symm.trans (congrArg Model.table ofChild)))
      obtain ⟨between', first', second'⟩ := first.comm apart second
      exact ⟨between', saved, db, first', second', same, written⟩

/-- A call on a saved parent gives it a saved child only if it has none. -/
theorem unrivalled_of_onParent (onParent : call.onParent = true) (persisted : 0 < call.parent.id)
    (persisted' : 0 < call.child.id)
    (there : ∃ owner, (held call.before.connection).Bears parent.table parent.primaryKey
      call.parent.id owner)
    (single : (held call.before.connection).Single parent child column) :
    call.Unrivalled held column := by
  obtain ⟨between, saved, db, first, second, same, written⟩ := exists_written_of_call law numbers
    mirrored identified identified' ofParent ofChild ran constrained
  obtain ⟨unmoved, rfl⟩ := first.eq_of_persisted persisted
  obtain ⟨rfl, rfl⟩ := second.eq_of_persisted persisted'
  rw [onParent, cond_true] at written
  subst ofParent ofChild
  have free (none : ∀ place, ¬(held call.before.connection).Bears call.child.table column
      call.parent'.id place) : call.Unrivalled held column :=
    fun place bears => absurd bears (none place)
  generalize held call.after.connection = db at written
  cases written with
  | idle none => exact free (none rfl)
  | set none => exact free (none rfl)
  | linked place row present refers own =>
      obtain ⟨owner, owns⟩ := there
      rw [unmoved] at refers
      intro other bears
      rw [unmoved] at bears
      rw [same, single owns bears (constrained.refers.bears numbers present refers)]
      exact own

include constrained'

/-- A call keeps a parent at one child if it gives it no second one, and only then if the records are
in step with their rows. -/
theorem single_of_call (single : (held call.before.connection).Single parent child column) :
    (call.Unrivalled held column → (held call.after.connection).Single parent child column) ∧
      (call.Current held column → (held call.after.connection).Single parent child column →
        call.Unrivalled held column) := by
  obtain ⟨between, saved, db, first, second, same, written⟩ := exists_written_of_call law numbers
    mirrored identified identified' ofParent ofChild ran constrained
  subst ofParent ofChild
  obtain ⟨home, attaches, attached⟩ := attaches_of_written numbers mirrored.apart mirrored.links
    constrained.keyed first second written constrained'.refers
  rw [← same] at attaches attached
  refine ⟨attaches.single single, fun current single' => ?_⟩
  obtain ⟨owner, here, own⟩ := attached current.1 current.2
  exact attaches.unrivalled single' owner here own

end

/-! ## Following the relation -/

omit [Connection σ] law numbers mirrored identified identified' in
private theorem unrelated_of_ofRows {m : Model} {rows : List Row} {e : Error}
    (failed : Record.ofRows m rows = .error e) : Unrelated e := by
  obtain ⟨row, -, failed⟩ := exists_of_mapM_eq_error failed
  unfold Record.hydrated at failed
  split at failed
  · cases failed
    exact nofun
  · rcases bind_eq_error.mp failed with read | ⟨_, _, returned⟩
    · intro detail same
      have fails := Value.fails_of_toInt64 read
      rw [Error.Fails, same] at fails
      cases fails
    · cases returned

omit numbers identified identified' in
/-- A saved parent reads the rows that refer to it, and refuses more than one. -/
theorem exists_runOn_hasOne {r : Record} {m : Model} {s : σ} (ofParent : r.model = parent)
    (persisted : 0 < r.id) (loads : ((registry.load child.table).runOn s).1 = .ok m)
    (named : m.table = child.table) :
    ∃ rows s', (r.hasOne registry child.table).runOn s =
        (Record.atMostOne m .hasOne rows, s') ∧
      rows.length = ((held s).matching engine [child.table]
        (some (.eq (.column (.of child.table column)) (.value (.int r.id))))).length := by
  subst ofParent
  have loaded : (registry.load child.table).runOn s =
      (.ok m, ((registry.load child.table).runOn s).2) := Prod.ext loads rfl
  have kept := Registry.keeps_load law.tableExists law.columnsOfTable registry child.table s
  generalize ((registry.load child.table).runOn s).2 = between at loaded kept
  have query : Record.rowsWhere m.table keys.foreignKey (r.keyValue keys.referencedKey) =
      Record.rowsWhere child.table column (.int r.id) := by
    rw [named, mirrored.foreign.1, Record.keyValue_primaryKey mirrored.referenced.1]
  obtain ⟨response, s', executed⟩ :=
    law.succeeds (Record.rowsWhere child.table column (.int r.id)) between
  obtain ⟨rfl, -⟩ := law.select _ between response s' executed
  generalize same : (Record.rowsWhere child.table column (.int r.id)).answer engine output
    (held between) = rows at executed
  have asked : (Connection.runQuery (Record.rowsWhere child.table column (.int r.id))).runOn
      between = (.ok rows, s') := Action.runOn_bind_ok executed
  have required : r.requirePersisted = .ok () := by
    unfold Record.requirePersisted Record.isPersisted
    rw [decide_eq_true persisted, if_pos rfl]
  have direct : (r.directRows registry .hasOne child.table).runOn s = (.ok (m, rows), s') := by
    unfold Record.directRows
    rw [required, Action.runOn_bind_ok (Action.runOn_ofExcept _ _), mirrored.forth,
      Action.runOn_bind_ok (Action.runOn_ofExcept _ _), Action.runOn_bind_ok loaded, query,
      Action.runOn_bind_ok asked]
    rfl
  refine ⟨rows, s', (Action.runOn_bind_ok direct).trans (Action.runOn_ofExcept _ _), ?_⟩
  rw [← same, kept]
  exact Select.answer_of_table.length_eq.trans (List.length_map _)

omit identified identified' in
/-- A saved parent is refused its child exactly if two rows refer to it. -/
theorem hasOne_refused_iff {r : Record} {m : Model} {s : σ} (ofParent : r.model = parent)
    (persisted : 0 < r.id) (loads : ((registry.load child.table).runOn s).1 = .ok m)
    (named : m.table = child.table) (refers : (held s).Refers child.table column) :
    (∃ e detail, ((r.hasOne registry child.table).runOn s).1 = .error e ∧
        e.cause = .tooManyRecords detail) ↔
      ∃ place place', place ≠ place' ∧ (held s).Bears child.table column r.id place ∧
        (held s).Bears child.table column r.id place' := by
  obtain ⟨rows, s', ran, length⟩ :=
    exists_runOn_hasOne law mirrored ofParent persisted loads named
  rw [← Database.one_lt_length_matching_iff numbers refers, ← length, ran]
  unfold Record.atMostOne
  constructor
  · rintro ⟨e, detail, failed, cause⟩
    by_contra few
    rw [if_neg few] at failed
    cases read : Record.ofRows m rows with
    | ok records =>
        rw [read] at failed
        cases failed
    | error e' =>
        rw [read] at failed
        cases failed
        exact unrelated_of_ofRows read detail cause
  · intro several
    rw [if_pos several]
    exact ⟨_, _, rfl, rfl⟩

/-! ## All calls -/

/-- A saved parent with its row is never told that it has several children. -/
def NeverRefused (registry : Registry) (parent child : Model) (held : σ → Database) (s : σ) : Prop :=
  ∀ ⦃r : Record⦄ ⦃m : Model⦄, r.model = parent → 0 < r.id →
    (∃ owner, (held s).Bears parent.table parent.primaryKey r.id owner) →
    ((registry.load child.table).runOn s).1 = .ok m → m.table = child.table →
    ∀ e, ((r.hasOne registry child.table).runOn s).1 = .error e → Unrelated e

omit identified identified' in
private theorem neverRefused_of_single {s : σ} (single : (held s).Single parent child column)
    (refers : (held s).Refers child.table column) : NeverRefused registry parent child held s := by
  rintro r m ofParent persisted ⟨owner, owns⟩ loads named e failed detail cause
  obtain ⟨place, place', differ, bears, bears'⟩ := (hasOne_refused_iff law numbers mirrored ofParent
    persisted loads named refers).mp ⟨e, detail, failed, cause⟩
  exact differ (single owns bears bears')

variable {start : σ} {calls : List (Call σ)} (run : Run registry parent child start calls)
  (constrained : ∀ call ∈ calls, (held call.before.connection).Constrained child column ∧
    (held call.after.connection).Constrained child column)
  (single : (held start).Single parent child column)

include run constrained single

omit law numbers mirrored identified identified' in
/-- What each call leaves, as long as the calls before it left parents at one child. -/
theorem Run.forall_of_step (given concluded : Call σ → Prop)
    (step : ∀ call : Call σ, call.parent.model = parent → call.child.model = child →
      (link registry).runOn call.before = (.ok (), call.after) →
      (held call.before.connection).Constrained child column →
      (held call.after.connection).Constrained child column →
      (held call.before.connection).Single parent child column → given call →
        concluded call ∧ (held call.after.connection).Single parent child column)
    (all : ∀ call ∈ calls, given call) : ∀ call ∈ calls, concluded call := by
  induction run with
  | nil => exact List.forall_mem_nil _
  | cons call rest ofParent ofChild ran _ ih =>
      obtain ⟨⟨before, after⟩, later⟩ := List.forall_mem_cons.mp constrained
      obtain ⟨here, others⟩ := List.forall_mem_cons.mp all
      obtain ⟨done, single'⟩ := step call ofParent ofChild ran before after single here
      exact List.forall_mem_cons.mpr ⟨done, ih later single' others⟩

/-- Whatever calls are made on parents and children, a parent has one child as long as no call gives it
a second one, and then it is never refused it. If the records are in step with their rows, only
then. Calls on saved parents with saved children never do. -/
theorem single_along_calls :
    ((∀ call ∈ calls, call.Unrivalled held column) → ∀ call ∈ calls,
      (held call.after.connection).Single parent child column ∧
        NeverRefused registry parent child held call.after.connection) ∧
    ((∀ call ∈ calls, call.Current held column) →
      (∀ call ∈ calls, (held call.after.connection).Single parent child column) →
        ∀ call ∈ calls, call.Unrivalled held column) ∧
    ((∀ call ∈ calls, call.onParent = true ∧ 0 < call.parent.id ∧ 0 < call.child.id ∧
        call.Current held column) →
      ∀ call ∈ calls, call.Unrivalled held column) := by
  refine ⟨run.forall_of_step constrained single _ _ ?_, fun current single' => ?_,
    run.forall_of_step constrained single _ _ ?_⟩
  · intro call ofParent ofChild ran before after single unrivalled
    have single' := (single_of_call law numbers mirrored identified identified' ofParent ofChild ran
      before after single).1 unrivalled
    exact ⟨⟨single', neverRefused_of_single law numbers mirrored single' after.refers⟩, single'⟩
  · refine run.forall_of_step constrained single
      (fun call => call.Current held column ∧ (held call.after.connection).Single parent child column)
      _ ?_ fun call member => ⟨current call member, single' call member⟩
    rintro call ofParent ofChild ran before after single ⟨current, single'⟩
    exact ⟨(single_of_call law numbers mirrored identified identified' ofParent ofChild ran before
      after single).2 current single', single'⟩
  · rintro call ofParent ofChild ran before after single ⟨onParent, persisted, persisted', current⟩
    have unrivalled := unrivalled_of_onParent law numbers mirrored identified identified' ofParent
      ofChild ran before onParent persisted persisted'
      (by rw [← ofParent]; exact current.1 persisted) single
    exact ⟨unrivalled, (single_of_call law numbers mirrored identified identified' ofParent ofChild
      ran before after single).1 unrivalled⟩

end

end Linking

/-! ## Profiles of a customer -/

namespace Example.Shop

def profile : Model where
  table := "profile"
  fields := .ofList [("customer_id", .integer), ("bio", .text)]
  relations := [⟨.belongsTo, "customer", {}⟩]

def profileKeys (kind : RelationKind) (source target : String) : RelationKeys where
  kind
  source
  target
  foreignKey := "customer_id"
  referencedKey := "id"
  sourceId := "id"
  throughId := "id"
  targetId := "id"

private theorem mirrored_profile : Mirrored (model "customer") profile
    (profileKeys .hasOne "customer" "profile") (profileKeys .belongsTo "profile" "customer")
    "customer_id" where
  apart := by decide +kernel
  hasOne := by decide +kernel
  belongsTo := by decide +kernel
  forth := by decide +kernel
  back := by decide +kernel
  foreign := by decide +kernel
  referenced := by decide +kernel
  links := by
    constructor <;> decide +kernel

def linkingProfile (id : Int64) (profiles : List Row) :
    Linking (Memory numeric output fun _ => "id") where
  source := { Record.ofModel profile with id, fields := .ofList [("customer_id", .null)] }
  target := { Record.ofModel (model "customer") with id := 1 }
  middle := none
  connection := { store with held := profiles.foldl (fun db row => db.appended "profile" row) rows }

def linked (l : Linking (Memory numeric output fun _ => "id")) :
    Linking (Memory numeric output fun _ => "id") :=
  ((Linking.link registry).runOn l).2

def newcomer : Linking (Memory numeric output fun _ => "id") := linkingProfile (-1) []

def welcomed : Linking (Memory numeric output fun _ => "id") :=
  { linked newcomer with source := (linked newcomer).target, target := (linked newcomer).source }

/-- The profile is linked to the customer, and then the customer to the profile. -/
def greetings : List (Linking.Call (Memory numeric output fun _ => "id")) :=
  [⟨false, newcomer, linked newcomer⟩, ⟨true, welcomed, linked welcomed⟩]

/-- A profile without a customer, and the first customer, who has another one. -/
def latecomer : Linking (Memory numeric output fun _ => "id") :=
  linkingProfile 9 [.ofList [("id", .int 3), ("customer_id", .int 1)],
    .ofList [("id", .int 9), ("customer_id", .null)]]

end Example.Shop

namespace Linking

open Example

private theorem run_greetings :
    Run Shop.registry (Shop.model "customer") Shop.profile Shop.store Shop.greetings := by
  have first : (link Shop.registry).runOn Shop.newcomer = (.ok (), Shop.linked Shop.newcomer) :=
    Prod.ext (by decide +kernel) rfl
  have second : (link Shop.registry).runOn Shop.welcomed = (.ok (), Shop.linked Shop.welcomed) :=
    Prod.ext (by decide +kernel) rfl
  have start : Run Shop.registry (Shop.model "customer") Shop.profile
      Shop.welcomed.connection [⟨true, Shop.welcomed, Shop.linked Shop.welcomed⟩] :=
    .cons ⟨true, Shop.welcomed, Shop.linked Shop.welcomed⟩ [] rfl rfl second (.nil _)
  exact .cons ⟨false, Shop.newcomer, Shop.linked Shop.newcomer⟩ _ rfl rfl first start

theorem single_along_calls_greetings :
    (∀ call ∈ Shop.greetings, call.Unrivalled Memory.held "customer_id") ∧
      ∀ call ∈ Shop.greetings,
        call.after.connection.held.Single (Shop.model "customer") Shop.profile "customer_id" ∧
          NeverRefused Shop.registry (Shop.model "customer") Shop.profile Memory.held
            call.after.connection := by
  have constrained : ∀ call ∈ Shop.greetings,
      call.before.connection.held.Constrained Shop.profile "customer_id" ∧
        call.after.connection.held.Constrained Shop.profile "customer_id" := by
    refine List.forall_mem_cons.mpr ⟨?_, List.forall_mem_singleton.mpr ?_⟩
    all_goals
      refine ⟨⟨.of_rows ?_ ?_, .of_rows ?_⟩, .of_rows ?_ ?_, .of_rows ?_⟩
      all_goals decide +kernel
  have unrivalled : ∀ call ∈ Shop.greetings, call.Unrivalled Memory.held "customer_id" := by
    refine List.forall_mem_cons.mpr ⟨?_, List.forall_mem_singleton.mpr ?_⟩
    all_goals
      refine Database.Unrivalled.of_rows ?_
      decide +kernel
  have single : Shop.store.held.Single (Shop.model "customer") Shop.profile "customer_id" :=
    .of_rows (by decide +kernel)
  exact ⟨unrivalled, (single_along_calls Memory.executes comparesNumbers_numeric
    Shop.mirrored_profile rfl rfl run_greetings constrained single).1 unrivalled⟩

/-- Called on the second profile, linking succeeds, and the customer is told that there are two.
Called on the customer, it is refused. -/
theorem latecomer_linked_as_second :
    Shop.latecomer.connection.held.Single (Shop.model "customer") Shop.profile "customer_id" ∧
      ((link Shop.registry).runOn Shop.latecomer).1 = .ok () ∧
      ¬(Shop.linked Shop.latecomer).connection.held.Single (Shop.model "customer") Shop.profile
        "customer_id" ∧
      ((Shop.latecomer.target.hasOne Shop.registry "profile").runOn
        (Shop.linked Shop.latecomer).connection).1.map Option.isSome =
          .error (.of (.tooManyRecords "has_one(profile) matched 2 rows")) ∧
      ((link Shop.registry).runOn { Shop.latecomer with
        source := Shop.latecomer.target, target := Shop.latecomer.source }).1 =
          .error (.of (.tooManyRecords
            "\x60customer\x60 record 1 already has one \x60profile\x60")) := by
  refine ⟨.of_rows (by decide +kernel), by decide +kernel, fun single => ?_, by decide +kernel,
    by decide +kernel⟩
  have bears (table column : String) (place : Nat) (found :
      (((Shop.linked Shop.latecomer).connection.held.row? (table, place)).bind fun row =>
        (row.read column).number?) = some 1) :
      (Shop.linked Shop.latecomer).connection.held.Bears table column 1 place :=
    Database.bears_iff.mpr found
  have same := single (bears "customer" "id" 0 (by decide +kernel))
    (bears "profile" "customer_id" 0 (by decide +kernel))
    (bears "profile" "customer_id" 1 (by decide +kernel))
  cases same

end Linking

end RecordMapper
