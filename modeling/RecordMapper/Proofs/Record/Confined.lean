import RecordMapper.Example.Shop
import RecordMapper.Proofs.Record.Refused

/-!
Where linking and unlinking write. Each of the two records has its own row, the link has its table
between, and a through record that is given has the table that it is of. Nothing else is written,
whatever fails.
-/

set_option autoImplicit false

namespace RecordMapper

open Watched

/-! ## Places -/

inductive Statement.WritesOnly (table : String) : Statement → Prop where
  | insert {i : Insert} (here : i.table = table) : WritesOnly table (.insert i)
  | update {u : Update} (here : u.table = table) (alone : u.others = []) :
      WritesOnly table (.update u)
  | delete {d : Delete} (here : d.table = table) (alone : d.others = []) :
      WritesOnly table (.delete d)

inductive Statement.InsertsInto (table : String) : Statement → Prop where
  | insert {i : Insert} (here : i.table = table) : InsertsInto table (.insert i)

def Sent.insert? : Sent → Option Insert
  | .statement (.insert i) => some i
  | _ => none

private theorem Sent.insert?_eq_some_iff {sent : Sent} {i : Insert} :
    sent.insert? = some i ↔ sent = .statement (.insert i) := by
  constructor
  · intro read
    unfold insert? at read
    split at read
    · cases read
      rfl
    · cases read
  · rintro rfl
    rfl

inductive Record.WritesRow (r : Record) : Statement → Prop where
  | insert {i : Insert} (here : i.table = r.table) : WritesRow r (.insert i)
  | update {u : Update} (here : u.table = r.table) (alone : u.others = [])
      (row : u.filter = some (r.idCondition r.id)) : WritesRow r (.update u)

namespace Record

theorem WritesRow.congr {r r' : Record} {s : Statement} (writes : r.WritesRow s)
    (model : r'.model = r.model) (id : r'.id = r.id) : r'.WritesRow s := by
  have table : r'.table = r.table := congrArg Model.table model
  cases writes with
  | insert here => exact .insert (here.trans table.symm)
  | update here alone row =>
      refine .update (here.trans table.symm) alone ?_
      rw [row, idCondition, idCondition, table, model, id]

private theorem SaveStatement.insertsInto {r : Record} {id : Int64} {s : Statement}
    (saves : r.SaveStatement id s) (new : ¬0 < id) : s.InsertsInto r.table := by
  cases saves with
  | update positive => exact absurd positive new
  | insert values => exact .insert rfl

private theorem WritesRow.writesOnly {r : Record} {s : Statement} (writes : r.WritesRow s) :
    s.WritesOnly r.table := by
  cases writes with
  | insert here => exact .insert here
  | update here alone => exact .update here alone

end Record

/-! ## Steps of one record -/

namespace Record

variable {σ : Type} [Connection σ]

private theorem writes_saved (r : Record) (id : Int64) :
    Writes (r.SaveStatement id) (r.saved id : Action (Watched σ) Record) :=
  closed_saved (Writes.closed _) r id (fun _ saves => writes_run fun _ => saves)
    (writes_ask _ _) (fun _ _ => trivial) trivial

/-- What a step makes of a record: its model stays, its identifier only if it is saved. -/
structure SameRow (r r' : Record) : Prop where
  model : r'.model = r.model
  id : 0 < r.id → r'.id = r.id

theorem SameRow.refl (r : Record) : SameRow r r := ⟨rfl, fun _ => rfl⟩

private theorem SameRow.trans {r r' r'' : Record} (first : SameRow r r') (second : SameRow r' r'') :
    SameRow r r'' := by
  refine ⟨second.model.trans first.model, fun positive => ?_⟩
  have same := first.id positive
  rw [← same] at positive
  exact (second.id positive).trans same

private theorem sameRow_of_saved {r r' : Record} {c c' : Watched σ}
    (ran : (r.saved r.id).runOn c = (.ok r', c')) : SameRow r r' := by
  rcases saved_eq_ok ran with ⟨-, rfl, -⟩ | ⟨-, values, -, same, saves⟩
  · exact .refl r'
  · refine ⟨by rw [same], fun positive => ?_⟩
    generalize r'.id = given at saves ⊢
    cases saves with
    | unchanged | updated | restored => rfl
    | inserted new => exact absurd positive new

theorem sameRow_of_save (r : Record) (c : Watched σ) :
    SameRow r ((save : Action (Record × Watched σ) Int64).runOn (r, c)).2.1 ∧
      Wrote (r.SaveStatement r.id) c
        ((save : Action (Record × Watched σ) Int64).runOn (r, c)).2.2 := by
  have wrote := writes_saved r r.id c
  rw [runOn_save]
  unfold saveAs
  rw [Action.runOn_tracked, Action.runOn_bind]
  cases ran : (r.saved r.id).runOn c with
  | mk outcome c' =>
      rw [ran] at wrote
      cases outcome with
      | error e => exact ⟨⟨rfl, fun _ => rfl⟩, wrote⟩
      | ok r' => exact ⟨sameRow_of_saved ran, wrote⟩

/-- The statements of a save write the row that the record has afterwards. -/
theorem SameRow.writesRow {r r' : Record} (same : SameRow r r') {s : Statement}
    (saves : r.SaveStatement r.id s) : r'.WritesRow s := by
  have table : r'.table = r.table := congrArg Model.table same.model
  cases saves with
  | insert values => exact .insert table.symm
  | update positive values =>
      exact WritesRow.congr (.update rfl rfl rfl) same.model (same.id positive)

omit [Connection σ] in
theorem set_spec (r : Record) (column : String) (value : Value) :
    (r.set column value).2.model = r.model ∧
      (column ≠ r.model.primaryKey → (r.set column value).2.id = r.id) := by
  unfold set
  cases assigned : r.assigned column value with
  | error e => exact ⟨rfl, fun _ => rfl⟩
  | ok set =>
      exact ⟨model_of_assigned assigned, fun other => (assigned_of_ne other assigned).2⟩

end Record

namespace Linking

variable {σ : Type} [Connection σ]

/-- A new record is inserted into its table, and a saved one is left as it is. -/
theorem wrote_saveIfNew (r : Record) (c : Watched σ) :
    r.SameRow ((saveIfNew : Action (Record × Watched σ) Unit).runOn (r, c)).2.1 ∧
      Wrote (Statement.InsertsInto r.table) c
        ((saveIfNew : Action (Record × Watched σ) Unit).runOn (r, c)).2.2 := by
  by_cases persisted : 0 < r.id
  · rw [runOn_saveIfNew_of_persisted persisted]
    exact ⟨.refl r, .of_same rfl⟩
  · obtain ⟨same, wrote⟩ := Record.sameRow_of_save r c
    have ends : ((saveIfNew : Action (Record × Watched σ) Unit).runOn (r, c)).2 =
        ((Record.save : Action (Record × Watched σ) Int64).runOn (r, c)).2 := by
      unfold saveIfNew
      rw [Action.runOn_bind_ok (Action.runOn_get (r, c))]
      simp only [Record.isPersisted, persisted, decide_false, Bool.not_false, if_true]
      exact Action.runOn_dropped_snd _ _
    rw [ends]
    exact ⟨same, wrote.mono fun s saves => saves.insertsInto persisted⟩

/-- A key is stored in the row of its record. Only where the key column is the primary key has the
record another identifier then. -/
theorem wrote_store (column : String) (value : Value) (r : Record) (c : Watched σ) :
    let state := ((store column value : Action (Record × Watched σ) Unit).runOn (r, c)).2
    state.1.model = r.model ∧
      (column ≠ r.model.primaryKey → 0 < r.id → state.1.id = r.id) ∧
      Wrote state.1.WritesRow c state.2 := by
  obtain ⟨model, id⟩ := r.set_spec column value
  unfold store
  rw [Action.runOn_bind]
  have ran : (setColumn column value : Action (Record × Watched σ) Unit).runOn (r, c) =
      ((r.set column value).1, ((r.set column value).2, c)) := rfl
  rw [ran]
  cases (r.set column value).1 with
  | error e => exact ⟨model, fun other _ => id other, .of_same rfl⟩
  | ok _ =>
      generalize (r.set column value).2 = set at model id
      obtain ⟨same, wrote⟩ := Record.sameRow_of_save set c
      dsimp only
      rw [Action.runOn_dropped_snd]
      refine ⟨same.model.trans model, fun other positive => ?_, wrote.mono fun s => same.writesRow⟩
      have kept := id other
      rw [← kept] at positive
      exact (same.id positive).trans kept

def Confines (m : Model) (start : Watched σ) (state : Record × Watched σ) : Prop :=
  state.1.model = m ∧ Wrote (Statement.WritesOnly m.table) start state.2

section

variable {m : Model} {start : Watched σ}

omit [Connection σ] in
private theorem carries_setColumn (column : String) (value : Value) :
    (setColumn column value : Action (Record × Watched σ) Unit).Carries (Confines m start)
      (Confines m start) := by
  rintro ⟨r, c⟩ ⟨model, wrote⟩
  exact ⟨(r.set_spec column value).1.trans model, wrote⟩

private theorem carries_store (column : String) (value : Value) :
    (store column value : Action (Record × Watched σ) Unit).Carries (Confines m start)
      (Confines m start) := by
  rintro ⟨r, c⟩ ⟨model, wrote⟩
  obtain ⟨same, _, stored⟩ := wrote_store column value r c
  have table := congrArg Model.table (same.trans model)
  refine ⟨same.trans model, wrote.trans (stored.mono fun s writes => ?_)⟩
  rw [← table]
  exact writes.writesOnly

end

end Linking

/-! ## Places of a link -/

namespace Linking

section

variable {σ : Type}

def Declares (l : Linking σ) (keys : RelationKeys) : Prop :=
  ∃ kind, l.source.model.onlyKind l.target.table = .ok kind ∧
    l.source.model.relationKeys kind l.target.table = .ok keys

/-- The table that connects two records: a join table by its name, and a through table as the model
of that name has it. -/
inductive ConnectingTable (registry : Registry) (l : Linking σ) : String → Prop where
  | join {keys : RelationKeys} {table : String} (declares : l.Declares keys)
      (kind : keys.kind = .hasAndBelongsToMany) (found : keys.throughTable = .ok table) :
      ConnectingTable registry l table
  | through {keys : RelationKeys} {name : String} {m : Model} (declares : l.Declares keys)
      (kind : keys.kind = .hasOneThrough ∨ keys.kind = .hasManyThrough)
      (found : keys.throughTable = .ok name)
      (resolved : registry.resolve (Name.normalize name) = .ok m) :
      ConnectingTable registry l m.table

/-- The tables besides those of the two records: the one that connects them, and that of a through
record of another table which the caller gives. -/
inductive Aside (registry : Registry) (l : Linking σ) : String → Prop where
  | connecting {table : String} (connects : l.ConnectingTable registry table) :
      Aside registry l table
  | stray {middle : Record} (given : l.middle = some middle)
      (elsewhere : ¬l.ConnectingTable registry middle.table) : Aside registry l middle.table

inductive Place (registry : Registry) (l l' : Linking σ) (s : Statement) : Prop where
  | source (writes : l'.source.WritesRow s) : Place registry l l' s
  | target (writes : l'.target.WritesRow s) : Place registry l l' s
  | aside {table : String} (aside : l.Aside registry table) (writes : s.WritesOnly table) :
      Place registry l l' s

/-- Linking stores its key in the primary key of the source. -/
def MovesSource (l : Linking σ) : Prop :=
  ∃ keys, l.Declares keys ∧ keys.kind = .belongsTo ∧
    keys.foreignKey = l.source.model.primaryKey

def MovesTarget (l : Linking σ) : Prop :=
  ∃ keys, l.Declares keys ∧
    ((keys.kind = .hasOne ∨ keys.kind = .hasMany) ∧
        keys.foreignKey = l.target.model.primaryKey ∨
      keys.kind = .hasOneThrough ∧ keys.targetKey = l.target.model.primaryKey)

def Moves (l : Linking σ) : Side → Prop
  | .source => l.MovesSource
  | .target => l.MovesTarget

/-- What linking makes of two records and writes for them. -/
structure Confined (registry : Registry) (l l' : Linking (Watched σ)) : Prop where
  models : l'.source.model = l.source.model ∧ l'.target.model = l.target.model
  source : 0 < l.source.id → l'.source.id = l.source.id ∨ l.MovesSource
  target : 0 < l.target.id → l'.target.id = l.target.id ∨ l.MovesTarget
  wrote : Wrote (Place registry l l') l.connection l'.connection

inductive Early (registry : Registry) (l : Linking σ) (s : Statement) : Prop where
  | source (inserts : s.InsertsInto l.source.table) : Early registry l s
  | target (inserts : s.InsertsInto l.target.table) : Early registry l s
  | aside {table : String} (aside : l.Aside registry table) (writes : s.WritesOnly table) :
      Early registry l s

structure Stage (registry : Registry) (start l : Linking (Watched σ)) : Prop where
  source : start.source.SameRow l.source
  target : start.target.SameRow l.target
  middle : ∀ middle, l.middle = some middle → start.Aside registry middle.table
  wrote : Wrote (Early registry start) start.connection l.connection

end

section

variable {σ : Type} {registry : Registry} {start l : Linking (Watched σ)}

private theorem Early.of_side (side : Side) {s : Statement}
    (inserts : s.InsertsInto (start.record side).table) : Early registry start s := by
  cases side with
  | source => exact .source inserts
  | target => exact .target inserts

private theorem Place.of_side (side : Side) {s : Statement} (writes : (l.record side).WritesRow s) :
    Place registry start l s := by
  cases side with
  | source => exact .source writes
  | target => exact .target writes

theorem Stage.sameRow (stage : Stage registry start l) (side : Side) :
    (start.record side).SameRow (l.record side) := by
  cases side with
  | source => exact stage.source
  | target => exact stage.target

private theorem Confined.of_sides
    (models : ∀ side, (l.record side).model = (start.record side).model)
    (ids : ∀ side, 0 < (start.record side).id →
      (l.record side).id = (start.record side).id ∨ start.Moves side)
    (wrote : Wrote (Place registry start l) start.connection l.connection) :
    Confined registry start l :=
  ⟨⟨models .source, models .target⟩, ids .source, ids .target, wrote⟩

theorem Early.place {s : Statement} (early : Early registry start s)
    (source : l.source.model = start.source.model) (target : l.target.model = start.target.model) :
    Place registry start l s := by
  cases early with
  | source inserts =>
      obtain ⟨here⟩ := inserts
      exact .source (.insert (here.trans (congrArg Model.table source).symm))
  | target inserts =>
      obtain ⟨here⟩ := inserts
      exact .target (.insert (here.trans (congrArg Model.table target).symm))
  | aside aside writes => exact .aside aside writes

private theorem stage_refl (registry : Registry) (l : Linking (Watched σ)) :
    Stage registry l l where
  source := .refl _
  target := .refl _
  middle := by
    intro middle given
    by_cases connects : l.ConnectingTable registry middle.table
    · exact .connecting connects
    · exact .stray given connects
  wrote := .of_same rfl

theorem confined_of_stage (l : Linking (Watched σ)) (stage : Stage registry start l) :
    Confined registry start l where
  models := ⟨stage.source.model, stage.target.model⟩
  source positive := .inl (stage.source.id positive)
  target positive := .inl (stage.target.id positive)
  wrote := stage.wrote.mono fun _ early => early.place stage.source.model stage.target.model

end

/-! ## Steps before the key is stored -/

section

variable {σ α : Type} [Connection σ] {registry : Registry} {start : Linking (Watched σ)}

omit [Connection σ] in
private theorem Stage.declares {l : Linking (Watched σ)} (stage : Stage registry start l)
    {kind : RelationKind} {keys : RelationKeys}
    (only : l.source.model.onlyKind l.target.table = .ok kind)
    (named : l.source.model.relationKeys kind l.target.table = .ok keys) : start.Declares keys := by
  rw [stage.source.model, Record.table, stage.target.model] at only named
  exact ⟨kind, only, named⟩

omit [Connection σ] in
theorem carries_onConnection {action : Action (Watched σ) α}
    (writes : Writes (Early registry start) action) :
    (onConnection action).Carries (Stage registry start) (Stage registry start) :=
  fun l stage => ⟨stage.source, stage.target, stage.middle, stage.wrote.trans (writes l.connection)⟩

private theorem carries_saveIfNew (side : Side) :
    (onSide side saveIfNew : Action (Linking (Watched σ)) Unit).Carries (Stage registry start)
      (Stage registry start) := by
  intro l stage
  obtain ⟨same, wrote⟩ := wrote_saveIfNew (l.record side) l.connection
  have table : (l.record side).table = (start.record side).table :=
    congrArg Model.table (stage.sameRow side).model
  rw [table] at wrote
  rw [runOn_onSide]
  generalize (saveIfNew.runOn (l.record side, l.connection)).2 = state at same wrote
  have rows : ∀ s, (start.record s).SameRow ((l.put state.1 state.2 side).record s) := by
    refine side.forall_of ?_ ?_
    · rw [record_put_self]
      exact (stage.sameRow side).trans same
    · rw [record_put_other]
      exact stage.sameRow side.other
  refine ⟨rows .source, rows .target, ?_, ?_⟩
  · rw [middle_put]
    exact stage.middle
  · rw [connection_put]
    exact stage.wrote.trans (wrote.mono fun _ => .of_side side)

theorem carries_count (exact' : Bool) :
    (count exact' : Action (Linking (Watched σ)) UInt64).Carries (Stage registry start)
      (Stage registry start) :=
  .bind_get fun l _ => carries_onConnection (Record.closed_countLinks (Writes.closed _)
    (fun _ => writes_run nofun) l.source l.target exact')

theorem carries_complementaryKeys (r other : Record) :
    (onConnection (r.complementaryKeys registry other) :
        Action (Linking (Watched σ)) RelationKeys).Carries (Stage registry start)
      (Stage registry start) :=
  carries_onConnection (Record.closed_complementaryKeys (Writes.closed _)
    (fun _ => writes_ask _ _) (fun _ => writes_ask _ _) registry r other)

/-- The through record of an operation, given or made, has a table aside. -/
theorem carries_onMiddle {through : String} {action : Action (Record × Watched σ) α}
    (connects : ∀ m, registry.resolve (Name.normalize through) = .ok m →
      start.ConnectingTable registry m.table)
    (confines : ∀ m c, action.Carries (Confines m c) (Confines m c)) :
    (onMiddle registry through action).Carries (Stage registry start) (Stage registry start) := by
  have acts {middle : Record} (aside : start.Aside registry middle.table) :
      (action.zoom (fun l : Linking (Watched σ) => (middle, l.connection))
        fun acted l => { l with middle := some acted.1, connection := acted.2 }).Carries
          (Stage registry start) (Stage registry start) := by
    intro l stage
    obtain ⟨model, wrote⟩ := confines middle.model l.connection (middle, l.connection)
      ⟨rfl, .of_same rfl⟩
    refine ⟨stage.source, stage.target, fun acted held => ?_,
      stage.wrote.trans (wrote.mono fun _ => .aside aside)⟩
    obtain rfl := Option.some.inj held
    change start.Aside registry (action.runOn (middle, l.connection)).2.1.model.table
    rw [model]
    exact aside
  refine .bind_get fun l stage => ?_
  cases given : l.middle with
  | some middle => exact fun l' stage' => acts (stage.middle middle given) l' stage'
  | none =>
      have writes : Writes (Early registry start)
          (registry.create through : Action (Watched σ) Record) :=
        (Writes.closed _).bind (Registry.closed_load (Writes.closed _) (fun _ => writes_ask _ _)
          (fun _ => writes_ask _ _) registry through) fun _ => (Writes.closed _).pure _
      have made (l : Linking (Watched σ)) (made : Record) (l' : Linking (Watched σ))
          (_ : Stage registry start l)
          (created : (onConnection (registry.create through)).runOn l = (.ok made, l')) :
          start.Aside registry made.table := by
        obtain ⟨created, -⟩ := onConnection_eq_ok created
        obtain ⟨m, _, loaded, returned⟩ := Action.runOn_bind_eq_ok.mp created
        cases returned
        obtain ⟨declared, resolved, table, -⟩ := Registry.load_eq_ok loaded
        have connecting := connects declared resolved
        rw [← table] at connecting
        exact .connecting connecting
      exact .bind (carries_onConnection writes) made (fun _ aside => acts aside)
        fun _ stage => stage

/-! ## Storing the key -/

theorem carries_storeOn (side : Side) {column : String} (value : Value)
    (moves : column = (start.record side).model.primaryKey → start.Moves side) :
    (onSide side (store column value) : Action (Linking (Watched σ)) Unit).Carries
      (Stage registry start) (Confined registry start) := by
  intro l stage
  obtain ⟨model, id, wrote⟩ := wrote_store column value (l.record side) l.connection
  have row := stage.sameRow side
  rw [runOn_onSide]
  generalize ((store column value).runOn (l.record side, l.connection)).2 = state
    at model id wrote
  have models : ∀ s, ((l.put state.1 state.2 side).record s).model = (start.record s).model := by
    refine side.forall_of ?_ ?_
    · rw [record_put_self]
      exact model.trans row.model
    · rw [record_put_other]
      exact (stage.sameRow side.other).model
  refine .of_sides models (side.forall_of ?_ ?_) ?_
  · intro positive
    rw [record_put_self]
    by_cases moved : column = (l.record side).model.primaryKey
    · exact .inr (moves (moved.trans (congrArg Model.primaryKey row.model)))
    · have kept := row.id positive
      rw [← kept] at positive
      exact .inl ((id moved positive).trans kept)
  · intro positive
    rw [record_put_other]
    exact .inl ((stage.sameRow side.other).id positive)
  · rw [connection_put]
    refine .trans (stage.wrote.mono fun _ early =>
      early.place (models .source) (models .target)) (wrote.mono fun _ writes => .of_side side ?_)
    rw [record_put_self]
    exact writes

private theorem carries_establish {keys : RelationKeys} (declares : start.Declares keys) :
    (establish registry keys : Action (Linking (Watched σ)) Unit).Carries (Stage registry start)
      (Confined registry start) := by
  refine .bind_get fun l _ => ?_
  cases kind : keys.kind with
  | belongsTo => exact carries_storeOn .source _ fun moved => ⟨keys, declares, kind, moved⟩
  | hasOne =>
      exact carries_storeOn .target _ fun moved => ⟨keys, declares, .inl ⟨.inl kind, moved⟩⟩
  | hasMany =>
      exact carries_storeOn .target _ fun moved => ⟨keys, declares, .inl ⟨.inr kind, moved⟩⟩
  | hasOneThrough =>
      refine .bind_ofExcept (fun through found => ?_) confined_of_stage
      refine .then ?_ (fun held => ?_) confined_of_stage
      · refine carries_onMiddle (fun m => .through declares (.inl kind) found) fun m c => ?_
        exact .then (carries_store _ _) (fun _ => .bind_get fun _ _ _ confines => confines)
          fun _ confines => confines
      · exact carries_storeOn .target _ fun moved => ⟨keys, declares, .inr ⟨kind, moved⟩⟩
  | hasManyThrough =>
      refine .bind_ofExcept (fun through found => ?_) confined_of_stage
      have acts : (onMiddle registry through (do
          setColumn keys.sourceKey (l.source.keyValue keys.sourceId)
          store keys.targetKey (l.target.keyValue keys.targetId)) :
            Action (Linking (Watched σ)) Unit).Carries (Stage registry start)
              (Stage registry start) :=
        carries_onMiddle (fun m => .through declares (.inr kind) found) fun m c =>
          .then (carries_setColumn _ _) (fun _ => carries_store _ _) fun _ confines => confines
      exact fun l stage => confined_of_stage _ (acts l stage)
  | hasAndBelongsToMany =>
      refine .bind_ofExcept (fun join found => ?_) confined_of_stage
      refine .then (carries_onConnection (writes_run fun _ => ?_)) (fun _ => confined_of_stage) confined_of_stage
      exact .aside (.connecting (.join declares kind found)) (.insert rfl)

/-! ## Releasing the link -/

private theorem writes_destroyed (r : Record) (id : Int64) :
    Writes (Statement.WritesOnly r.table)
      (r.destroyed id : Action (Watched σ) (Bool × Record)) := by
  unfold Record.destroyed
  split
  · exact (Writes.closed _).pure _
  · exact (Writes.closed _).bind (writes_run fun _ => .delete rfl rfl) fun _ =>
      (Writes.closed _).pure _

/-- The records between two others are of the table that connects them. -/
theorem connects_of_middleRecords {keys : RelationKeys} {r : Record} {other : Option Record}
    {middles : List Record} {c c' : Watched σ} (declares : start.Declares keys)
    (kind : keys.kind = .hasOneThrough ∨ keys.kind = .hasManyThrough)
    (ran : (r.middleRecords registry keys other).runOn c = (.ok middles, c')) {middle : Record}
    (member : middle ∈ middles) : start.ConnectingTable registry middle.table := by
  obtain ⟨through, m, between, rows, found, loaded, -, made⟩ := Record.steps_of_middleRecords ran
  obtain ⟨declared, resolved, table, -⟩ := Registry.load_eq_ok loaded
  obtain ⟨row, -, hydrated⟩ := exists_of_mapM_eq_ok made member
  obtain ⟨_, _, -, -, rfl⟩ := Record.hydrated_eq_ok_iff.mp hydrated
  have connecting : start.ConnectingTable registry declared.table :=
    .through declares kind found resolved
  rw [← table] at connecting
  exact connecting

private theorem carries_middleRecords (r : Record) (keys : RelationKeys) (other : Option Record) :
    (onConnection (r.middleRecords registry keys other) :
        Action (Linking (Watched σ)) (List Record)).Carries (Stage registry start)
      (Stage registry start) :=
  carries_onConnection (Record.closed_middleRecords (Writes.closed _) (fun _ => writes_run nofun)
    (fun _ => writes_ask _ _) (fun _ => writes_ask _ _) registry r keys other)

private theorem carries_release {keys : RelationKeys} (declares : start.Declares keys) :
    (release registry keys : Action (Linking (Watched σ)) Unit).Carries (Stage registry start)
      (Confined registry start) := by
  refine .bind_get fun l _ => ?_
  cases kind : keys.kind with
  | belongsTo => exact carries_storeOn .source _ fun moved => ⟨keys, declares, kind, moved⟩
  | hasOne =>
      exact carries_storeOn .target _ fun moved => ⟨keys, declares, .inl ⟨.inl kind, moved⟩⟩
  | hasMany =>
      exact carries_storeOn .target _ fun moved => ⟨keys, declares, .inl ⟨.inr kind, moved⟩⟩
  | hasOneThrough =>
      refine .bind_ofExcept (fun through _ => ?_) confined_of_stage
      refine .then (carries_middleRecords _ _ _) (fun middles => ?_) confined_of_stage
      dsimp only
      split
      · exact carries_storeOn .target _ fun moved => ⟨keys, declares, .inr ⟨kind, moved⟩⟩
      · exact .ofExcept _ confined_of_stage
  | hasManyThrough =>
      have between (l' : Linking (Watched σ)) (middles : List Record) (l'' : Linking (Watched σ))
          (_ : Stage registry start l')
          (ran : (onConnection (l.source.middleRecords registry keys (some l.target))).runOn l' =
            (.ok middles, l'')) :
          ∀ middle ∈ middles, start.ConnectingTable registry middle.table := fun middle member =>
        connects_of_middleRecords declares (.inr kind) (onConnection_eq_ok ran).1 member
      refine .bind (carries_middleRecords _ _ _) between (fun middles connects => ?_) confined_of_stage
      match middles with
      | [] => exact confined_of_stage
      | [middle] =>
          have writes (c : Watched σ) := writes_destroyed middle middle.id c
          refine .then (carries_onConnection fun c => (writes c).mono fun _ => ?_)
            (fun _ => confined_of_stage) confined_of_stage
          exact .aside (.connecting (connects middle List.mem_cons_self))
      | _ :: _ :: _ =>
          exact .bind_ofExcept (fun _ _ => .ofExcept _ confined_of_stage) confined_of_stage
  | hasAndBelongsToMany =>
      refine .bind_ofExcept (fun join found => ?_) confined_of_stage
      refine .then (carries_onConnection (writes_run fun _ => ?_)) (fun _ => confined_of_stage) confined_of_stage
      exact .aside (.connecting (.join declares kind found)) (.delete rfl rfl)

/-! ## Linking and unlinking -/

theorem gives_complementaryKeys {l l' l'' : Linking (Watched σ)} {keys : RelationKeys}
    (stage : Stage registry start l)
    (ran : (onConnection (l.source.complementaryKeys registry l.target)).runOn l' =
      (.ok keys, l'')) : start.Declares keys := by
  obtain ⟨ran, -⟩ := onConnection_eq_ok ran
  obtain ⟨kind, only, named⟩ := Record.complementaryKeys_eq_ok ran
  exact stage.declares only named

private theorem carries_linkSaved {keys : RelationKeys} (declares : start.Declares keys) :
    (linkSaved registry keys : Action (Linking (Watched σ)) Unit).Carries (Stage registry start)
      (Confined registry start) := by
  refine .then (carries_count true) (fun n => ?_) confined_of_stage
  split
  · exact confined_of_stage
  · split
    · refine .then (carries_count false) (fun n => ?_) confined_of_stage
      split
      · exact .bind_get fun _ _ =>
          .bind_ofExcept (fun _ _ => carries_establish declares) confined_of_stage
      · exact carries_establish declares
    · exact carries_establish declares

private theorem carries_connect :
    (connect registry : Action (Linking (Watched σ)) Unit).Carries (Stage registry start)
      (Confined registry start) := by
  have proceeds {keys : RelationKeys} (declares : start.Declares keys) : (do
      onSource saveIfNew
      onTarget saveIfNew
      linkSaved registry keys : Action (Linking (Watched σ)) Unit).Carries (Stage registry start)
        (Confined registry start) :=
    .then (carries_saveIfNew .source) (fun _ => .then (carries_saveIfNew .target)
      (fun _ => carries_linkSaved declares) confined_of_stage) confined_of_stage
  -- The check of a given through record stands before the same steps in both of its branches.
  rw [connect_eq]
  refine .bind_get fun l stage => .bind (carries_complementaryKeys _ _)
    (fun _ _ _ _ => gives_complementaryKeys stage) (fun keys declares => ?_) confined_of_stage
  dsimp only
  generalize (l.middle.isSome && !(keys.kind == .hasOneThrough || keys.kind == .hasManyThrough)) =
    refused
  cases refused with
  | true => exact .bind_ofExcept (fun _ _ => proceeds declares) confined_of_stage
  | false => exact proceeds declares

private theorem carries_disconnect :
    (disconnect registry : Action (Linking (Watched σ)) Unit).Carries (Stage registry start)
      (Confined registry start) := by
  refine .bind_get fun l stage => .bind_ofExcept (fun _ _ =>
    .bind_ofExcept (fun _ _ => ?_) confined_of_stage) confined_of_stage
  refine .bind (carries_complementaryKeys _ _) (fun _ _ _ _ => gives_complementaryKeys stage)
    (fun keys declares => .then (carries_count true) (fun n => ?_) confined_of_stage) confined_of_stage
  split
  · exact confined_of_stage
  · exact carries_release declares

omit [Connection σ] in
private theorem Confined.of_remembered {l : Linking (Watched σ)}
    (confined : Confined registry start l)
    (e : Error) : Confined registry start { l with source := Remembers.remember e l.source } where
  models := confined.models
  source := confined.source
  target := confined.target
  wrote := by
    refine confined.wrote.mono fun s place => ?_
    cases place with
    | source writes => exact .source (writes.congr rfl rfl)
    | target writes => exact .target writes
    | aside aside writes => exact .aside aside writes

omit [Connection σ] in
private theorem carries_remembering {action : Action (Linking (Watched σ)) α}
    (carries : action.Carries (Stage registry start) (Confined registry start)) :
    (remembering action).Carries (Stage registry start) (Confined registry start) := by
  intro l stage
  have confined := carries l stage
  rw [runOn_remembering]
  cases ran : action.runOn l with
  | mk outcome l' =>
      rw [ran] at confined
      cases outcome with
      | ok a => exact confined
      | error e => exact confined.of_remembered e

/-- Linking and unlinking write the rows of the two records, and to the table that connects them.
Only a given through record of another table is written where no relation says so. -/
theorem writes_confined (registry : Registry) (l : Linking (Watched σ)) :
    Confined registry l ((link registry).runOn l).2 ∧
      Confined registry l ((unlink registry).runOn l).2 :=
  ⟨carries_remembering carries_connect l (stage_refl registry l),
    carries_remembering carries_disconnect l (stage_refl registry l)⟩

end

/-! ## A through record of another table -/

def attended : Registry :=
  Example.Shop.registry.register "attendance" fun m =>
    (m.withField "student_id" .integer).withField "course_id" .integer

def misplaced : Linking (Watched Scripted) where
  source := { Record.ofModel {
    table := "student"
    fields := .ofList [("name", .text)]
    relations := [⟨.hasManyThrough, "course", { through := some "enrollment" }⟩] } with id := 1 }
  target := { Record.ofModel {
    table := "course"
    fields := .ofList [("title", .text)]
    relations := [⟨.hasManyThrough, "student", { through := some "enrollment" }⟩] } with id := 2 }
  middle := some (.ofModel {
    table := "attendance"
    fields := .ofList [("student_id", .integer), ("course_id", .integer)] })
  connection :=
    let shop := Example.Shop.describe { dialect := .postgresql, database := "shop" }
    { connection := shop.describe "attendance"
        (.ofList [("id", "int"), ("student_id", "int"), ("course_id", "int")]) }

private theorem eq_enrollment_of_connecting {table : String}
    (connects : misplaced.ConnectingTable attended table) : table = "enrollment" := by
  have only : misplaced.source.model.onlyKind misplaced.target.table = .ok .hasManyThrough := by
    decide +kernel
  have named {keys : RelationKeys} (declares : misplaced.Declares keys) :
      keys.kind = .hasManyThrough ∧ keys.throughTable = .ok "enrollment" := by
    obtain ⟨kind, known, keyed⟩ := declares
    obtain rfl := Except.ok.inj (only.symm.trans known)
    have read : (misplaced.source.model.relationKeys .hasManyThrough misplaced.target.table).map
        (fun keys => (keys.kind, keys.throughTable)) =
          .ok (.hasManyThrough, .ok "enrollment") := by
      decide +kernel
    rw [keyed] at read
    exact Prod.mk.inj (Except.ok.inj read)
  cases connects with
  | join declares kind found =>
      rw [(named declares).1] at kind
      cases kind
  | through declares kind found resolved =>
      obtain rfl := Except.ok.inj ((named declares).2.symm.trans found)
      have read : (attended.resolve (Name.normalize "enrollment")).map Model.table =
          .ok "enrollment" := by
        decide +kernel
      rw [resolved] at read
      exact Except.ok.inj read

/-- The link is made in a table that is neither of the two records nor connects them. -/
theorem link_written_elsewhere :
    ((link attended).runOn misplaced).1 = .ok () ∧
      ∃ i, .statement (.insert i) ∈ ((link attended).runOn misplaced).2.connection.sent ∧
        i.table ≠ misplaced.source.table ∧ i.table ≠ misplaced.target.table ∧
        ¬misplaced.ConnectingTable attended i.table := by
  have ran : ((link attended).runOn misplaced).1 = .ok () ∧
      (((link attended).runOn misplaced).2.connection.sent.filterMap Sent.insert?).map
        Insert.table = ["attendance"] := by
    decide +kernel
  have inserted := List.mem_singleton_self "attendance"
  rw [← ran.2] at inserted
  obtain ⟨i, member, here⟩ := List.mem_map.mp inserted
  obtain ⟨sent, held, read⟩ := List.mem_filterMap.mp member
  obtain rfl := Sent.insert?_eq_some_iff.mp read
  refine ⟨ran.1, i, held, ?_⟩
  rw [here]
  refine ⟨by decide, by decide, fun connects => ?_⟩
  exact absurd (eq_enrollment_of_connecting connects) (by decide)

end Linking

end RecordMapper
