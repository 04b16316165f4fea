import RecordMapper.Proofs.Record.Counted

/-!
The steps of linking and unlinking two records, taken apart: what each of them does to the records
and to the connection, and what it depends on.
-/

set_option autoImplicit false

namespace RecordMapper

/-! ## What linking leaves of a connection -/

namespace Action

variable {σ τ υ α : Type} {view : σ → υ}

theorem Keeps.get : (get : Action σ σ).Keeps view := fun _ => rfl

private theorem Keeps.tracked [Remembers τ] {operation : τ → Action σ (α × τ)}
    (kept : ∀ thing, (operation thing).Keeps view) :
    (tracked operation).Keeps fun state : τ × σ => view state.2 :=
  fun state => kept state.1 state.2

theorem Keeps.zoom {part : σ → τ} {put : τ → σ → σ} {inner : τ → υ} {action : Action τ α}
    (kept : action.Keeps inner) (reads : ∀ s t, view (put t s) = inner t)
    (writes : ∀ s, inner (part s) = view s) : (action.zoom part put).Keeps view := by
  intro s
  change view (put (action.runOn (part s)).2 s) = view s
  rw [reads, kept, writes]

end Action

/-! ## Questions about links -/

namespace Record

section

variable {σ : Type} [Connection σ] {holds : ∀ {α : Type}, Action σ α → Prop}
  (closed : Action.Closed (fun _ => True) holds)
  (selects : ∀ s, holds (Connection.run (.select s) : Action σ Response))
  (tables : ∀ table, holds (Connection.tableExists table : Action σ Bool))
  (columns : ∀ table, holds (Connection.columnsOfTable table : Action σ (OrderedMap String)))

include closed

include tables columns in
theorem closed_complementaryKeys (registry : Registry) (r other : Record) :
    holds (r.complementaryKeys registry other : Action σ RelationKeys) := by
  refine closed.bind (closed.ofExcept fun _ _ => trivial) fun kind =>
    closed.bind (closed.ofExcept fun _ _ => trivial) fun keys => ?_
  have settles (complementary : Bool) (cause : Cause) :
      holds (if complementary then pure keys else Action.fail cause : Action σ RelationKeys) := by
    cases complementary with
    | true => exact closed.pure _
    | false => exact closed.ofExcept fun _ _ => trivial
  split
  · exact closed.bind (closed.ofExcept fun _ _ => trivial) fun through =>
      closed.bind (Registry.closed_load closed tables columns registry through)
        fun middle => settles _ _
  · split
    · exact closed.ofExcept fun _ _ => trivial
    · exact settles _ _

include selects in
theorem closed_countLinks (r other : Record) (exact' : Bool) :
    holds (r.countLinks other exact' : Action σ UInt64) := by
  refine closed.bind (closed.ofExcept fun _ _ => trivial) fun kind =>
    closed.bind (closed.ofExcept fun _ _ => trivial) fun keys =>
      closed.bind (closed.ofExcept fun _ _ => trivial) fun query =>
        closed.bind (closed.bind (selects _) fun _ => closed.pure _) fun rows => ?_
  split
  · exact closed.pure _
  · exact closed.bind (closed.ofExcept fun _ _ => trivial) fun _ => closed.pure _

include selects tables columns in
theorem closed_middleRecords (registry : Registry) (r : Record) (keys : RelationKeys)
    (other : Option Record) :
    holds (r.middleRecords registry keys other : Action σ (List Record)) := by
  refine closed.bind (closed.ofExcept fun _ _ => trivial) fun through =>
    closed.bind (Registry.closed_load closed tables columns registry through) fun model =>
      closed.bind (closed.bind (selects _) fun _ => closed.pure _) fun rows =>
        closed.ofExcept fun _ _ => trivial

end

end Record

namespace Linking

/-! ## The two sides of a link -/

inductive Side where
  | source
  | target

namespace Side

def other : Side → Side
  | source => target
  | target => source

theorem forall_of (side : Side) {P : Side → Prop} (here : P side) (there : P side.other) :
    ∀ s, P s := by
  intro s
  cases side <;> cases s <;> assumption

end Side

section

variable {σ α : Type}

@[reducible] def record (l : Linking σ) : Side → Record
  | .source => l.source
  | .target => l.target

@[reducible] def put (l : Linking σ) (r : Record) (connection : σ) : Side → Linking σ
  | .source => { l with source := r, connection }
  | .target => { l with target := r, connection }

@[reducible] def onSide : Side → Action (Record × σ) α → Action (Linking σ) α
  | .source => onSource
  | .target => onTarget

variable (l : Linking σ) (r : Record) (c : σ) (side : Side)

theorem record_put_self : (l.put r c side).record side = r := by cases side <;> rfl

theorem record_put_other : (l.put r c side).record side.other = l.record side.other := by
  cases side <;> rfl

theorem middle_put : (l.put r c side).middle = l.middle := by cases side <;> rfl

theorem connection_put : (l.put r c side).connection = c := by cases side <;> rfl

end

variable {σ : Type} [Connection σ]

def linkSaved (registry : Registry) (keys : RelationKeys) : Action (Linking σ) Unit := do
  if 0 < (← count true) then return
  if keys.kind == .hasOne || keys.kind == .hasOneThrough then
    if 0 < (← count false) then
      Action.fail (.tooManyRecords
        ("\x60" ++ keys.source ++ "\x60 record " ++ toString (← get).source.id.toInt ++
          " already has one \x60" ++ keys.target ++ "\x60"))
  establish registry keys

theorem connect_eq (registry : Registry) :
    connect registry = (do
      let l ← get
      let keys ← onConnection (l.source.complementaryKeys registry l.target)
      if l.middle.isSome && !(keys.kind == .hasOneThrough || keys.kind == .hasManyThrough) then
        Action.fail (.invalidStatement
          (keys.kind.name ++ " relation from \x60" ++ keys.source ++ "\x60 to \x60" ++
            keys.target ++ "\x60 has no through record"))
      onSource saveIfNew
      onTarget saveIfNew
      linkSaved registry keys : Action (Linking σ) Unit) := rfl

end Linking

section

variable {σ τ : Type} [Connection σ] {view : σ → τ}
  (runs : ∀ statement, (Connection.run statement : Action σ Response).Keeps view)
  (reports : (Connection.lastInsertId : Action σ (Option Int64)).Keeps view)
  (tables : ∀ table, (Connection.tableExists table : Action σ Bool).Keeps view)
  (columns : ∀ table, (Connection.columnsOfTable table : Action σ (OrderedMap String)).Keeps view)

include runs reports in
private theorem Record.keeps_saved (r : Record) (id : Int64) :
    (r.saved id : Action σ Record).Keeps view :=
  Record.closed_saved (Action.Keeps.closed view) r id (fun statement _ => runs statement) reports
    (fun _ _ => trivial) trivial

include runs reports in
theorem Record.keeps_save :
    (Record.save : Action (Record × σ) Int64).Keeps fun state => view state.2 := by
  refine .bind .get fun state => ?_
  exact .tracked fun r => .bind (Record.keeps_saved runs reports r _) fun _ => .pure _

namespace Linking

omit [Connection σ] in
theorem keeps_setColumn (column : String) (value : Value) :
    (setColumn column value : Action (Record × σ) Unit).Keeps fun state => view state.2 :=
  fun _ => rfl

include runs reports in
theorem keeps_saveIfNew :
    (saveIfNew : Action (Record × σ) Unit).Keeps fun state => view state.2 := by
  refine .bind .get fun state => ?_
  obtain ⟨r, c⟩ := state
  dsimp only
  split
  · exact .bind (Record.keeps_save runs reports) fun _ => .pure _
  · exact .pure _

include runs reports in
private theorem keeps_store (column : String) (value : Value) :
    (store column value : Action (Record × σ) Unit).Keeps fun state => view state.2 :=
  .bind (keeps_setColumn column value) fun _ =>
    .bind (Record.keeps_save runs reports) fun _ => .pure _

section

variable {α : Type}

omit [Connection σ] in
theorem keeps_onConnection {action : Action σ α} (kept : action.Keeps view) :
    (onConnection action).Keeps fun l : Linking σ => view l.connection :=
  .zoom kept (fun _ _ => rfl) fun _ => rfl

omit [Connection σ] in
theorem keeps_onSide (side : Side) {action : Action (Record × σ) α}
    (kept : action.Keeps fun state => view state.2) :
    (onSide side action).Keeps fun l : Linking σ => view l.connection := by
  cases side with
  | source => exact .zoom kept (fun _ _ => rfl) fun _ => rfl
  | target => exact .zoom kept (fun _ _ => rfl) fun _ => rfl

include tables columns in
private theorem keeps_onMiddle (registry : Registry) (through : String)
    {action : Action (Record × σ) α}
    (kept : action.Keeps fun state => view state.2) :
    (onMiddle registry through action).Keeps fun l : Linking σ => view l.connection := by
  refine .bind .get fun l => ?_
  cases l.middle with
  | some middle => exact .bind (.pure _) fun _ => .zoom kept (fun _ _ => rfl) fun _ => rfl
  | none =>
      refine .bind (keeps_onConnection ?_) fun _ => .zoom kept (fun _ _ => rfl) fun _ => rfl
      exact .bind (Registry.keeps_load tables columns registry through) fun _ => .pure _

end

include tables columns in
theorem keeps_complementaryKeys (registry : Registry) (r other : Record) :
    (r.complementaryKeys registry other : Action σ RelationKeys).Keeps view :=
  Record.closed_complementaryKeys (Action.Keeps.closed view) tables columns registry r other

include runs in
theorem keeps_count (exact' : Bool) :
    (count exact' : Action (Linking σ) UInt64).Keeps fun l => view l.connection :=
  .bind .get fun l => keeps_onConnection
    (Record.closed_countLinks (Action.Keeps.closed view) (fun _ => runs _) l.source l.target exact')

include runs reports tables columns in
private theorem keeps_establish (registry : Registry) (keys : RelationKeys) :
    (establish registry keys : Action (Linking σ) Unit).Keeps fun l => view l.connection := by
  have stores (column : String) (value : Value) := keeps_store runs reports column value
  refine .bind .get fun l => ?_
  cases keys.kind with
  | belongsTo => exact keeps_onSide .source (stores _ _)
  | hasOne => exact keeps_onSide .target (stores _ _)
  | hasMany => exact keeps_onSide .target (stores _ _)
  | hasOneThrough =>
      refine .bind (.ofExcept _) fun through => .bind ?_ fun held => keeps_onSide .target (stores _ _)
      exact keeps_onMiddle tables columns registry through
        (.bind (stores _ _) fun _ => .bind .get fun _ => .pure _)
  | hasManyThrough =>
      refine .bind (.ofExcept _) fun through => ?_
      exact keeps_onMiddle tables columns registry through
        (.bind (keeps_setColumn _ _) fun _ => stores _ _)
  | hasAndBelongsToMany =>
      exact .bind (.ofExcept _) fun join =>
        .bind (keeps_onConnection (runs _)) fun _ => .pure _

include runs reports tables columns in
private theorem keeps_linkSaved (registry : Registry) (keys : RelationKeys) :
    (linkSaved registry keys : Action (Linking σ) Unit).Keeps fun l => view l.connection := by
  have counts (exact' : Bool) := keeps_count runs exact'
  have establishes := keeps_establish runs reports tables columns registry keys
  refine .bind (counts true) fun n => ?_
  split
  · exact .pure _
  · split
    · refine .bind (counts false) fun n => ?_
      split
      · exact .bind .get fun _ => .bind (.ofExcept _) fun _ => establishes
      · exact establishes
    · exact establishes

include runs reports tables columns in
theorem keeps_connect (registry : Registry) :
    (connect registry : Action (Linking σ) Unit).Keeps fun l => view l.connection := by
  have saves := keeps_saveIfNew runs reports
  have proceeds (keys : RelationKeys) : (do
      onSource saveIfNew
      onTarget saveIfNew
      linkSaved registry keys : Action (Linking σ) Unit).Keeps fun l => view l.connection :=
    .bind (keeps_onSide .source saves) fun _ => .bind (keeps_onSide .target saves) fun _ =>
      keeps_linkSaved runs reports tables columns registry keys
  rw [connect_eq]
  refine .bind .get fun l =>
    .bind (keeps_onConnection (keeps_complementaryKeys tables columns _ _ _)) fun keys => ?_
  dsimp only
  generalize (l.middle.isSome && !(keys.kind == .hasOneThrough || keys.kind == .hasManyThrough)) =
    refused
  cases refused with
  | true => exact .bind (.ofExcept _) fun _ => proceeds keys
  | false => exact proceeds keys

end Linking

end

/-! ## Runs of linking -/

/-- Links are counted by one statement, about the keys of the one relation that is declared. -/
theorem Record.countLinks_eq_ok {σ : Type} [Connection σ] {r other : Record} {exact' : Bool}
    {n : UInt64} {c c' : σ} (ran : (r.countLinks other exact').runOn c = (.ok n, c')) :
    ∃ kind keys query, r.model.onlyKind other.table = .ok kind ∧
      r.model.relationKeys kind other.table = .ok keys ∧
      r.linkQuery other keys exact' = .ok query ∧
      (Connection.runCount query).runOn c = (.ok n, c') := by
  unfold countLinks at ran
  obtain ⟨kind, _, only, ran⟩ := Action.runOn_bind_eq_ok.mp ran
  obtain ⟨known, rfl⟩ := Prod.mk.inj ((Action.runOn_ofExcept _ _).symm.trans only)
  obtain ⟨keys, _, resolved, ran⟩ := Action.runOn_bind_eq_ok.mp ran
  obtain ⟨named, rfl⟩ := Prod.mk.inj ((Action.runOn_ofExcept _ _).symm.trans resolved)
  obtain ⟨query, _, asked, ran⟩ := Action.runOn_bind_eq_ok.mp ran
  obtain ⟨compiled, rfl⟩ := Prod.mk.inj ((Action.runOn_ofExcept _ _).symm.trans asked)
  exact ⟨kind, keys, query, known, named, compiled, ran⟩

theorem Record.runOn_countLinks {σ : Type} [Connection σ] {r other : Record} {kind : RelationKind}
    {keys : RelationKeys} {exact' : Bool} {query : Select}
    (only : r.model.onlyKind other.table = .ok kind)
    (named : r.model.relationKeys kind other.table = .ok keys)
    (asked : r.linkQuery other keys exact' = .ok query) (c : σ) :
    (r.countLinks other exact').runOn c = (Connection.runCount query).runOn c := by
  unfold countLinks
  rw [only, Action.runOn_bind_ok (Action.runOn_ofExcept _ _), named,
    Action.runOn_bind_ok (Action.runOn_ofExcept _ _), asked,
    Action.runOn_bind_ok (Action.runOn_ofExcept _ _)]

/-- The records between two others are read from the rows of the through table. -/
theorem Record.steps_of_middleRecords {σ : Type} [Connection σ] {registry : Registry}
    {keys : RelationKeys} {r : Record} {other : Option Record} {middles : List Record} {c c' : σ}
    (ran : (r.middleRecords registry keys other).runOn c = (.ok middles, c')) :
    ∃ through m between rows, keys.throughTable = .ok through ∧
      (registry.load through).runOn c = (.ok m, between) ∧
      (Connection.runQuery {
        returning := [.wildcard none]
        tables := [through]
        filter := some (match other with
          | some other => .conj
            (.eq (.column (.of through keys.sourceKey)) (.value (r.keyValue keys.sourceId)))
            (.eq (.column (.of through keys.targetKey)) (.value (other.keyValue keys.targetId)))
          | none =>
            .eq (.column (.of through keys.sourceKey)) (.value (r.keyValue keys.sourceId)))
          }).runOn between = (.ok rows, c') ∧
      ofRows m rows = .ok middles := by
  obtain ⟨through, _, first, ran⟩ := Action.runOn_bind_eq_ok.mp ran
  obtain ⟨found, rfl⟩ := Prod.mk.inj ((Action.runOn_ofExcept _ _).symm.trans first)
  obtain ⟨m, between, loaded, ran⟩ := Action.runOn_bind_eq_ok.mp ran
  obtain ⟨rows, _, asked, ran⟩ := Action.runOn_bind_eq_ok.mp ran
  obtain ⟨made, rfl⟩ := Prod.mk.inj ((Action.runOn_ofExcept _ _).symm.trans ran)
  exact ⟨through, m, between, rows, found, loaded, asked, made⟩

namespace Linking

variable {σ α : Type} {l l' : Linking σ}

theorem runOn_onConnection (action : Action σ α) (l : Linking σ) :
    (onConnection action).runOn l =
      ((action.runOn l.connection).1,
        { l with connection := (action.runOn l.connection).2 }) := rfl

theorem runOn_onSide (side : Side) (action : Action (Record × σ) α) (l : Linking σ) :
    (onSide side action).runOn l =
      ((action.runOn (l.record side, l.connection)).1,
        l.put (action.runOn (l.record side, l.connection)).2.1
          (action.runOn (l.record side, l.connection)).2.2 side) := by
  cases side <;> rfl

theorem onConnection_eq_ok {action : Action σ α} {a : α}
    (ran : (onConnection action).runOn l = (.ok a, l')) :
    action.runOn l.connection = (.ok a, l'.connection) ∧
      l' = { l with connection := l'.connection } := by
  obtain ⟨answered, rfl⟩ := Prod.mk.inj ((runOn_onConnection action l).symm.trans ran)
  exact ⟨Prod.ext answered rfl, rfl⟩

theorem onSide_eq_ok (side : Side) {action : Action (Record × σ) α} {a : α}
    (ran : (onSide side action).runOn l = (.ok a, l')) :
    action.runOn (l.record side, l.connection) = (.ok a, (l'.record side, l'.connection)) ∧
      l' = l.put (l'.record side) l'.connection side := by
  obtain ⟨answered, rfl⟩ := Prod.mk.inj ((runOn_onSide side action l).symm.trans ran)
  cases side with
  | source => exact ⟨Prod.ext answered rfl, rfl⟩
  | target => exact ⟨Prod.ext answered rfl, rfl⟩

theorem runOn_remembering (action : Action (Linking σ) α) (l : Linking σ) :
    (remembering action).runOn l =
      match action.runOn l with
      | (.ok a, l) => (.ok a, l)
      | (.error e, l) => (.error e, { l with source := Remembers.remember e l.source }) := by
  unfold remembering Action.runOn
  simp only [tryCatch, tryCatchThe, MonadExceptOf.tryCatch, ExceptT.tryCatch, ExceptT.run,
    ExceptT.mk, StateT.run, bind, StateT.bind]
  cases action l with
  | mk outcome l => cases outcome <;> rfl

/-- An operation that remembers its error succeeds as it does without. -/
theorem remembering_eq_ok_iff {action : Action (Linking σ) α} {a : α} :
    (remembering action).runOn l = (.ok a, l') ↔ action.runOn l = (.ok a, l') := by
  rw [runOn_remembering]
  cases action.runOn l with
  | mk outcome l => cases outcome <;> simp

variable [Connection σ] {registry : Registry}

/-- The through record of an operation is the given one, or one that is made for it. -/
theorem onMiddle_eq_ok {through : String} {action : Action (Record × σ) α} {a : α}
    (ran : (onMiddle registry through action).runOn l = (.ok a, l')) :
    ∃ middle between middle',
      (l.middle = some middle ∧ between = l.connection ∨
        l.middle = none ∧ (registry.create through).runOn l.connection = (.ok middle, between)) ∧
      action.runOn (middle, between) = (.ok a, (middle', l'.connection)) ∧
      l' = { l with middle := some middle', connection := l'.connection } := by
  have acts {middle : Record} {connection : σ}
      (ran : (action.zoom (fun l : Linking σ => (middle, l.connection))
        fun acted l => { l with middle := some acted.1, connection := acted.2 }).runOn
          { l with connection } = (.ok a, l')) :
      ∃ middle', action.runOn (middle, connection) = (.ok a, (middle', l'.connection)) ∧
        l' = { l with middle := some middle', connection := l'.connection } := by
    have ran : ((action.runOn (middle, connection)).1,
        { l with middle := some (action.runOn (middle, connection)).2.1
                 connection := (action.runOn (middle, connection)).2.2 }) = (.ok a, l') := ran
    obtain ⟨answered, rfl⟩ := Prod.mk.inj ran
    exact ⟨_, Prod.ext answered rfl, rfl⟩
  unfold onMiddle at ran
  rw [Action.runOn_bind_ok (Action.runOn_get l)] at ran
  cases given : l.middle with
  | some middle =>
      simp only [given, pure_bind] at ran
      obtain ⟨middle', acted, same⟩ := acts ran
      exact ⟨middle, l.connection, middle', .inl ⟨rfl, rfl⟩, acted, same⟩
  | none =>
      simp only [given] at ran
      obtain ⟨middle, between, created, rest⟩ := Action.runOn_bind_eq_ok.mp ran
      obtain ⟨created, same⟩ := onConnection_eq_ok created
      rw [same] at rest
      obtain ⟨middle', acted, same'⟩ := acts rest
      exact ⟨middle, between.connection, middle', .inr ⟨rfl, created⟩, acted, same'⟩

/-- A count of links runs the statement that the relation between the records has for it. -/
theorem count_eq_ok {exact' : Bool} {n : UInt64} (ran : (count exact').runOn l = (.ok n, l')) :
    ∃ kind keys query, l.source.model.onlyKind l.target.table = .ok kind ∧
      l.source.model.relationKeys kind l.target.table = .ok keys ∧
      l.source.linkQuery l.target keys exact' = .ok query ∧
      (Connection.runCount query).runOn l.connection = (.ok n, l'.connection) ∧
      l' = { l with connection := l'.connection } := by
  unfold count at ran
  rw [Action.runOn_bind_ok (Action.runOn_get l)] at ran
  obtain ⟨counted, same⟩ := onConnection_eq_ok ran
  obtain ⟨kind, keys, query, known, named, compiled, counted⟩ := Record.countLinks_eq_ok counted
  exact ⟨kind, keys, query, known, named, compiled, counted, same⟩

/-- What linking does before it writes keys, and whether it writes any. -/
theorem connect_eq_ok (ran : (connect registry).runOn l = (.ok (), l')) :
    ∃ keys asked first second counted n,
      (onConnection (l.source.complementaryKeys registry l.target)).runOn l = (.ok keys, asked) ∧
      (onSource saveIfNew).runOn asked = (.ok (), first) ∧
      (onTarget saveIfNew).runOn first = (.ok (), second) ∧
      (count true).runOn second = (.ok n, counted) ∧
      (0 < n ∧ l' = counted ∨
        ¬0 < n ∧ ∃ checked,
          (checked = counted ∧ keys.kind ≠ .hasOne ∨
            ∃ m, (count false).runOn counted = (.ok m, checked) ∧ ¬0 < m) ∧
          (establish registry keys).runOn checked = (.ok (), l')) := by
  unfold connect at ran
  rw [Action.runOn_bind_ok (Action.runOn_get l)] at ran
  obtain ⟨keys, asked, resolved, ran⟩ := Action.runOn_bind_eq_ok.mp ran
  dsimp only at ran
  generalize (l.middle.isSome && !(keys.kind == .hasOneThrough || keys.kind == .hasManyThrough)) =
    refused at ran
  cases refused with
  | true => cases ran
  | false =>
      obtain ⟨_, first, saved, ran⟩ := Action.runOn_bind_eq_ok.mp ran
      obtain ⟨_, second, saved', ran⟩ := Action.runOn_bind_eq_ok.mp ran
      obtain ⟨n, counted, exact', ran⟩ := Action.runOn_bind_eq_ok.mp ran
      refine ⟨keys, asked, first, second, counted, n, resolved, saved, saved', exact', ?_⟩
      split at ran
      · rename_i linked
        cases ran
        exact .inl ⟨linked, rfl⟩
      · rename_i unlinked
        refine .inr ⟨unlinked, ?_⟩
        split at ran
        · obtain ⟨m, checked, any, ran⟩ := Action.runOn_bind_eq_ok.mp ran
          split at ran
          · obtain ⟨_, _, _, ran⟩ := Action.runOn_bind_eq_ok.mp ran
            obtain ⟨_, _, failed, _⟩ := Action.runOn_bind_eq_ok.mp ran
            cases failed
          · rename_i none
            exact ⟨checked, .inr ⟨m, any, none⟩, ran⟩
        · rename_i many
          refine ⟨counted, .inl ⟨rfl, fun kind => many ?_⟩, ran⟩
          rw [kind]
          rfl

omit [Connection σ] in
private theorem runOn_onSide_idle (side : Side) {action : Action (Record × σ) α} {a : α}
    (idle : action.runOn (l.record side, l.connection) =
      (.ok a, (l.record side, l.connection))) :
    (onSide side action).runOn l = (.ok a, l) := by
  rw [runOn_onSide, idle]
  cases side <;> rfl

theorem runOn_saveIfNew_of_persisted {r : Record} (persisted : 0 < r.id) (c : σ) :
    (saveIfNew : Action (Record × σ) Unit).runOn (r, c) = (.ok (), (r, c)) := by
  unfold saveIfNew
  rw [Action.runOn_bind_ok (Action.runOn_get (r, c))]
  simp only [Record.isPersisted, persisted, decide_true, Bool.not_true]
  rfl

/-- Linked records that are saved are counted and left as they are. -/
theorem connect_of_linked {keys : RelationKeys} {c : σ} {n : UInt64}
    (resolved : (l.source.complementaryKeys registry l.target).runOn l.connection = (.ok keys, c))
    (between : l.middle.isSome = true → keys.kind = .hasOneThrough ∨ keys.kind = .hasManyThrough)
    (persisted : 0 < l.source.id) (persisted' : 0 < l.target.id)
    (ran : (count true).runOn { l with connection := c } = (.ok n, l')) (linked : 0 < n) :
    (connect registry).runOn l = (.ok (), l') := by
  have resolved' : (onConnection (l.source.complementaryKeys registry l.target)).runOn l =
      (.ok keys, { l with connection := c }) := by
    rw [runOn_onConnection, resolved]
  have accepted : (l.middle.isSome &&
      !(keys.kind == .hasOneThrough || keys.kind == .hasManyThrough)) = false := by
    cases given : l.middle.isSome with
    | false => rfl
    | true => rcases between given with kind | kind <;> rw [kind] <;> rfl
  have first := runOn_onSide_idle .source (l := { l with connection := c })
    (runOn_saveIfNew_of_persisted persisted c)
  have second := runOn_onSide_idle .target (l := { l with connection := c })
    (runOn_saveIfNew_of_persisted persisted' c)
  unfold connect
  rw [Action.runOn_bind_ok (Action.runOn_get l), Action.runOn_bind_ok resolved']
  simp only [accepted]
  refine (Action.runOn_bind_ok first).trans ((Action.runOn_bind_ok second).trans
    ((Action.runOn_bind_ok ran).trans ?_))
  rw [if_pos linked]
  rfl

end Linking

/-! ## What the keys of a relation depend on -/

section

variable {σ : Type} [Connection σ] {engine : Engine} {output : Output} {key : String → String}
  {held : σ → Database} (law : Connection.Executes σ engine output key held)

include law in
/-- A model is the same as long as the schema is. -/
theorem Registry.readsOnly_load (registry : Registry) (table : String) :
    (registry.load table : Action σ Model).ReadsOnly Connection.schema := by
  have tables (name : String) :
      (Connection.hasTable name : Action σ Bool).ReadsOnly Connection.schema := by
    unfold Connection.hasTable
    dsimp only
    split
    · exact fun _ _ same => congrFun (congrArg Prod.fst same) _
    · exact .pure _
  have columns (name : String) :
      (Connection.columnsOfTable name : Action σ (OrderedMap String)).ReadsOnly
        Connection.schema := fun _ _ same => congrFun (congrArg Prod.snd same) _
  refine .bind (.ofExcept _) (.ofExcept _) fun model =>
    .bind (tables _) (Connection.keeps_hasTable law.schema_tableExists _) fun present => ?_
  split
  · split
    · exact .bind (columns _) (law.schema_columnsOfTable _) fun _ => .pure _
    · exact .pure _
  · exact .throw _

namespace Record

include law in
theorem readsOnly_complementaryKeys (registry : Registry) (r other : Record) :
    (r.complementaryKeys registry other : Action σ RelationKeys).ReadsOnly Connection.schema := by
  refine .bind (.ofExcept _) (.ofExcept _) fun kind =>
    .bind (.ofExcept _) (.ofExcept _) fun keys => ?_
  have settles (complementary : Bool) (cause : Cause) :
      (if complementary then pure keys else Action.fail cause : Action σ RelationKeys).ReadsOnly
        Connection.schema := by
    cases complementary with
    | true => exact .pure _
    | false => exact .ofExcept _
  split
  · exact .bind (.ofExcept _) (.ofExcept _) fun through =>
      .bind (Registry.readsOnly_load law registry through)
        (Registry.keeps_load law.schema_tableExists law.schema_columnsOfTable registry through)
        fun middle => settles _ _
  · split
    · exact .ofExcept _
    · exact settles _ _

/-- The keys of a relation between two records are those between their models. -/
theorem complementaryKeys_congr (registry : Registry) {r r' other other' : Record}
    (source : r.model = r'.model) (target : other.model = other'.model) :
    (r.complementaryKeys registry other : Action σ RelationKeys) =
      r'.complementaryKeys registry other' := by
  unfold complementaryKeys table
  rw [source, target]

theorem complementaryKeys_eq_ok {registry : Registry} {r other : Record} {c c' : σ}
    {keys : RelationKeys}
    (ran : (r.complementaryKeys registry other).runOn c = (.ok keys, c')) :
    ∃ kind, r.model.onlyKind other.table = .ok kind ∧
      r.model.relationKeys kind other.table = .ok keys := by
  obtain ⟨kind, _, only, rest⟩ := Action.runOn_bind_eq_ok.mp ran
  obtain ⟨known, rfl⟩ := Prod.mk.inj ((Action.runOn_ofExcept _ _).symm.trans only)
  obtain ⟨keys', _, resolved, rest⟩ := Action.runOn_bind_eq_ok.mp rest
  obtain ⟨named, rfl⟩ := Prod.mk.inj ((Action.runOn_ofExcept _ _).symm.trans resolved)
  have settled {complementary : Bool} {cause : Cause} {s s' : σ}
      (ran : (if complementary then pure keys' else Action.fail cause : Action σ _).runOn s =
        (.ok keys, s')) : keys' = keys := by
    cases complementary with
    | true => exact Except.ok.inj (Prod.mk.inj ran).1
    | false => cases ran
  refine ⟨kind, known, ?_⟩
  suffices keys' = keys from this ▸ named
  split at rest
  · obtain ⟨through, _, first, rest⟩ := Action.runOn_bind_eq_ok.mp rest
    obtain ⟨middle, _, loaded, rest⟩ := Action.runOn_bind_eq_ok.mp rest
    exact settled rest
  · split at rest
    · cases rest
    · exact settled rest

end Record

end

end RecordMapper
