import RecordMapper.Example.Store
import RecordMapper.Proofs.Database.Watched
import RecordMapper.Proofs.Record.Linking
import RecordMapper.Proofs.Record.Saved
import RecordMapper.Proofs.Schema.Hop

/-!
Links that are refused. What the declarations alone refuse is refused before anything is sent; what
depends on the links that there are is refused after the records of the pair are saved.
-/

set_option autoImplicit false

namespace RecordMapper

/-! ## What fails without being a refusal -/

section

variable {σ : Type} [Connection σ]

namespace Record

private theorem fails_of_storedValues {r : Record} {e : Error}
    (failed : r.storedValues = .error e) :
    e.Fails := by
  obtain ⟨_, _, _, _, _, converted⟩ := exists_of_storedValues_eq_error failed
  exact FieldType.fails_of_toDatabase converted

private theorem fails_of_assigned {r : Record} {column : String} {value : Value} {e : Error}
    (failed : r.assigned column value = .error e) : e.Fails := by
  unfold assigned at failed
  split at failed
  · rcases bind_eq_error.mp failed with read | ⟨_, _, failed⟩
    · exact Value.fails_of_toInt64 read
    · cases failed
  · split at failed
    · cases failed
      rfl
    · cases failed

private theorem failsOnly_saved (r : Record) (id : Int64) :
    (r.saved id : Action (Watched σ) Record).FailsOnly Watched.failed Error.Fails :=
  closed_saved (Action.FailsOnly.closed _ _) r id (fun _ _ => Watched.failsOnly_run _ _)
    (Watched.failsOnly_ask _ _) (fun _ => fails_of_storedValues) rfl

/-- What a record writes to be there: nothing if it is saved, and otherwise one new row. -/
def Inserts (r : Record) (statements : List Sent) : Prop :=
  if 0 < r.id then statements = []
  else ∃ values, r.storedValues = .ok values ∧
    statements = [.statement (.insert { table := r.table, columns := values })]

end Record

namespace Linking

variable {registry : Registry} {r r' : Record} {c c' : Watched σ} {e : Error}

theorem failsOnly_save :
    (Record.save : Action (Record × Watched σ) Int64).FailsOnly (fun state => state.2.failed)
      Error.Fails := by
  refine .bind .get fun state => ?_
  exact .tracked fun r => .bind (Record.failsOnly_saved r _) fun _ => .pure _

omit [Connection σ] in
theorem failsOnly_setColumn (column : String) (value : Value) :
    (setColumn column value : Action (Record × Watched σ) Unit).FailsOnly
      (fun state => state.2.failed) Error.Fails := by
  rintro ⟨r, c⟩ calm
  refine ⟨calm, fun e failed => ?_⟩
  have failed : (r.set column value).1 = .error e := failed
  cases outcome : r.assigned column value with
  | ok r' =>
      rw [Record.set, outcome] at failed
      cases failed
  | error e' =>
      rw [Record.set, outcome] at failed
      cases failed
      exact Record.fails_of_assigned outcome

private theorem failsOnly_saveIfNew :
    (saveIfNew : Action (Record × Watched σ) Unit).FailsOnly (fun state => state.2.failed)
      Error.Fails := by
  refine .bind .get fun state => ?_
  obtain ⟨r, c⟩ := state
  dsimp only
  split
  · exact .bind failsOnly_save fun _ => .pure _
  · exact .pure _

private theorem failsOnly_store (column : String) (value : Value) :
    (store column value : Action (Record × Watched σ) Unit).FailsOnly (fun state => state.2.failed)
      Error.Fails :=
  .bind (failsOnly_setColumn column value) fun _ => .bind failsOnly_save fun _ => .pure _

/-- A record that is saved as new has sent its insertion, and nothing else. -/
theorem sent_saveIfNew (ran : (saveIfNew : Action (Record × Watched σ) Unit).runOn (r, c) =
      (.ok (), (r', c'))) :
    r'.model = r.model ∧ ∃ inserted, r.Inserts inserted ∧ c'.sent = inserted ++ c.sent := by
  unfold saveIfNew at ran
  rw [Action.runOn_bind_ok (Action.runOn_get (r, c))] at ran
  by_cases persisted : 0 < r.id
  · simp only [Record.isPersisted, persisted, decide_true, Bool.not_true] at ran
    cases ran
    exact ⟨rfl, [], by rw [Record.Inserts, if_pos persisted], rfl⟩
  · simp only [Record.isPersisted, persisted, decide_false, Bool.not_false, if_true] at ran
    obtain ⟨id, ⟨r'', c''⟩, saved, returned⟩ := Action.runOn_bind_eq_ok.mp ran
    cases returned
    obtain ⟨values, response, between, id', stored, executed, asked, rfl⟩ :=
      Record.saved_eq_ok_of_new persisted (Record.saved_of_save saved)
    refine ⟨rfl, [.statement (.insert { table := r.table, columns := values })], ?_, ?_⟩
    · rw [Record.Inserts, if_neg persisted]
      exact ⟨values, stored, rfl⟩
    · have sent := Watched.sent_run (.insert { table := r.table, columns := values }) c
      have kept := Watched.keeps_ask (Connection.lastInsertId : Action σ (Option Int64)) between
      rw [executed] at sent
      rw [show Watched.ask Connection.lastInsertId = Connection.lastInsertId from rfl, asked] at kept
      exact kept.trans sent

/-! ## Counting and writing links -/

variable {l l' : Linking (Watched σ)} {keys : RelationKeys}

private theorem failsOnly_onMiddle (through : String) {α : Type}
    {action : Action (Record × Watched σ) α}
    (only : action.FailsOnly (fun state => state.2.failed) Error.Fails) :
    (onMiddle registry through action).FailsOnly (fun l => l.connection.failed) Error.Fails := by
  refine .bind .get fun l => ?_
  have acts (middle : Record) : (action.zoom (fun l : Linking (Watched σ) => (middle, l.connection))
      fun acted l => { l with middle := some acted.1, connection := acted.2 }).FailsOnly
        (fun l => l.connection.failed) Error.Fails :=
    .zoom only (fun _ _ => rfl) fun _ => rfl
  cases l.middle with
  | some middle => exact .bind (.pure _) acts
  | none =>
      refine .bind ?_ acts
      exact .zoom (.bind (Registry.failsOnly_load registry through) fun _ => .pure _)
        (fun _ _ => rfl) fun _ => rfl

/-- With its table between at hand, linking does not refuse to write the keys of a relation. -/
theorem failsOnly_establish
    (reached : keys.kind = .hasOneThrough ∨ keys.kind = .hasManyThrough ∨
      keys.kind = .hasAndBelongsToMany → ∃ table, keys.throughTable = .ok table) :
    (establish registry keys : Action (Linking (Watched σ)) Unit).FailsOnly
      (fun l => l.connection.failed) Error.Fails := by
  have stores (column : String) (value : Value) := failsOnly_store (σ := σ) column value
  refine .bind .get fun l => ?_
  cases kind : keys.kind with
  | belongsTo => exact .zoom (stores _ _) (fun _ _ => rfl) fun _ => rfl
  | hasOne => exact .zoom (stores _ _) (fun _ _ => rfl) fun _ => rfl
  | hasMany => exact .zoom (stores _ _) (fun _ _ => rfl) fun _ => rfl
  | hasOneThrough =>
      obtain ⟨table, found⟩ := reached (.inl kind)
      rw [found]
      refine .bind (.pure _) fun through => .bind ?_ fun held =>
        .zoom (stores _ _) (fun _ _ => rfl) fun _ => rfl
      exact failsOnly_onMiddle through (.bind (stores _ _) fun _ => .bind .get fun _ => .pure _)
  | hasManyThrough =>
      obtain ⟨table, found⟩ := reached (.inr (.inl kind))
      rw [found]
      refine .bind (.pure _) fun through => ?_
      exact failsOnly_onMiddle through (.bind (failsOnly_setColumn _ _) fun _ => stores _ _)
  | hasAndBelongsToMany =>
      obtain ⟨table, found⟩ := reached (.inr (.inr kind))
      rw [found]
      refine .bind (.pure _) fun through => .bind ?_ fun _ => .pure _
      exact .zoom (Watched.failsOnly_run _ _) (fun _ _ => rfl) fun _ => rfl

/-! ## Refusals -/

def unreachable (keys : RelationKeys) : Error :=
  .of (.relationMismatch (keys.kind.name ++ " relation from \x60" ++ keys.source ++ "\x60 to \x60" ++
    keys.target ++ "\x60 declares no through table"))

def alreadyHasOne (keys : RelationKeys) (id : Int64) : Error :=
  .of (.tooManyRecords ("\x60" ++ keys.source ++ "\x60 record " ++ toString id.toInt ++
    " already has one \x60" ++ keys.target ++ "\x60"))

omit [Connection σ] in
theorem throughTable_eq_error (missing : keys.throughTable = .error e) :
    keys.through = none ∧ e = unreachable keys := by
  unfold RelationKeys.throughTable at missing
  split at missing
  · cases missing
  · rename_i absent
    cases missing
    exact ⟨absent, rfl⟩

def ByThrough (kind : RelationKind) : Prop :=
  kind = .hasOneThrough ∨ kind = .hasManyThrough ∨ kind = .hasAndBelongsToMany

omit [Connection σ] in
theorem linkQuery_of_byThrough {other : Record} {exact' : Bool} (between : ByThrough keys.kind) :
    ∃ query : String → Select, r.linkQuery other keys exact' = keys.throughTable.map query := by
  unfold Record.linkQuery
  rcases between with kind | kind | kind
  all_goals
    rw [kind]
    cases keys.throughTable with
    | error e => exact ⟨fun _ => {}, rfl⟩
    | ok table => exact ⟨fun _ => _, rfl⟩

omit [Connection σ] in
private theorem linkQuery_of_direct {other : Record} {exact' : Bool}
    (direct : ¬ ByThrough keys.kind) :
    ∃ query, r.linkQuery other keys exact' = .ok query := by
  unfold Record.linkQuery
  cases kind : keys.kind with
  | belongsTo | hasOne | hasMany => exact ⟨_, rfl⟩
  | hasOneThrough => exact absurd (.inl kind) direct
  | hasManyThrough => exact absurd (.inr (.inl kind)) direct
  | hasAndBelongsToMany => exact absurd (.inr (.inr kind)) direct

omit [Connection σ] in
/-- Links can be counted unless a table between is needed and not declared. -/
theorem linkQuery_eq_error {other : Record} {exact' : Bool}
    (failed : r.linkQuery other keys exact' = .error e) :
    ByThrough keys.kind ∧ keys.through = none ∧ e = unreachable keys := by
  by_cases between : ByThrough keys.kind
  · obtain ⟨query, same⟩ := linkQuery_of_byThrough between
    rw [same] at failed
    cases missing : keys.throughTable with
    | ok table =>
        rw [missing] at failed
        cases failed
    | error e' =>
        rw [missing] at failed
        cases failed
        exact ⟨between, throughTable_eq_error missing⟩
  · obtain ⟨query, same⟩ := linkQuery_of_direct between
    rw [same] at failed
    cases failed

omit [Connection σ] in
theorem throughTable_of_linkQuery {other : Record} {exact' : Bool} {query : Select}
    (asked : r.linkQuery other keys exact' = .ok query) (between : ByThrough keys.kind) :
    ∃ table, keys.throughTable = .ok table := by
  obtain ⟨query', same⟩ := linkQuery_of_byThrough between
  rw [same] at asked
  cases found : keys.throughTable with
  | ok table => exact ⟨table, rfl⟩
  | error e =>
      rw [found] at asked
      cases asked

omit [Connection σ] in
private theorem through_of_hasAndBelongsToMany {m : Model} {target : String}
    (declared : m.relationKeys .hasAndBelongsToMany target = .ok keys) : keys.through ≠ none := by
  unfold Model.relationKeys at declared
  dsimp only at declared
  split at declared <;> cases declared
  nofun

def Unrelated (e : Error) : Prop := ∀ detail, e.cause ≠ .tooManyRecords detail

omit [Connection σ] in
private theorem unrelated_of_onlyKind {m : Model} {target : String}
    (failed : m.onlyKind target = .error e) :
    Unrelated e := by
  unfold Model.onlyKind at failed
  dsimp only at failed
  split at failed <;> cases failed <;> exact nofun

omit [Connection σ] in
private theorem unrelated_of_relationKeys {m : Model} {kind : RelationKind} {target : String}
    (failed : m.relationKeys kind target = .error e) : Unrelated e := by
  unfold Model.relationKeys at failed
  dsimp only at failed
  split at failed <;> cases failed
  exact nofun

/-- The relation of a pair is refused by what is declared, not by what there is. -/
theorem failsOnly_complementaryKeys (registry : Registry) (r other : Record) :
    (r.complementaryKeys registry other : Action (Watched σ) RelationKeys).FailsOnly Watched.failed
      Unrelated := by
  refine .bind (.ofExcept fun _ => unrelated_of_onlyKind) fun kind =>
    .bind (.ofExcept fun _ => unrelated_of_relationKeys) fun keys => ?_
  have settles (complementary : Bool) (detail : String) :
      (if complementary then pure keys else Action.fail (.relationMismatch detail) :
        Action (Watched σ) RelationKeys).FailsOnly Watched.failed Unrelated := by
    cases complementary with
    | true => exact .pure _
    | false => exact .fail nofun
  split
  · refine .bind (.ofExcept fun e missing => ?_) fun through =>
      .bind ((Registry.failsOnly_load registry through).mono fun e fails detail same => ?_)
        fun middle => settles _ _
    · rw [(throughTable_eq_error missing).2]
      exact nofun
    · rw [Error.Fails, same] at fails
      cases fails
  · split
    · exact .fail nofun
    · exact settles _ _

private theorem keeps_sent_complementaryKeys (registry : Registry) (r other : Record) :
    (r.complementaryKeys registry other : Action (Watched σ) RelationKeys).Keeps Watched.sent :=
  keeps_complementaryKeys (fun _ => Watched.keeps_ask _) (fun _ => Watched.keeps_ask _)
    registry r other

private theorem through_of_complementaryKeys {other : Record}
    (resolved : (r.complementaryKeys registry other).runOn c = (.ok keys, c'))
    (kind : keys.kind = .hasOneThrough) : keys.through ≠ none := by
  obtain ⟨kind', only, declared⟩ := Record.complementaryKeys_eq_ok resolved
  obtain ⟨same, -, -⟩ := Model.relationKeys_eq_ok declared
  obtain rfl : kind' = .hasOneThrough := same.symm.trans kind
  obtain ⟨kind', _, first, rest⟩ := Action.runOn_bind_eq_ok.mp resolved
  obtain ⟨only', rfl⟩ := Prod.mk.inj ((Action.runOn_ofExcept _ _).symm.trans first)
  cases only'.symm.trans only
  obtain ⟨keys', _, second, rest⟩ := Action.runOn_bind_eq_ok.mp rest
  obtain ⟨declared', rfl⟩ := Prod.mk.inj ((Action.runOn_ofExcept _ _).symm.trans second)
  cases declared'.symm.trans declared
  rw [if_pos rfl] at rest
  obtain ⟨through, _, found, -⟩ := Action.runOn_bind_eq_ok.mp rest
  rw [RelationKeys.through_of_throughTable (Prod.mk.inj found).1]
  nofun

private theorem sent_of_count {exact' : Bool} {n : UInt64}
    (ran : (count exact').runOn l = (.ok n, l')) :
    ∃ query, l'.connection.sent = .statement (.select query) :: l.connection.sent := by
  obtain ⟨_, _, query, _, _, _, counted, -⟩ := count_eq_ok ran
  have sent := Watched.sent_runCount query l.connection
  rw [counted] at sent
  exact ⟨query, sent⟩

/-- Links are counted, unless the table between is not declared. -/
theorem count_refused {exact' : Bool} {kind : RelationKind}
    (only : l.source.model.onlyKind l.target.table = .ok kind)
    (declared : l.source.model.relationKeys kind l.target.table = .ok keys)
    (ran : (count exact').runOn l = (.error e, l')) (unfailed : l'.connection.failed = false)
    (refused : e.cause.refuses = true) :
    l' = l ∧ l.source.linkQuery l.target keys exact' = .error e := by
  unfold count at ran
  rw [Action.runOn_bind_ok (Action.runOn_get l)] at ran
  unfold Record.countLinks at ran
  rw [runOn_onConnection, only, Action.runOn_bind_ok (Action.runOn_ofExcept _ _), declared,
    Action.runOn_bind_ok (Action.runOn_ofExcept _ _), Action.runOn_bind] at ran
  cases asked : l.source.linkQuery l.target keys exact' with
  | error e' =>
      rw [asked] at ran
      cases ran
      exact ⟨rfl, rfl⟩
  | ok query =>
      rw [asked] at ran
      obtain ⟨counted, rfl⟩ := Prod.mk.inj ran
      have fails := (Connection.failsOnly_runCount query l.connection unfailed).2 e counted
      rw [Error.Fails, refused] at fails
      cases fails

/-- Where links were counted, counting them again is not refused. -/
theorem not_refused_of_counted {exact' again : Bool} {n : UInt64} {m : Linking (Watched σ)}
    (counts : (count exact').runOn l = (.ok n, m)) (ran : (count again).runOn m = (.error e, l'))
    (unfailed : l'.connection.failed = false) : e.cause.refuses ≠ true := by
  intro refused
  obtain ⟨kind, keys, query, only, declared, asked, -, same⟩ := count_eq_ok counts
  rw [same] at ran
  obtain ⟨-, failed⟩ := count_refused (l := { l with connection := m.connection }) only declared ran
    unfailed refused
  obtain ⟨between, missing, -⟩ := linkQuery_eq_error failed
  obtain ⟨table, found⟩ := throughTable_of_linkQuery asked between
  rw [RelationKeys.through_of_throughTable found] at missing
  cases missing

omit [Connection σ] in
private theorem remembering_eq_error {α : Type} {action : Action (Linking σ) α} {l l' : Linking σ}
    (ran : (remembering action).runOn l = (.error e, l')) :
    ∃ m, action.runOn l = (.error e, m) ∧
      l' = { m with source := Remembers.remember e m.source } := by
  rw [runOn_remembering] at ran
  cases acted : action.runOn l with
  | mk outcome m =>
      rw [acted] at ran
      cases outcome with
      | ok a => cases ran
      | error e' =>
          cases ran
          exact ⟨m, rfl, rfl⟩

omit [Connection σ] in
/-- An operation that does not refuse has not given a refusal. -/
theorem absurd_of_failsOnly {α : Type} {action : Action (Linking (Watched σ)) α}
    {P : Prop} (only : action.FailsOnly (fun l => l.connection.failed) Error.Fails)
    (ran : action.runOn l = (.error e, l')) (unfailed : l'.connection.failed = false)
    (refused : e.cause.refuses = true) : P := by
  have fails := only l
  rw [ran] at fails
  have fails := (fails unfailed).2 e rfl
  rw [Error.Fails, refused] at fails
  cases fails

/-- Once the records are saved, only links are counted before a refusal. -/
theorem refused_of_counting {kind : RelationKind}
    (only : l.source.model.onlyKind l.target.table = .ok kind)
    (declared : l.source.model.relationKeys kind l.target.table = .ok keys)
    (single : kind = .hasOneThrough → keys.through ≠ none)
    (ran : (linkSaved registry keys).runOn l = (.error e, l'))
    (unfailed : l'.connection.failed = false) (refused : e.cause.refuses = true) :
    ∃ reads : List Select,
      l'.connection.sent = reads.map (fun query => .statement (.select query)) ++ l.connection.sent ∧
        (kind = .hasManyThrough ∧ keys.through = none ∧ reads = [] ∧ e = unreachable keys ∨
          (kind = .hasOne ∨ kind = .hasOneThrough) ∧ reads.length = 2 ∧
            e = alreadyHasOne keys l'.source.id) := by
  obtain ⟨rfl, -, -⟩ := Model.relationKeys_eq_ok declared
  unfold linkSaved at ran
  rcases Action.runOn_bind_eq_error.mp ran with failed | ⟨n, counted, counts, ran⟩
  · obtain ⟨rfl, failed⟩ := count_refused only declared failed unfailed refused
    obtain ⟨between, missing, rfl⟩ := linkQuery_eq_error failed
    refine ⟨[], rfl, .inl ⟨?_, missing, rfl, rfl⟩⟩
    rcases between with kind | kind | kind
    · exact absurd missing (single kind)
    · exact kind
    · rw [kind] at declared
      exact absurd missing (through_of_hasAndBelongsToMany declared)
  obtain ⟨kind', keys', query, only', declared', asked, -, -⟩ := count_eq_ok counts
  cases only'.symm.trans only
  cases declared'.symm.trans declared
  have establishes : (establish registry keys : Action (Linking (Watched σ)) Unit).FailsOnly
      (fun l => l.connection.failed) Error.Fails :=
    failsOnly_establish (throughTable_of_linkQuery asked)
  obtain ⟨exact', sent⟩ := sent_of_count counts
  split at ran
  · cases ran
  split at ran
  · rename_i single
    have kind : keys.kind = .hasOne ∨ keys.kind = .hasOneThrough := by
      rcases Bool.or_eq_true_iff.mp single with one | one
      · exact .inl (beq_iff_eq.mp one)
      · exact .inr (beq_iff_eq.mp one)
    rcases Action.runOn_bind_eq_error.mp ran with failed | ⟨m, checked, counts', ran⟩
    · exact absurd refused (not_refused_of_counted counts failed unfailed)
    obtain ⟨any, sent'⟩ := sent_of_count counts'
    split at ran
    · rw [Action.runOn_bind_ok (Action.runOn_get checked)] at ran
      cases ran
      exact ⟨[any, exact'], by rw [sent', sent]; rfl, .inr ⟨kind, rfl, rfl⟩⟩
    · exact absurd_of_failsOnly establishes ran unfailed refused
  · exact absurd_of_failsOnly establishes ran unfailed refused

/-- Both records are saved as new one after the other. -/
theorem sent_of_pair {m : Linking (Watched σ)}
    (ran : (onSource saveIfNew).runOn l = (.ok (), m))
    (ran' : (onTarget saveIfNew).runOn m = (.ok (), l')) :
    l'.source.model = l.source.model ∧ l'.target.model = l.target.model ∧
      ∃ first second, l.source.Inserts first ∧ l.target.Inserts second ∧
        l'.connection.sent = second ++ first ++ l.connection.sent := by
  obtain ⟨saved, same⟩ := onSide_eq_ok .source ran
  obtain ⟨saved', same'⟩ := onSide_eq_ok .target ran'
  obtain ⟨model, first, inserts, sent⟩ := sent_saveIfNew saved
  obtain ⟨model', second, inserts', sent'⟩ := sent_saveIfNew saved'
  have target : m.record .target = l.target := by rw [same]
  rw [target] at inserts' model'
  refine ⟨?_, model', first, second, inserts, inserts', ?_⟩
  · exact (congrArg (fun l => l.source.model) same').trans model
  · rw [sent', sent, List.append_assoc]

theorem link_refused (ran : (link registry).runOn l = (.error e, l'))
    (refused : e.cause.refuses = true) (unfailed : l'.connection.failed = false) :
    (l'.connection.sent = l.connection.sent ∧ Unrelated e) ∨
      ∃ kind keys first second reads, l.source.model.onlyKind l.target.table = .ok kind ∧
        l.source.model.relationKeys kind l.target.table = .ok keys ∧
        l.source.Inserts first ∧ l.target.Inserts second ∧
        l'.connection.sent =
          reads.map (fun query => .statement (.select query)) ++ second ++ first ++
            l.connection.sent ∧
        (kind = .hasManyThrough ∧ keys.through = none ∧ reads = [] ∧ e = unreachable keys ∨
          (kind = .hasOne ∨ kind = .hasOneThrough) ∧ reads.length = 2 ∧
            e = alreadyHasOne keys l'.source.id) := by
  obtain ⟨m, connected, rfl⟩ := remembering_eq_error ran
  clear ran
  dsimp only at unfailed ⊢
  rw [connect_eq, Action.runOn_bind_ok (Action.runOn_get l)] at connected
  have resolves : (onConnection (l.source.complementaryKeys registry l.target) :
      Action (Linking (Watched σ)) RelationKeys).FailsOnly (fun l => l.connection.failed) Unrelated :=
    .zoom (failsOnly_complementaryKeys registry l.source l.target) (fun _ _ => rfl) fun _ => rfl
  have silent := keeps_onConnection (keeps_sent_complementaryKeys registry l.source l.target) l
  rcases Action.runOn_bind_eq_error.mp connected with failed | ⟨keys, asked, resolved, connected⟩
  · have only := resolves l
    rw [failed] at only silent
    exact .inl ⟨silent, (only unfailed).2 e rfl⟩
  rw [resolved] at silent
  dsimp only at connected silent
  generalize (l.middle.isSome && !(keys.kind == .hasOneThrough || keys.kind == .hasManyThrough)) =
    between at connected
  cases between with
  | true =>
      cases connected
      exact .inl ⟨silent, nofun⟩
  | false =>
      rcases Action.runOn_bind_eq_error.mp connected with
        failed | ⟨_, first, saved, connected⟩
      · exact absurd_of_failsOnly
          (.zoom failsOnly_saveIfNew (fun _ _ => rfl) fun _ => rfl) failed unfailed refused
      rcases Action.runOn_bind_eq_error.mp connected with
        failed | ⟨_, second, saved', connected⟩
      · exact absurd_of_failsOnly
          (.zoom failsOnly_saveIfNew (fun _ _ => rfl) fun _ => rfl) failed unfailed refused
      obtain ⟨model, model', inserted, inserted', inserts, inserts', sent⟩ :=
        sent_of_pair saved saved'
      obtain ⟨asks, unmoved⟩ := onConnection_eq_ok resolved
      obtain ⟨kind, only, declared⟩ := Record.complementaryKeys_eq_ok asks
      obtain ⟨named, -, -⟩ := Model.relationKeys_eq_ok declared
      have source : asked.source = l.source := by rw [unmoved]
      have target : asked.target = l.target := by rw [unmoved]
      rw [source] at inserts model
      rw [target] at inserts' model'
      obtain ⟨reads, sent', reason⟩ := refused_of_counting
        (by rw [model, Record.table, model']; exact only)
        (by rw [model, Record.table, model']; exact declared)
        (fun through => through_of_complementaryKeys asks (named.trans through)) connected unfailed
        refused
      refine .inr ⟨kind, keys, inserted, inserted', reads, only, declared, inserts, inserts', ?_,
        reason⟩
      rw [sent', sent, silent]
      simp only [List.append_assoc]

/-! ## A customer with a profile -/

def secondProfile : Linking (Watched (Memory Example.numeric Example.output fun _ => "id")) where
  source := { Record.ofModel (Example.Shop.model "customer") with id := 1 }
  target := .ofModel {
    table := "profile"
    fields := .ofList [("customer_id", .integer), ("bio", .text)]
    relations := [⟨.belongsTo, "customer", {}⟩] }
  middle := none
  connection := { connection := { Example.Shop.store with
    held := Example.Shop.rows.appended "profile"
      (.ofList [("id", .int 3), ("customer_id", .int 1)]) } }

theorem link_refused_second_profile :
    ∃ e l', (link Example.Shop.registry).runOn secondProfile = (.error e, l') ∧
      e.cause.refuses = true ∧ l'.connection.failed = false ∧
      ((l'.connection.sent = secondProfile.connection.sent ∧ Unrelated e) ∨
        ∃ kind keys first second reads,
          secondProfile.source.model.onlyKind secondProfile.target.table = .ok kind ∧
          secondProfile.source.model.relationKeys kind secondProfile.target.table = .ok keys ∧
          secondProfile.source.Inserts first ∧ secondProfile.target.Inserts second ∧
          l'.connection.sent =
            reads.map (fun query => .statement (.select query)) ++ second ++ first ++
              secondProfile.connection.sent ∧
          (kind = .hasManyThrough ∧ keys.through = none ∧ reads = [] ∧ e = unreachable keys ∨
            (kind = .hasOne ∨ kind = .hasOneThrough) ∧ reads.length = 2 ∧
              e = alreadyHasOne keys l'.source.id)) := by
  have outcome : ((link Example.Shop.registry).runOn secondProfile).1 =
      .error (.of (.tooManyRecords
        "\x60customer\x60 record 1 already has one \x60profile\x60")) := by
    decide +kernel
  have ran := Prod.ext_iff.mpr ⟨outcome, rfl⟩
  exact ⟨_, _, ran, rfl, by decide +kernel, link_refused ran rfl (by decide +kernel)⟩

/-- The second profile is inserted before it is refused. -/
theorem second_profile_inserted :
    ((link Example.Shop.registry).runOn secondProfile).1 =
        .error (.of (.tooManyRecords
          "\x60customer\x60 record 1 already has one \x60profile\x60")) ∧
      ((link Example.Shop.registry).runOn secondProfile).2.connection.failed = false ∧
      ((link Example.Shop.registry).runOn secondProfile).2.connection.sent.map Sent.isWrite =
        [false, false, true] ∧
      ((link Example.Shop.registry).runOn secondProfile).2.target.id = 4 := by
  decide +kernel

end Linking

end

end RecordMapper
