import RecordMapper.Proofs.Action
import RecordMapper.Proofs.OrderedMap

/-!
The joins and the tables of a scope in the order of its path. A scope only grows while its path is
followed, so the model that decided a hop is still the model of its table in the end.
-/

set_option autoImplicit false

namespace RecordMapper

namespace Scope

def Extends (s s' : Scope) : Prop :=
  ∀ table entry, s.tables.get? table = some entry → s'.tables.get? table = some entry

theorem Extends.refl (s : Scope) : Extends s s := fun _ _ held => held

theorem Extends.trans {s s' s'' : Scope} (first : Extends s s') (second : Extends s' s'') :
    Extends s s'' :=
  fun table entry held => second table entry (first table entry held)

private theorem Extends.model? {s s' : Scope} (grows : Extends s s') {table : String}
    {model : Model}
    (found : s.model? table = some model) : s'.model? table = some model := by
  obtain ⟨entry, held, same⟩ := Option.bind_eq_some_iff.mp found
  exact Option.bind_eq_some_iff.mpr ⟨entry, grows table entry held, same⟩

inductive Path (s : Scope) : String → List String → List JoinHop → Prop where
  | nil (source : String) : Path s source [] []
  | cons {source target : String} {rest : List String} {model : Model} {hop : JoinHop}
      {hops : List JoinHop} (found : s.model? source = some model)
      (declared : model.hopTo target = .ok hop) (path : Path s target rest hops) :
      Path s source (target :: rest) (hop :: hops)

theorem Path.exists_of_mem {s : Scope} {source : String} {joins : List String}
    {hops : List JoinHop} (path : Path s source joins hops) {hop : JoinHop} (member : hop ∈ hops) :
    ∃ table model target, s.model? table = some model ∧ model.hopTo target = .ok hop := by
  induction path with
  | nil source => cases member
  | cons found declared _ ih =>
      rcases List.mem_cons.mp member with rfl | later
      · exact ⟨_, _, _, found, declared⟩
      · exact ih later

variable {σ : Type} [Connection σ] {registry : Registry}

def entry (registry : Registry) (table : String) : Action σ ScopeTable := do
  let model ← registry.load? table
  let columns ← match model with
    | some model => pure model.columns
    | none => Connection.columnNames table
  return { model, columns }

theorem add_eq (registry : Registry) (s : Scope) (table : String) :
    (add registry s table : Action σ Scope) =
      if s.contains table then return s
      else do return { s with tables := s.tables.insert table (← entry registry table) } := by
  unfold add entry
  cases s.contains table with
  | true => rfl
  | false =>
      simp only [Bool.false_eq_true, if_false, bind_assoc, pure_bind]
      refine bind_congr fun model => ?_
      cases model with
      | some model => rfl
      | none => simp only [bind_assoc, pure_bind]

theorem extends_of_add {s s' : Scope} {table : String} {connection connection' : σ}
    (added : (add registry s table).runOn connection = (.ok s', connection')) :
    Extends s s' ∧ s'.equalities = s.equalities ∧ s'.tableNames = addNew s.tableNames [table] := by
  rw [add_eq] at added
  split at added
  · rename_i present
    cases added
    have listed : table ∈ s.tableNames := OrderedMap.contains_iff_mem_keys.mp present
    exact ⟨.refl _, rfl, (addNew_cons_of_mem listed []).symm⟩
  · rename_i absent
    obtain ⟨entry, _, _, added⟩ := Action.runOn_bind_eq_ok.mp added
    cases added
    refine ⟨fun other known held => ?_, rfl, OrderedMap.keys_insert _ _ _⟩
    have differ : other ≠ table := by
      rintro rfl
      simp [contains, OrderedMap.contains, held] at absent
    exact (OrderedMap.get?_insert_of_ne differ entry).trans held

theorem extends_of_addAll {tables : List String} {s s' : Scope} {connection connection' : σ}
    (added : (tables.foldlM (add registry) s).runOn connection = (.ok s', connection')) :
    Extends s s' ∧ s'.equalities = s.equalities ∧ s'.tableNames = addNew s.tableNames tables := by
  induction tables generalizing s connection with
  | nil =>
      cases added
      exact ⟨.refl _, rfl, rfl⟩
  | cons table tables ih =>
      rw [List.foldlM_cons] at added
      obtain ⟨next, _, first, rest⟩ := Action.runOn_bind_eq_ok.mp added
      obtain ⟨grows, same, names⟩ := extends_of_add first
      obtain ⟨growsOn, sameOn, namesOn⟩ := ih rest
      refine ⟨grows.trans growsOn, sameOn.trans same, ?_⟩
      rw [namesOn, names, ← addNew_append]
      rfl

section

variable {P : Scope → Prop}
  (added : ∀ {s s' : Scope} {table : String} {c c' : σ}, P s →
    (add registry s table).runOn c = (.ok s', c') → P s')

include added

private theorem kept_of_addAll {tables : List String} {s s' : Scope} {c c' : σ} (holds : P s)
    (ran : (tables.foldlM (add registry) s).runOn c = (.ok s', c')) : P s' := by
  induction tables generalizing s c with
  | nil =>
      cases ran
      exact holds
  | cons table tables ih =>
      rw [List.foldlM_cons] at ran
      obtain ⟨next, _, first, rest⟩ := Action.runOn_bind_eq_ok.mp ran
      exact ih (added holds first) rest

/-- What adding a table keeps, and adding equalities, is kept by following a path. -/
theorem kept_of_follow
    (joined : ∀ {s : Scope} (equalities : List KeyEquality), P s →
      P { s with equalities := s.equalities ++ equalities })
    {joins : List String} {s s' : Scope} {source : String} {c c' : σ} (holds : P s)
    (followed : (follow registry s source joins).runOn c = (.ok s', c')) : P s' := by
  induction joins generalizing s source c with
  | nil =>
      cases followed
      exact holds
  | cons target rest ih =>
      unfold follow at followed
      split at followed
      · cases followed
      · obtain ⟨hop, _, _, followed⟩ := Action.runOn_bind_eq_ok.mp followed
        obtain ⟨next, _, ran, followed⟩ := Action.runOn_bind_eq_ok.mp followed
        exact ih (joined hop.equalities (kept_of_addAll added holds ran)) followed

end

/-- Following a path adds the equalities and the tables of its hops, one hop after the other. -/
theorem exists_path_of_follow {joins : List String} {s s' : Scope} {source : String}
    {connection connection' : σ}
    (followed : (follow registry s source joins).runOn connection = (.ok s', connection')) :
    Extends s s' ∧ ∃ hops, s'.Path source joins hops ∧
      s'.equalities = s.equalities ++ hops.flatMap JoinHop.equalities ∧
      s'.tableNames = addNew s.tableNames (hops.flatMap JoinHop.tables) := by
  induction joins generalizing s source connection with
  | nil =>
      cases followed
      exact ⟨.refl _, [], .nil source, (List.append_nil _).symm, rfl⟩
  | cons target rest ih =>
      unfold follow at followed
      cases found : s.model? source with
      | none =>
          rw [found] at followed
          cases followed
      | some model =>
          rw [found] at followed
          obtain ⟨hop, _, declared, followed⟩ := Action.runOn_bind_eq_ok.mp followed
          obtain ⟨next, _, added, followed⟩ := Action.runOn_bind_eq_ok.mp followed
          obtain ⟨grows, same, names⟩ := extends_of_addAll added
          obtain ⟨growsOn, hops, path, equalities, namesOn⟩ := ih followed
          have whole : Extends s s' := grows.trans growsOn
          refine ⟨whole, hop :: hops, .cons (whole.model? found) (Prod.mk.inj declared).1 path,
            ?_, ?_⟩
          · rw [equalities, same, List.flatMap_cons, List.append_assoc]
          · change s'.tableNames = addNew next.tableNames _ at namesOn
            rw [namesOn, names, List.flatMap_cons, addNew_append]

/-- The equalities and the tables of a scope are those of the hops of its path, in the order of the
path; no table comes twice. -/
theorem exists_path_and_tables_of_build {primary : String} {joins : List String} {s : Scope}
    {connection connection' : σ}
    (built : (build registry primary joins).runOn connection = (.ok s, connection')) :
    ∃ hops, s.Path primary joins hops ∧ s.equalities = hops.flatMap JoinHop.equalities ∧
      s.tableNames = addNew [] (primary :: hops.flatMap JoinHop.tables) := by
  obtain ⟨start, _, added, followed⟩ := Action.runOn_bind_eq_ok.mp built
  obtain ⟨_, same, names⟩ := extends_of_add added
  obtain ⟨_, hops, path, equalities, namesOn⟩ := exists_path_of_follow followed
  refine ⟨hops, path, ?_, ?_⟩
  · rw [equalities, same]
    rfl
  · rw [namesOn, names, ← addNew_append]
    rfl

theorem exists_path_of_build {primary : String} {joins : List String} {s : Scope}
    {connection connection' : σ}
    (built : (build registry primary joins).runOn connection = (.ok s, connection')) :
    ∃ hops, s.Path primary joins hops ∧ s.equalities = hops.flatMap JoinHop.equalities := by
  obtain ⟨hops, path, equalities, _⟩ := exists_path_and_tables_of_build built
  exact ⟨hops, path, equalities⟩

end Scope

end RecordMapper
