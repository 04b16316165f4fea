import RecordMapper.Proofs.Query.Objects

/-!
The cursor of a result. It stands at the number of items that were asked for since it was rewound
last, and not behind the last of them; and every item that it comes to is there.
-/

set_option autoImplicit false

namespace RecordMapper.QueryResult

inductive CursorStep where
  | next
  | rewind
  deriving DecidableEq

def CursorStep.apply (r : QueryResult) : CursorStep → QueryResult
  | .next => r.next.2
  | .rewind => r.rewind

def CursorStep.count (asked : Nat) : CursorStep → Nat
  | .next => asked + 1
  | .rewind => 0

def after (r : QueryResult) (steps : List CursorStep) : QueryResult :=
  steps.foldl CursorStep.apply r

/-- How often an item was asked for since the latest rewinding. -/
def asked (steps : List CursorStep) : Nat := steps.foldl CursorStep.count 0

def rootKey (r : QueryResult) (record : Record) : ItemKey :=
  .record (r.primary ++ ":" ++ toString record.id.toInt)

def items (r : QueryResult) : List (ItemKey × Item) :=
  match r.payload with
  | .ids ids => ids.mapIdx fun i id => (.position i, .id id)
  | .rows rows => rows.mapIdx fun i row => (.position i, .row row)
  | .objects graph => graph.rootRecords.map fun record => (r.rootKey record, .record record)

def Rooted (scope : Scope) (r : QueryResult) : Prop :=
  ∀ graph, r.payload = .objects graph → ∀ root ∈ graph.roots,
    ∃ node, graph.nodes.get? root = some node ∧ .record root = r.rootKey node.record ∧
      (scope.Named → node.record.key = root)

private theorem rooted_ofRows {scope : Scope} {mode : Mode} {paging : Paging} {rows : List Row}
    {r : QueryResult} (made : ofRows scope mode paging rows = .ok r) : r.Rooted scope := by
  intro graph payload root member
  unfold ofRows at made
  cases mode with
  | ids =>
      obtain ⟨ids, _, returned⟩ := bind_eq_ok.mp made
      cases returned
      cases payload
  | rows =>
      cases made
      cases payload
  | objects =>
      obtain ⟨graph', gathered, returned⟩ := bind_eq_ok.mp made
      cases returned
      cases payload
      obtain ⟨node, found, numbered, named⟩ :=
        Graph.exists_node_of_root (Graph.represents_ofRows gathered) member
      exact ⟨node, found, congrArg ItemKey.record numbered, named⟩

/-- Where every name stands for something, so does each at its place. -/
theorem getElem?_filterMap_of_isSome {α β : Type} {f : α → Option β} {names : List α}
    (each : ∀ name ∈ names, (f name).isSome) (i : Nat) :
    (names.filterMap f)[i]? = names[i]?.bind f := by
  induction names generalizing i with
  | nil => rfl
  | cons name names ih =>
      obtain ⟨first, others⟩ := List.forall_mem_cons.mp each
      obtain ⟨found, same⟩ := Option.isSome_iff_exists.mp first
      rw [List.filterMap_cons_some same]
      cases i with
      | zero => exact same.symm
      | succ i => exact ih others i

section

variable {scope : Scope} {r : QueryResult}

theorem isSome_record {graph : Graph} (rooted : r.Rooted scope)
    (payload : r.payload = .objects graph) :
    ∀ root ∈ graph.roots, ((graph.nodes.get? root).map Node.record).isSome := by
  intro root member
  obtain ⟨node, found, _⟩ := rooted graph payload root member
  rw [found]
  rfl

theorem length_items (rooted : r.Rooted scope) : r.items.length = r.size := by
  unfold items size
  cases payload : r.payload with
  | ids ids => exact List.length_mapIdx
  | rows rows => exact List.length_mapIdx
  | objects graph =>
      rw [List.length_map, Graph.rootRecords, List.length_filterMap_eq_countP,
        List.countP_eq_length]
      exact isSome_record rooted payload

/-- The cursor has the key and the item at its place. -/
theorem key?_and_current?_eq (rooted : r.Rooted scope) :
    r.key? = r.items[r.cursor]?.map Prod.fst ∧ r.current? = r.items[r.cursor]?.map Prod.snd := by
  unfold key? current? isValid size items
  cases payload : r.payload with
  | ids ids =>
      by_cases inside : r.cursor < ids.length <;> simp [inside]
  | rows rows =>
      by_cases inside : r.cursor < rows.length <;> simp [inside]
  | objects graph =>
      have each := getElem?_filterMap_of_isSome (isSome_record rooted payload) r.cursor
      dsimp only
      rw [List.getElem?_map, Graph.rootRecords, each]
      cases here : graph.roots[r.cursor]? with
      | none => exact ⟨rfl, rfl⟩
      | some root =>
          obtain ⟨node, found, named, _⟩ :=
            rooted graph payload root (List.mem_of_getElem? here)
          rw [Option.bind_some, Option.bind_some, found]
          exact ⟨congrArg some named, rfl⟩

/-- An item at its place in a result: the identifier, the row or the record that is listed there. -/
inductive Listed (scope : Scope) (r : QueryResult) (i : Nat) : ItemKey → Item → Prop where
  | id {id : Int64} (here : r.ids[i]? = some id) : Listed scope r i (.position i) (.id id)
  | row {row : Row} (here : r.rows[i]? = some row) : Listed scope r i (.position i) (.row row)
  | record {record : Record} {key : String} (here : r.objects[i]? = some record)
      (numbered : .record key = r.rootKey record) (named : scope.Named → record.key = key)
      (found : r.object? key = some record) : Listed scope r i (.record key) (.record record)

private theorem listed_of_getElem?_items (rooted : r.Rooted scope) {i : Nat} {key : ItemKey}
    {item : Item}
    (here : r.items[i]? = some (key, item)) : r.Listed scope i key item := by
  unfold items at here
  cases payload : r.payload with
  | ids ids =>
      rw [payload, List.getElem?_mapIdx] at here
      obtain ⟨id, place, same⟩ := Option.map_eq_some_iff.mp here
      cases same
      refine .id ?_
      rw [QueryResult.ids, payload]
      exact place
  | rows rows =>
      rw [payload, List.getElem?_mapIdx] at here
      obtain ⟨row, place, same⟩ := Option.map_eq_some_iff.mp here
      cases same
      refine .row ?_
      rw [QueryResult.rows, payload]
      exact place
  | objects graph =>
      have each := getElem?_filterMap_of_isSome (isSome_record rooted payload) i
      rw [payload, List.getElem?_map] at here
      obtain ⟨record, place, same⟩ := Option.map_eq_some_iff.mp here
      cases same
      have listed : r.objects[i]? = some record := by
        rw [objects, payload]
        exact place
      rw [Graph.rootRecords, each] at place
      obtain ⟨root, among, held⟩ := Option.bind_eq_some_iff.mp place
      obtain ⟨node, found, numbered, named⟩ :=
        rooted graph payload root (List.mem_of_getElem? among)
      rw [found] at held
      cases held
      rw [← numbered]
      refine .record listed numbered named ?_
      rw [object?, payload]
      exact congrArg (Option.map Node.record) found

private theorem next_eq (rooted : r.Rooted scope) :
    r.next = match r.items[r.cursor]? with
      | some item => (some item, { r with cursor := r.cursor + 1 })
      | none => (none, r) := by
  obtain ⟨key, current⟩ := key?_and_current?_eq rooted
  rw [next, key, current]
  cases r.items[r.cursor]? <;> rfl

/-! ## Steps -/

/-- The result with its cursor behind as many items as were asked for, or behind the last one. -/
def movedTo (r : QueryResult) (n : Nat) : QueryResult := { r with cursor := min n r.size }

theorem Rooted.movedTo (rooted : r.Rooted scope) (n : Nat) : (r.movedTo n).Rooted scope := rooted

theorem getElem?_items_cursor (rooted : r.Rooted scope) (n : Nat) :
    (r.movedTo n).items[(r.movedTo n).cursor]? = r.items[n]? := by
  have size := length_items rooted
  change r.items[min n r.size]? = r.items[n]?
  rw [← size]
  by_cases inside : n < r.items.length
  · rw [Nat.min_eq_left (Nat.le_of_lt inside)]
  · rw [Nat.min_eq_right (Nat.not_lt.mp inside), List.getElem?_eq_none (Nat.le_refl _),
      List.getElem?_eq_none (Nat.not_lt.mp inside)]

theorem next_movedTo (rooted : r.Rooted scope) (n : Nat) :
    (r.movedTo n).next = (r.items[n]?, r.movedTo (n + 1)) := by
  rw [next_eq (rooted.movedTo n), getElem?_items_cursor rooted]
  have size := length_items rooted
  cases here : r.items[n]? with
  | none =>
      have outside := List.getElem?_eq_none_iff.mp here
      simp only [movedTo]
      rw [Nat.min_eq_right (by omega), Nat.min_eq_right (by omega)]
  | some item =>
      obtain ⟨inside, _⟩ := List.getElem?_eq_some_iff.mp here
      simp only [movedTo]
      rw [Nat.min_eq_left (by omega), Nat.min_eq_left (by omega)]

private theorem CursorStep.apply_movedTo (rooted : r.Rooted scope) (n : Nat) (step : CursorStep) :
    step.apply (r.movedTo n) = r.movedTo (step.count n) := by
  cases step with
  | next => exact congrArg Prod.snd (next_movedTo rooted n)
  | rewind =>
      rw [count, movedTo, movedTo, Nat.zero_min]
      rfl

theorem foldl_apply_movedTo (rooted : r.Rooted scope) (steps : List CursorStep) (n : Nat) :
    steps.foldl CursorStep.apply (r.movedTo n) = r.movedTo (steps.foldl CursorStep.count n) := by
  induction steps generalizing n with
  | nil => rfl
  | cons step steps ih => rw [List.foldl_cons, step.apply_movedTo rooted, ih, List.foldl_cons]

/-- After any steps, the cursor stands where the latest rewinding and the steps since then say. -/
theorem after_eq_movedTo (rooted : r.Rooted scope) (start : r.cursor = 0) (steps : List CursorStep) :
    r.after steps = r.movedTo (asked steps) := by
  have here : r = r.movedTo 0 := by
    rw [movedTo, Nat.zero_min, ← start]
  rw [after, asked, ← foldl_apply_movedTo rooted, ← here]

private theorem takeAll_movedTo (rooted : r.Rooted scope) (fuel n : Nat)
    (enough : r.size ≤ n + fuel) :
    ((r.movedTo n).takeAll fuel).1 = r.items.drop n := by
  have size := length_items rooted
  induction fuel generalizing n with
  | zero => exact (List.drop_eq_nil_of_le (by omega)).symm
  | succ fuel ih =>
      rw [takeAll, next_movedTo rooted]
      cases here : r.items[n]? with
      | none => exact (List.drop_eq_nil_of_le (List.getElem?_eq_none_iff.mp here)).symm
      | some item =>
          obtain ⟨inside, same⟩ := List.getElem?_eq_some_iff.mp here
          rw [List.drop_eq_getElem_cons inside, same]
          exact congrArg _ (ih (n + 1) (by omega))

end

/-- How a result `r'` goes on that gave `n` items of the result `r` since it was rewound. -/
structure Walks (r r' : QueryResult) (n : Nat) : Prop where
  next : r'.next.1 = r.items[n]?
  rest : r'.rest.1 = r.items.drop n
  exhausted : r.size ≤ n → ∀ again, ((r'.after (.replicate again .next)).next).1 = none
  isValid : r'.isValid = r'.next.1.isSome
  key : r'.key? = r'.next.1.map Prod.fst
  current : r'.current? = r'.next.1.map Prod.snd
  lists : r'.ids = r.ids ∧ r'.rows = r.rows ∧ r'.objects = r.objects ∧ r'.size = r.size

private theorem foldl_count_replicate (again n : Nat) :
    (List.replicate again CursorStep.next).foldl CursorStep.count n = n + again := by
  induction again generalizing n with
  | zero => rfl
  | succ again ih =>
      rw [List.replicate_succ, List.foldl_cons, ih, CursorStep.count, Nat.add_right_comm,
        Nat.add_assoc]

private theorem walks_movedTo {scope : Scope} {r : QueryResult} (rooted : r.Rooted scope)
    (n : Nat) :
    r.Walks (r.movedTo n) n := by
  have size := length_items rooted
  have next (n : Nat) : (r.movedTo n).next.1 = r.items[n]? :=
    congrArg Prod.fst (next_movedTo rooted n)
  obtain ⟨key, current⟩ := key?_and_current?_eq (rooted.movedTo n)
  rw [getElem?_items_cursor rooted, ← next] at key current
  refine ⟨next n, takeAll_movedTo rooted r.size n (Nat.le_add_left _ _), ?_, ?_, key, current,
    rfl, rfl, rfl, rfl⟩
  · intro behind again
    rw [after, foldl_apply_movedTo rooted, foldl_count_replicate, next]
    exact List.getElem?_eq_none (by omega)
  · have inside : min n r.size < r.size ↔ n < r.items.length := by omega
    rw [next, isValid, Bool.eq_iff_iff, decide_eq_true_iff, isSome_getElem?]
    exact inside

private theorem cursor_ofRows {scope : Scope} {mode : Mode} {paging : Paging} {rows : List Row}
    {r : QueryResult} (made : ofRows scope mode paging rows = .ok r) : r.cursor = 0 := by
  unfold ofRows at made
  cases mode with
  | rows =>
      cases made
      rfl
  | ids | objects =>
      obtain ⟨_, _, returned⟩ := bind_eq_ok.mp made
      cases returned
      rfl

/-- Whatever was asked of a result before, the items since it was rewound last come in order, each
once, and none comes behind the last; and the cursor tells beforehand which one comes. -/
theorem walks_of_ofRows {scope : Scope} {mode : Mode} {paging : Paging} {rows : List Row}
    {r : QueryResult} (made : ofRows scope mode paging rows = .ok r) :
    r.items.length = r.size ∧
      (∀ i key item, r.items[i]? = some (key, item) → r.Listed scope i key item) ∧
      ∀ steps, r.Walks (r.after steps) (asked steps) := by
  have rooted := rooted_ofRows made
  refine ⟨length_items rooted, fun _ _ _ => listed_of_getElem?_items rooted, fun steps => ?_⟩
  rw [after_eq_movedTo rooted (cursor_ofRows made)]
  exact walks_movedTo rooted (asked steps)

/-- Three purchases of the shop, walked over again after a first look. -/
theorem walks_of_ofRows_purchases :
    let q : Query := { table := "purchase", joins := ["customer"] }
    let c := Example.Shop.describe { dialect := .mysql, database := "shop" }
    let rows := Example.Shop.purchaseRows
    let steps : List CursorStep := [.next, .next, .rewind, .next]
    ∃ scope c' r, (q.scope Example.Shop.registry).runOn c = (.ok scope, c') ∧
      ofRows scope .objects (.ofWindow 3 none none) rows = .ok r ∧ r.size = 3 ∧
      (r.after steps).key? = some (.record "purchase:8") ∧ (r.after steps).isValid = true ∧
      ∃ record, r.objects[1]? = some record ∧
        (r.after steps).next.1 = some (.record "purchase:8", .record record) := by
  intro q c rows steps
  have read : ((q.scope Example.Shop.registry).runOn c).1.toOption.map (fun scope =>
        (ofRows scope .objects (.ofWindow 3 none none) rows).toOption.map fun r =>
          r.items.map Prod.fst) =
      some (some [.record "purchase:7", .record "purchase:8", .record "purchase:9"]) := by
    decide +kernel
  obtain ⟨scope, c', ran, read⟩ := Action.exists_of_map_toOption read
  obtain ⟨r, made, keys⟩ := Option.map_eq_some_iff.mp read
  have made := toOption_eq_some.mp made
  obtain ⟨size, listed, walks⟩ := walks_of_ofRows made
  have walk := walks steps
  have length := congrArg List.length keys
  rw [List.length_map, size] at length
  have second : (r.items.map Prod.fst)[1]? = some (.record "purchase:8") := by rw [keys]; rfl
  rw [List.getElem?_map] at second
  obtain ⟨⟨key, item⟩, here, same⟩ := Option.map_eq_some_iff.mp second
  obtain rfl : key = .record "purchase:8" := same
  have next : (r.after steps).next.1 = some (.record "purchase:8", item) := walk.next.trans here
  have isValid := walk.isValid
  have known := walk.key
  rw [next] at isValid known
  cases listed 1 _ item here with
  | @record record _ held _ _ _ =>
      exact ⟨scope, c', r, ran, made, length, known, isValid, record, held, next⟩

end RecordMapper.QueryResult
