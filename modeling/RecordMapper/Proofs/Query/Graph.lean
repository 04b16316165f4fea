import RecordMapper.Proofs.OrderedMap
import RecordMapper.Proofs.Record.Stored

/-!
The graph of records that rows hold, row after row. A group of columns gives a record its key; the
first group with a key gives the record; and each row links all of its keys to each other.
-/

set_option autoImplicit false

namespace RecordMapper

namespace Graph

variable (scope : Scope)

/-- The model of a group of columns and the value of its primary key. A group without a model has
none, nor has one whose primary key is missing or null. -/
def identity? (entry : String × Row) : Option (Model × Value) := do
  let model ← scope.model? entry.1
  let value ← entry.2.get? model.primaryKey
  if value.isNull then none else return (model, value)

def key? (entry : String × Row) : Option String := do
  let (_, value) ← identity? scope entry
  let id ← value.toInt64.toOption
  return entry.1 ++ ":" ++ toString id.toInt

def rootKey? (entry : String × Row) : Option String :=
  if entry.1 = scope.primary then key? scope entry else none

def keys (row : Row) : List String := row.groups.entries.filterMap (key? scope)

def groups (rows : List Row) : List (String × Row) := rows.flatMap fun row => row.groups.entries

def rootKeys (row : Row) : List String := row.groups.entries.filterMap (rootKey? scope)

def linked (key : String) (row : Row) : List String :=
  if key ∈ keys scope row then (keys scope row).filter fun other => other != key else []

def Readable (row : Row) : Prop :=
  ∀ entry ∈ row.groups.entries, ∃ found, identifier? scope entry.1 entry.2 = .ok found

def FirstRecord (entries : List (String × Row)) (key : String) (record : Record) : Prop :=
  ∃ entry model, entries.find? (fun entry => key? scope entry == some key) = some entry ∧
    scope.model? entry.1 = some model ∧ (Record.ofModel model).hydrated entry.2 = .ok record

end Graph

namespace Graph

variable {scope : Scope}

/-! ## Groups -/

theorem identity?_eq_some_iff {entry : String × Row} {model : Model} {value : Value} :
    identity? scope entry = some (model, value) ↔ scope.model? entry.1 = some model ∧
      entry.2.get? model.primaryKey = some value ∧ value.isNull = false := by
  unfold identity?
  constructor
  · intro identified
    obtain ⟨declared, registered, identified⟩ := Option.bind_eq_some_iff.mp identified
    obtain ⟨held, given, identified⟩ := Option.bind_eq_some_iff.mp identified
    split at identified
    · cases identified
    · rename_i real
      cases identified
      exact ⟨registered, given, eq_false_of_ne_true real⟩
  · rintro ⟨registered, given, real⟩
    simp [registered, given, real]

private theorem identifier?_eq (entry : String × Row) :
    identifier? scope entry.1 entry.2 = match identity? scope entry with
      | none => .ok none
      | some (model, value) => do return some (model, ← value.toInt64) := by
  unfold identifier? identity?
  cases scope.model? entry.1 with
  | none => rfl
  | some model =>
      simp only [Option.bind_eq_bind, Option.bind_some]
      cases entry.2.get? model.primaryKey with
      | none => rfl
      | some value => cases value <;> rfl

theorem identity?_of_identifier? {entry : String × Row} {found : Option (Model × Int64)}
    (read : identifier? scope entry.1 entry.2 = .ok found) :
    identity? scope entry = none ∧ found = none ∨
      ∃ model value id, identity? scope entry = some (model, value) ∧ value.toInt64 = .ok id ∧
        found = some (model, id) := by
  rw [identifier?_eq] at read
  cases identified : identity? scope entry with
  | none =>
      rw [identified] at read
      cases read
      exact .inl ⟨rfl, rfl⟩
  | some held =>
      obtain ⟨model, value⟩ := held
      rw [identified] at read
      obtain ⟨id, number, returned⟩ := bind_eq_ok.mp read
      exact .inr ⟨model, value, id, rfl, number, (Except.ok.inj returned).symm⟩

theorem key?_of_identity? {entry : String × Row} {model : Model} {value : Value} {id : Int64}
    (identified : identity? scope entry = some (model, value)) (number : value.toInt64 = .ok id) :
    key? scope entry = some (entry.1 ++ ":" ++ toString id.toInt) := by
  unfold key?
  rw [identified]
  simp [number, Except.toOption]

theorem exists_hydrated {entry : String × Row} {model : Model} {value : Value} {id : Int64}
    (identified : identity? scope entry = some (model, value)) (number : value.toInt64 = .ok id) :
    ∃ record, (Record.ofModel model).hydrated entry.2 = .ok record := by
  obtain ⟨_, given, _⟩ := identity?_eq_some_iff.mp identified
  exact ⟨_, Record.hydrated_eq_ok_iff.mpr ⟨value, id, given, number, rfl⟩⟩

/-- Taking in a group puts its key behind those of the row, and its record into the graph unless one
is there. -/
theorem addGroup_eq_ok {graph graph' : Graph} {known known' : List String} {entry : String × Row}
    (added : addGroup scope (graph, known) entry = .ok (graph', known')) :
    known' = known ++ (key? scope entry).toList ∧
      graph'.nodes.keys = addNew graph.nodes.keys (key? scope entry).toList ∧
      graph'.roots = addNew graph.roots (rootKey? scope entry).toList ∧
      ∀ key, graph'.nodes.get? key = graph.nodes.get? key ∨
        key? scope entry = some key ∧ graph.nodes.get? key = none ∧
          ∃ record, graph'.nodes.get? key = some { record } ∧ FirstRecord scope [entry] key record := by
  obtain ⟨found, read, added⟩ := bind_eq_ok.mp added
  rcases identity?_of_identifier? read with ⟨unidentified, rfl⟩ | ⟨model, value, id, identified,
    number, rfl⟩
  · cases added
    have keyless : key? scope entry = none := by simp [key?, unidentified]
    have rootless : rootKey? scope entry = none := by simp [rootKey?, keyless]
    rw [keyless, rootless]
    exact ⟨(List.append_nil known).symm, rfl, rfl, fun _ => .inl rfl⟩
  · have named := key?_of_identity? identified number
    obtain ⟨registered, _⟩ := identity?_eq_some_iff.mp identified
    obtain ⟨record, hydrated⟩ := exists_hydrated identified number
    dsimp only at added
    generalize entry.1 ++ ":" ++ toString id.toInt = key at added named
    have roots : (if entry.1 = scope.primary then addNew graph.roots [key] else graph.roots) =
        addNew graph.roots (rootKey? scope entry).toList := by
      rw [rootKey?, named]
      split <;> rfl
    rw [roots] at added
    rw [named, Option.toList_some]
    cases present : graph.nodes.contains key with
    | true =>
        rw [present] at added
        cases added
        have listed := OrderedMap.contains_iff_mem_keys.mp present
        exact ⟨rfl, (addNew_cons_of_mem listed []).symm, rfl, fun _ => .inl rfl⟩
    | false =>
        rw [present, hydrated] at added
        cases added
        refine ⟨rfl, OrderedMap.keys_insert _ _ _, rfl, ?_⟩
        intro other
        by_cases same : other = key
        · subst same
          have absent : graph.nodes.get? other = none := by
            simpa [OrderedMap.contains] using present
          refine .inr ⟨rfl, absent, _, OrderedMap.get?_insert_self _, entry, model, ?_, registered,
            hydrated⟩
          simp [named]
        · exact .inl (OrderedMap.get?_insert_of_ne same _)

theorem FirstRecord.append_left {entries : List (String × Row)} {key : String} {record : Record}
    (first : FirstRecord scope entries key record) (more : List (String × Row)) :
    FirstRecord scope (entries ++ more) key record := by
  obtain ⟨entry, model, found, registered, hydrated⟩ := first
  refine ⟨entry, model, ?_, registered, hydrated⟩
  rw [List.find?_append, found]
  rfl

theorem FirstRecord.append_right {entries : List (String × Row)} {key : String} {record : Record}
    {more : List (String × Row)} (absent : key ∉ entries.filterMap (key? scope))
    (first : FirstRecord scope more key record) :
    FirstRecord scope (entries ++ more) key record := by
  obtain ⟨entry, model, found, registered, hydrated⟩ := first
  refine ⟨entry, model, ?_, registered, hydrated⟩
  have missed : entries.find? (fun entry => key? scope entry == some key) = none := by
    rw [List.find?_eq_none]
    intro earlier held same
    exact absent (List.mem_filterMap.mpr ⟨earlier, held, beq_iff_eq.mp same⟩)
  rw [List.find?_append, missed, found]
  rfl

/-- What some groups make of a graph: their keys are added to it in order, and each new key has the
record of the first group with it. -/
structure Gathers (scope : Scope) (start : Graph) (entries : List (String × Row)) (graph : Graph) :
    Prop where
  nodes : graph.nodes.keys = addNew start.nodes.keys (entries.filterMap (key? scope))
  roots : graph.roots = addNew start.roots (entries.filterMap (rootKey? scope))
  records : ∀ key, graph.nodes.get? key = start.nodes.get? key ∨
    start.nodes.get? key = none ∧
      ∃ record, graph.nodes.get? key = some { record } ∧ FirstRecord scope entries key record

private theorem Gathers.step {start graph graph' : Graph} {entries : List (String × Row)}
    (gathers : Gathers scope start entries graph) {known known' : List String}
    {entry : String × Row}
    (added : addGroup scope (graph, known) entry = .ok (graph', known')) :
    Gathers scope start (entries ++ [entry]) graph' := by
  obtain ⟨_, nodes, roots, records⟩ := addGroup_eq_ok added
  constructor
  · rw [nodes, gathers.nodes, ← addNew_append, List.filterMap_append]
    rfl
  · rw [roots, gathers.roots, ← addNew_append, List.filterMap_append]
    rfl
  · intro key
    rcases records key with same | ⟨named, absent, record, held, first⟩
    · rw [same]
      rcases gathers.records key with old | ⟨new, record, held, first⟩
      · exact .inl old
      · exact .inr ⟨new, record, held, first.append_left _⟩
    · have missing : key ∉ entries.filterMap (key? scope) := by
        intro member
        apply OrderedMap.get?_eq_none_iff.mp absent
        rw [gathers.nodes]
        exact mem_addNew.mpr (.inr member)
      rcases gathers.records key with old | ⟨_, _, new, _⟩
      · exact .inr ⟨old.symm.trans absent, record, held, first.append_right missing⟩
      · rw [absent] at new
        cases new

private theorem Gathers.steps {start graph graph' : Graph} {entries more : List (String × Row)}
    (gathers : Gathers scope start entries graph) {known known' : List String}
    (added : more.foldlM (addGroup scope) (graph, known) = .ok (graph', known')) :
    Gathers scope start (entries ++ more) graph' ∧
      known' = known ++ more.filterMap (key? scope) := by
  induction more generalizing entries graph known with
  | nil =>
      cases added
      rw [List.append_nil]
      exact ⟨gathers, (List.append_nil _).symm⟩
  | cons entry more ih =>
      rw [List.foldlM_cons] at added
      obtain ⟨⟨next, names⟩, first, rest⟩ := bind_eq_ok.mp added
      obtain ⟨whole, grown⟩ := ih (gathers.step first) rest
      rw [List.append_assoc] at whole
      refine ⟨whole, ?_⟩
      rw [grown, (addGroup_eq_ok first).1, List.append_assoc, List.filterMap_cons]
      cases key? scope entry <;> rfl

/-! ## Links -/

private theorem get?_linkKey (known : List String) (graph : Graph) (key other : String) :
    (linkKey known graph key).nodes.get? other = (graph.nodes.get? other).map fun node =>
      if other = key then { node with links := addNew node.links (known.filter (· != key)) }
      else node := by
  unfold linkKey
  cases found : graph.nodes.get? key with
  | none =>
      by_cases same : other = key
      · rw [same, found]
        rfl
      · simp [same]
  | some node =>
      by_cases same : other = key
      · rw [same, OrderedMap.get?_insert_self, found]
        simp
      · rw [OrderedMap.get?_insert_of_ne same]
        simp [same]

private theorem keys_linkKey (known : List String) (graph : Graph) (key : String) :
    (linkKey known graph key).nodes.keys = graph.nodes.keys := by
  unfold linkKey
  cases found : graph.nodes.get? key with
  | none => rfl
  | some node =>
      have present : key ∈ graph.nodes.keys :=
        OrderedMap.contains_iff_mem_keys.mp (by rw [OrderedMap.contains, found]; rfl)
      rw [OrderedMap.keys_insert]
      exact addNew_cons_of_mem present []

private theorem roots_linkKey (known : List String) (graph : Graph) (key : String) :
    (linkKey known graph key).roots = graph.roots := by
  unfold linkKey
  split <;> rfl

/-- Linking some keys to all of a row changes nothing but their links. -/
theorem foldl_linkKey (known : List String) (linking : List String) (graph : Graph) :
    (linking.foldl (linkKey known) graph).nodes.keys = graph.nodes.keys ∧
      (linking.foldl (linkKey known) graph).roots = graph.roots ∧
      ∀ key, (linking.foldl (linkKey known) graph).nodes.get? key =
        (graph.nodes.get? key).map fun node =>
          if key ∈ linking then { node with links := addNew node.links (known.filter (· != key)) }
          else node := by
  induction linking generalizing graph with
  | nil => simp
  | cons first rest ih =>
      obtain ⟨keys, roots, nodes⟩ := ih (linkKey known graph first)
      rw [List.foldl_cons]
      refine ⟨keys.trans (keys_linkKey _ _ _), roots.trans (roots_linkKey _ _ _), ?_⟩
      intro key
      rw [nodes, get?_linkKey, Option.map_map]
      congr 1
      funext node
      have again : addNew (addNew node.links (known.filter (· != key))) (known.filter (· != key)) =
          addNew node.links (known.filter (· != key)) :=
        addNew_of_subset fun other member => mem_addNew.mpr (.inr member)
      by_cases same : key = first
      · subst same
        by_cases later : key ∈ rest <;> simp [later, again]
      · simp [same]

/-! ## Rows -/

private theorem mem_linked {key other : String} {row : Row} :
    other ∈ linked scope key row ↔ other ≠ key ∧ key ∈ keys scope row ∧ other ∈ keys scope row := by
  unfold linked
  split
  · rename_i present
    simp [present, and_comm]
  · rename_i absent
    simp [absent]

/-- What a graph is made of that some rows have gone into: a node for each of their keys in order,
with the record that came first and the links in the order in which rows made them. -/
structure Represents (scope : Scope) (rows : List Row) (graph : Graph) : Prop where
  nodes : graph.nodes.keys = addNew [] (rows.flatMap (keys scope))
  roots : graph.roots = addNew [] (rows.flatMap (rootKeys scope))
  records : ∀ key node, graph.nodes.get? key = some node →
    FirstRecord scope (groups rows) key node.record
  links : ∀ key node, graph.nodes.get? key = some node →
    node.links = addNew [] (rows.flatMap (linked scope key))

theorem groups_append (rows more : List Row) : groups (rows ++ more) = groups rows ++ groups more :=
  List.flatMap_append

private theorem groups_singleton (row : Row) : groups [row] = row.groups.entries :=
  List.flatMap_singleton _ row

private theorem filterMap_groups (rows : List Row) :
    (groups rows).filterMap (key? scope) = rows.flatMap (keys scope) :=
  List.filterMap_flatMap

theorem mem_linked_iff_shared {key other : String} {rows : List Row} :
    other ∈ rows.flatMap (linked scope key) ↔
      other ≠ key ∧ ∃ row ∈ rows, key ∈ keys scope row ∧ other ∈ keys scope row := by
  simp only [List.mem_flatMap, mem_linked]
  constructor
  · rintro ⟨row, held, apart, both⟩
    exact ⟨apart, row, held, both⟩
  · rintro ⟨apart, row, held, both⟩
    exact ⟨row, held, apart, both⟩

private theorem linked_of_absent {key : String} {rows : List Row}
    (absent : key ∉ rows.flatMap (keys scope)) : rows.flatMap (linked scope key) = [] := by
  rw [List.eq_nil_iff_forall_not_mem]
  intro other member
  obtain ⟨_, row, held, present, _⟩ := mem_linked_iff_shared.mp member
  exact absent (List.mem_flatMap.mpr ⟨row, held, present⟩)

private theorem represents_nil : Represents scope [] {} where
  nodes := rfl
  roots := rfl
  records _ _ found := by cases found
  links _ _ found := by cases found

private theorem Represents.absent {rows : List Row} {graph : Graph}
    (represents : Represents scope rows graph) {key : String}
    (missing : graph.nodes.get? key = none) : key ∉ rows.flatMap (keys scope) := by
  intro member
  apply OrderedMap.get?_eq_none_iff.mp missing
  rw [represents.nodes]
  exact mem_addNew.mpr (.inr member)

/-- A node of a graph that has taken in the groups of a row, before the row links its keys. -/
theorem Represents.gathered {rows : List Row} {graph gathered : Graph}
    (represents : Represents scope rows graph) {row : Row}
    (gathers : Gathers scope graph row.groups.entries gathered) {key : String} {node : Node}
    (found : gathered.nodes.get? key = some node) :
    FirstRecord scope (groups rows ++ row.groups.entries) key node.record ∧
      node.links = addNew [] (rows.flatMap (linked scope key)) := by
  rcases gathers.records key with old | ⟨missing, record, new, first⟩
  · rw [old] at found
    exact ⟨(represents.records key node found).append_left _, represents.links key node found⟩
  · rw [new] at found
    obtain rfl := Option.some.inj found
    have absent := represents.absent missing
    refine ⟨FirstRecord.append_right ?_ first, ?_⟩
    · rwa [filterMap_groups]
    · rw [linked_of_absent absent]
      rfl

private theorem Represents.step {rows : List Row} {graph graph' : Graph}
    (represents : Represents scope rows graph) {row : Row}
    (added : addRow scope graph row = .ok graph') : Represents scope (rows ++ [row]) graph' := by
  -- First the groups are taken in one by one, then all keys of the row are linked at once.
  obtain ⟨⟨gathered, known⟩, groups, returned⟩ := bind_eq_ok.mp added
  have start : Gathers scope graph [] graph := ⟨rfl, rfl, fun _ => .inl rfl⟩
  obtain ⟨gathers, names⟩ := start.steps groups
  obtain ⟨nodes, roots, links⟩ := foldl_linkKey known known gathered
  rw [List.nil_append] at gathers
  rw [List.nil_append, ← keys] at names
  obtain rfl := Except.ok.inj returned
  constructor
  · rw [nodes, gathers.nodes, represents.nodes, ← addNew_append, List.flatMap_append,
      List.flatMap_singleton]
    rfl
  · rw [roots, gathers.roots, represents.roots, ← addNew_append, List.flatMap_append,
      List.flatMap_singleton]
    rfl
  · intro key node found
    rw [links] at found
    obtain ⟨old, held, rfl⟩ := Option.map_eq_some_iff.mp found
    rw [groups_append, groups_singleton]
    split <;> exact (represents.gathered gathers held).1
  · intro key node found
    rw [links] at found
    obtain ⟨old, held, rfl⟩ := Option.map_eq_some_iff.mp found
    rw [List.flatMap_append, List.flatMap_singleton, addNew_append,
      ← (represents.gathered gathers held).2, linked, ← names]
    split <;> rfl

private theorem Represents.steps {rows more : List Row} {graph graph' : Graph}
    (represents : Represents scope rows graph)
    (added : more.foldlM (addRow scope) graph = .ok graph') :
    Represents scope (rows ++ more) graph' := by
  induction more generalizing rows graph with
  | nil =>
      cases added
      rwa [List.append_nil]
  | cons row more ih =>
      rw [List.foldlM_cons] at added
      obtain ⟨next, first, rest⟩ := bind_eq_ok.mp added
      rw [List.append_cons]
      exact ih (represents.step first) rest

theorem represents_ofRows {rows : List Row} {graph : Graph}
    (made : ofRows scope rows = .ok graph) : Represents scope rows graph :=
  represents_nil.steps made

/-! ## Success -/

private theorem exists_addGroup_eq_ok (state : Graph × List String) (entry : String × Row) :
    (∃ state', addGroup scope state entry = .ok state') ↔
      ∃ found, identifier? scope entry.1 entry.2 = .ok found := by
  constructor
  · rintro ⟨_, added⟩
    obtain ⟨found, read, _⟩ := bind_eq_ok.mp added
    exact ⟨found, read⟩
  · rintro ⟨found, read⟩
    unfold addGroup
    dsimp only
    rw [read]
    rcases identity?_of_identifier? read with ⟨_, rfl⟩ | ⟨_, _, _, identified, number, rfl⟩
    · exact ⟨_, rfl⟩
    · obtain ⟨record, hydrated⟩ := exists_hydrated identified number
      dsimp only [bind, Except.bind]
      split
      · exact ⟨_, rfl⟩
      · rw [hydrated]
        exact ⟨_, rfl⟩

private theorem exists_addRow_eq_ok (graph : Graph) (row : Row) :
    (∃ graph', addRow scope graph row = .ok graph') ↔ Readable scope row := by
  have groups := exists_foldlM_eq_ok (@exists_addGroup_eq_ok scope) row.groups.entries
    (graph, [])
  rw [Readable, ← groups]
  constructor
  · rintro ⟨_, added⟩
    obtain ⟨state, gathered, _⟩ := bind_eq_ok.mp added
    exact ⟨state, gathered⟩
  · rintro ⟨state, gathered⟩
    exact ⟨_, bind_eq_ok.mpr ⟨state, gathered, rfl⟩⟩

theorem exists_ofRows_eq_ok {rows : List Row} :
    (∃ graph, ofRows scope rows = .ok graph) ↔ ∀ row ∈ rows, Readable scope row :=
  exists_foldlM_eq_ok exists_addRow_eq_ok rows {}

end Graph

end RecordMapper
