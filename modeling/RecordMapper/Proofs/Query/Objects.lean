import Mathlib.Data.List.Basic
import Mathlib.Data.List.Perm.Basic
import RecordMapper.Example.Store
import RecordMapper.Proofs.Query.Closed
import RecordMapper.Proofs.Query.Graph
import RecordMapper.Proofs.Query.Groups
import RecordMapper.Proofs.Sql.Literal

/-!
What the graph of some rows says about them: which records there are, which row each comes from, what
they are linked to, and what changes when rows repeat or come in another order.
-/

set_option autoImplicit false

namespace RecordMapper

/-! ## Keys of records -/

private theorem colon_notMem_toString (n : Int) : ':' ∉ (toString n).toList := by
  have signed := Sql.isSignedNumeral_toString n
  intro member
  generalize (toString n).toList = cs at signed member
  have colon : (Name.isAsciiDigit ':' || ':' == '.') = false := by decide
  have apart (cs : List Char) (numeral : Sql.isNumeral cs = true) : ':' ∉ cs := by
    intro member
    obtain ⟨_, all⟩ := Bool.and_eq_true_iff.mp numeral
    exact absurd (List.all_eq_true.mp all ':' member) (colon ▸ Bool.false_ne_true)
  unfold Sql.isSignedNumeral at signed
  split at signed
  · rcases List.mem_cons.mp member with minus | member
    · cases minus
    · exact apart _ signed member
  · exact apart _ signed member

namespace Graph

variable {scope : Scope} {entry entry' : String × Row} {key : String}

theorem exists_of_key? (named : key? scope entry = some key) :
    ∃ model value id, identity? scope entry = some (model, value) ∧ value.toInt64 = .ok id ∧
      key = entry.1 ++ ":" ++ toString id.toInt := by
  obtain ⟨⟨model, value⟩, identified, named⟩ := Option.bind_eq_some_iff.mp named
  obtain ⟨id, number, same⟩ := Option.bind_eq_some_iff.mp named
  refine ⟨model, value, id, identified, ?_, (Option.some.inj same).symm⟩
  cases converted : value.toInt64 with
  | error e =>
      rw [converted] at number
      cases number
  | ok id' =>
      rw [converted] at number
      cases number
      rfl

private theorem toList_key (table : String) (id : Int) :
    (table ++ ":" ++ toString id).toList = table.toList ++ ':' :: (toString id).toList := by
  rw [String.toList_append, String.toList_append, List.append_assoc]
  rfl

/-- A key begins with its table and a colon, and with no other. -/
theorem startsWith_iff {table other : String} {id : Int} (plain : ':' ∉ table.toList) :
    (other ++ ":").toList.isPrefixOf (table ++ ":" ++ toString id).toList = true ↔
      table = other := by
  have start : (other ++ ":").toList = other.toList ++ [':'] := String.toList_append
  rw [List.isPrefixOf_iff_prefix, toList_key, start]
  constructor
  · rintro ⟨rest, same⟩
    rw [List.append_assoc, List.singleton_append] at same
    exact String.toList_inj.mp
      ((List.append_cons_inj_of_notMem plain (colon_notMem_toString id)).mp same.symm).1
  · rintro rfl
    exact ⟨(toString id).toList, by simp⟩

private theorem colon_notMem_groups {rows : List Row} (held : entry ∈ groups rows) :
    ':' ∉ entry.1.toList := by
  obtain ⟨row, _, held⟩ := List.mem_flatMap.mp held
  exact row.colon_notMem_groups held

theorem table_eq_of_key? (plain : ':' ∉ entry.1.toList) (plain' : ':' ∉ entry'.1.toList)
    (named : key? scope entry = some key) (named' : key? scope entry' = some key) :
    entry.1 = entry'.1 := by
  obtain ⟨_, _, id, _, _, same⟩ := exists_of_key? named
  obtain ⟨_, _, id', _, _, same'⟩ := exists_of_key? named'
  exact (Row.columnName_inj plain plain' (same.symm.trans same')).1

/-! ## Records -/

def FirstSeen (scope : Scope) (rows : List Row) (key : String) (record : Record) : Prop :=
  ∃ row entry model, rows.find? (fun row => (keys scope row).contains key) = some row ∧
    entry ∈ row.groups.entries ∧ key? scope entry = some key ∧
    scope.model? entry.1 = some model ∧ (Record.ofModel model).hydrated entry.2 = .ok record

theorem FirstRecord.firstSeen {rows : List Row} {record : Record}
    (first : FirstRecord scope (groups rows) key record) : FirstSeen scope rows key record := by
  obtain ⟨entry, model, found, registered, hydrated⟩ := first
  induction rows with
  | nil => cases found
  | cons row rows ih =>
      rw [groups, List.flatMap_cons, List.find?_append] at found
      cases here : row.groups.entries.find? (fun entry => key? scope entry == some key) with
      | some candidate =>
          rw [here] at found
          obtain rfl := Option.some.inj found
          have held := List.mem_of_find?_eq_some here
          have named : key? scope candidate = some key := by simpa using List.find?_some here
          refine ⟨row, candidate, model, ?_, held, named, registered, hydrated⟩
          rw [List.find?_cons_of_pos]
          exact List.contains_iff_mem.mpr (List.mem_filterMap.mpr ⟨candidate, held, named⟩)
      | none =>
          rw [here] at found
          obtain ⟨row', entry', model', first, rest⟩ := ih found
          refine ⟨row', entry', model', ?_, rest⟩
          rw [List.find?_cons_of_neg, first]
          intro member
          obtain ⟨missed, held, named⟩ := List.mem_filterMap.mp (List.contains_iff_mem.mp member)
          exact List.find?_eq_none.mp here missed held (beq_iff_eq.mpr named)

private theorem hydrated_congr {group group' : Row}
    (same : ∀ column, group.get? column = group'.get? column) (record : Record) :
    record.hydrated group = record.hydrated group' := by
  unfold Record.hydrated Record.fieldsOf
  simp only [same]

/-- A record in a graph is clean, and goes by the key under which the graph has it. -/
theorem FirstSeen.spec (named : scope.Named) {rows : List Row} {record : Record}
    (seen : FirstSeen scope rows key record) : record.key = key ∧ record.dirty = false ∧
      ∀ table, (table ++ ":").toList.isPrefixOf key.toList = true ↔ record.table = table := by
  obtain ⟨row, entry, model, _, held, keyed, registered, hydrated⟩ := seen
  obtain ⟨value, id, given, number, rfl⟩ := Record.hydrated_eq_ok_iff.mp hydrated
  obtain ⟨model', value', id', identified, number', rfl⟩ := exists_of_key? keyed
  obtain ⟨registered', given', _⟩ := identity?_eq_some_iff.mp identified
  obtain rfl := Option.some.inj (registered.symm.trans registered')
  obtain rfl := Option.some.inj (given.symm.trans given')
  obtain rfl := Except.ok.inj (number.symm.trans number')
  have table : model.table = entry.1 := named entry.1 model registered
  refine ⟨?_, rfl, ?_⟩
  · rw [Record.key, Record.table, Record.ofModel, table]
  · intro other
    rw [startsWith_iff (row.colon_notMem_groups held), Record.table, Record.ofModel, table]

/-! ## The graph of some rows -/

/-- What the graph of some rows says about them. -/
structure Materializes (scope : Scope) (rows : List Row) (graph : Graph) : Prop where
  grouped : ∀ row ∈ rows, (∀ entry ∈ row.groups.entries, ':' ∉ entry.1.toList) ∧
    ∀ table column, ':' ∉ table.toList →
      ((row.groups.get? table).bind fun group => group.get? column) =
        row.get? (table ++ ":" ++ column)
  keyed : ∀ row ∈ rows, ∀ entry ∈ row.groups.entries, ∀ model value,
    scope.model? entry.1 = some model → entry.2.get? model.primaryKey = some value →
      value.isNull = false → ∃ id, value.toInt64 = .ok id ∧
        key? scope entry = some (entry.1 ++ ":" ++ toString id.toInt)
  nodes : graph.nodes.keys = (rows.flatMap (keys scope)).eraseDups
  records : ∀ key node, graph.nodes.get? key = some node →
    node.record.key = key ∧ node.record.dirty = false ∧ FirstSeen scope rows key node.record
  links : ∀ key node, graph.nodes.get? key = some node →
    node.links = (rows.flatMap (linked scope key)).eraseDups ∧
      ∀ other, other ∈ node.links ↔
        other ≠ key ∧ ∃ row ∈ rows, key ∈ keys scope row ∧ other ∈ keys scope row
  symmetric : ∀ key node other, graph.nodes.get? key = some node → other ∈ node.links →
    ∃ node', graph.nodes.get? other = some node' ∧ key ∈ node'.links
  roots : graph.roots = (rows.flatMap (rootKeys scope)).eraseDups ∧
    ∀ key ∈ graph.roots, ∃ node, graph.nodes.get? key = some node
  related : ∀ (result : QueryResult) record node table, result.payload = .objects graph →
    graph.nodes.get? record.key = some node →
      ∃ found, result.related record table = .ok found ∧ (found.map Record.key).Nodup ∧
        found = (node.links.filterMap fun key => (graph.nodes.get? key).map Node.record).filter
          fun other => other.table == table

section

variable {rows : List Row} {graph : Graph}

private theorem mem_links_iff_shared (represents : Represents scope rows graph) {node : Node}
    (found : graph.nodes.get? key = some node) {other : String} :
    other ∈ node.links ↔
      other ≠ key ∧ ∃ row ∈ rows, key ∈ keys scope row ∧ other ∈ keys scope row := by
  rw [represents.links key node found, addNew_nil, List.mem_eraseDups, mem_linked_iff_shared]

theorem exists_node_iff (represents : Represents scope rows graph) :
    (∃ node, graph.nodes.get? key = some node) ↔ ∃ row ∈ rows, key ∈ keys scope row := by
  rw [← Option.isSome_iff_exists, ← OrderedMap.contains, OrderedMap.contains_iff_mem_keys,
    represents.nodes, addNew_nil, List.mem_eraseDups, List.mem_flatMap]

theorem mem_keys_of_mem_rootKeys {row : Row} {root : String} (member : root ∈ rootKeys scope row) :
    root ∈ keys scope row := by
  obtain ⟨entry, held, named⟩ := List.mem_filterMap.mp member
  unfold rootKey? at named
  split at named
  · exact List.mem_filterMap.mpr ⟨entry, held, named⟩
  · cases named

/-- Every root is a record of the primary table, and goes by its identifier. -/
theorem exists_node_of_root (represents : Represents scope rows graph) {root : String}
    (member : root ∈ graph.roots) :
    ∃ node, graph.nodes.get? root = some node ∧
      root = scope.primary ++ ":" ++ toString node.record.id.toInt ∧
      (scope.Named → node.record.key = root) := by
  rw [represents.roots, addNew_nil, List.mem_eraseDups] at member
  obtain ⟨row, within, member⟩ := List.mem_flatMap.mp member
  obtain ⟨node, found⟩ := (exists_node_iff represents).mpr
    ⟨row, within, mem_keys_of_mem_rootKeys member⟩
  obtain ⟨entry, held, rooted⟩ := List.mem_filterMap.mp member
  unfold rootKey? at rooted
  split at rooted
  · rename_i primary
    obtain ⟨row', entry', model, _, held', keyed, registered, hydrated⟩ :=
      (represents.records root node found).firstSeen
    obtain ⟨value, id, given, number, record⟩ := Record.hydrated_eq_ok_iff.mp hydrated
    obtain ⟨model', value', id', identified, number', named⟩ := exists_of_key? keyed
    obtain ⟨registered', given', _⟩ := identity?_eq_some_iff.mp identified
    obtain rfl := Option.some.inj (registered.symm.trans registered')
    obtain rfl := Option.some.inj (given.symm.trans given')
    obtain rfl := Except.ok.inj (number.symm.trans number')
    have table := table_eq_of_key? (row.colon_notMem_groups held)
      (row'.colon_notMem_groups held') rooted keyed
    have spec (named : scope.Named) := (represents.records root node found).firstSeen.spec named
    refine ⟨node, found, ?_, fun named => (spec named).1⟩
    rw [named, ← table, primary, record]
  · cases rooted

/-- The records of a table behind some keys are those behind the keys that begin with it. -/
theorem records_startsWith (named : scope.Named) (represents : Represents scope rows graph)
    (table : String) (links : List String) :
    ((links.filter fun link => (table ++ ":").toList.isPrefixOf link.toList).filterMap fun link =>
        (graph.nodes.get? link).map Node.record) =
      (links.filterMap fun link => (graph.nodes.get? link).map Node.record).filter
        fun record => record.table == table := by
  rw [List.filterMap_filter, List.filter_filterMap]
  apply List.filterMap_congr
  intro link _
  cases found : graph.nodes.get? link with
  | none => simp
  | some node =>
      obtain ⟨_, _, begins⟩ := (represents.records link node found).firstSeen.spec named
      have same : (table ++ ":").toList.isPrefixOf link.toList = (node.record.table == table) :=
        Bool.eq_iff_iff.mpr ((begins table).trans beq_iff_eq.symm)
      rw [same]
      rfl

private theorem nodup_keys_of_records (named : scope.Named)
    (represents : Represents scope rows graph)
    {links : List String} (distinct : links.Nodup) :
    ((links.filterMap fun link => (graph.nodes.get? link).map Node.record).map Record.key).Nodup := by
  refine distinct.sublist ?_
  rw [List.map_filterMap]
  induction links with
  | nil => exact .slnil
  | cons link links ih =>
      have rest := ih (List.nodup_cons.mp distinct).2
      cases found : graph.nodes.get? link with
      | none =>
          rw [List.filterMap_cons_none (by simp [found])]
          exact rest.cons link
      | some node =>
          obtain ⟨named, _⟩ := (represents.records link node found).firstSeen.spec named
          rw [List.filterMap_cons_some (b := link) (by simp [found, named])]
          exact rest.cons_cons link

private theorem related_eq (named : scope.Named) (represents : Represents scope rows graph)
    {result : QueryResult} (payload : result.payload = .objects graph) {record : Record} {node : Node}
    (found : graph.nodes.get? record.key = some node) (table : String) :
    result.related record table =
      .ok ((node.links.filterMap fun link => (graph.nodes.get? link).map Node.record).filter
        fun other => other.table == table) := by
  unfold QueryResult.related
  rw [payload]
  dsimp only
  rw [found]
  exact congrArg Except.ok (records_startsWith named represents table node.links)

private theorem exists_id_of_readable {row : Row} (readable : Readable scope row)
    (held : entry ∈ row.groups.entries) {model : Model} {value : Value}
    (identified : identity? scope entry = some (model, value)) :
    ∃ id, value.toInt64 = .ok id ∧
      key? scope entry = some (entry.1 ++ ":" ++ toString id.toInt) := by
  obtain ⟨found, read⟩ := readable entry held
  rcases identity?_of_identifier? read with ⟨missing, _⟩ | ⟨_, _, id, same, number, _⟩
  · rw [identified] at missing
    cases missing
  · rw [identified] at same
    cases same
    exact ⟨id, number, key?_of_identity? identified number⟩

private theorem Represents.materializes (named : scope.Named)
    (readable : ∀ row ∈ rows, Readable scope row)
    (represents : Represents scope rows graph) : Materializes scope rows graph := by
  constructor
  case grouped =>
    intro row member
    constructor
    · intro entry held
      exact row.colon_notMem_groups held
    · intro table column plain
      exact row.get?_groups plain column
  case keyed =>
    intro row member entry held model value registered given real
    exact exists_id_of_readable (readable row member) held
      (identity?_eq_some_iff.mpr ⟨registered, given, real⟩)
  case nodes => rw [represents.nodes, addNew_nil]
  case records =>
    intro key node found
    have seen := (represents.records key node found).firstSeen
    obtain ⟨same, clean, _⟩ := seen.spec named
    exact ⟨same, clean, seen⟩
  case links =>
    intro key node found
    constructor
    · rw [represents.links key node found, addNew_nil]
    · intro other
      exact mem_links_iff_shared represents found
  case symmetric =>
    intro key node other found member
    obtain ⟨apart, row, held, here, there⟩ := (mem_links_iff_shared represents found).mp member
    obtain ⟨node', found'⟩ := (exists_node_iff represents).mpr ⟨row, held, there⟩
    exact ⟨node', found', (mem_links_iff_shared represents found').mpr
      ⟨apart.symm, row, held, there, here⟩⟩
  case roots =>
    have roots : graph.roots = (rows.flatMap (rootKeys scope)).eraseDups := by
      rw [represents.roots, addNew_nil]
    refine ⟨roots, ?_⟩
    intro key member
    rw [roots, List.mem_eraseDups] at member
    obtain ⟨row, held, root⟩ := List.mem_flatMap.mp member
    exact (exists_node_iff represents).mpr ⟨row, held, mem_keys_of_mem_rootKeys root⟩
  case related =>
    intro result record node table payload found
    have distinct : node.links.Nodup := by
      rw [represents.links record.key node found]
      exact nodup_addNew List.nodup_nil _
    have whole := nodup_keys_of_records named represents distinct
    exact ⟨_, related_eq named represents payload found table,
      whole.sublist (List.filter_sublist.map Record.key), rfl⟩

/-! ## Rows again, and in another order -/

private theorem FirstRecord.unique {entries : List (String × Row)} {record record' : Record}
    (first : FirstRecord scope entries key record) (first' : FirstRecord scope entries key record') :
    record = record' := by
  obtain ⟨entry, model, found, registered, hydrated⟩ := first
  obtain ⟨entry', model', found', registered', hydrated'⟩ := first'
  obtain rfl := Option.some.inj (found.symm.trans found')
  obtain rfl := Option.some.inj (registered.symm.trans registered')
  exact Except.ok.inj (hydrated.symm.trans hydrated')

private theorem Represents.unique {graph' : Graph} (represents : Represents scope rows graph)
    (represents' : Represents scope rows graph') : graph = graph' := by
  have values (key : String) : graph.nodes.get? key = graph'.nodes.get? key := by
    cases found : graph.nodes.get? key with
    | none =>
        rw [OrderedMap.get?_eq_none_iff, represents.nodes, ← represents'.nodes] at found
        exact (OrderedMap.get?_eq_none_iff.mpr found).symm
    | some node =>
        obtain ⟨node', found'⟩ := (exists_node_iff represents').mpr
          ((exists_node_iff represents).mp ⟨node, found⟩)
        rw [found']
        have record := (represents.records key node found).unique
          (represents'.records key node' found')
        have links := (represents.links key node found).trans
          (represents'.links key node' found').symm
        cases node
        cases node'
        cases record
        cases links
        rfl
  have nodes : graph.nodes = graph'.nodes :=
    OrderedMap.ext_get? (represents.nodes.trans represents'.nodes.symm) values
  have roots := represents.roots.trans represents'.roots.symm
  cases graph
  cases graph'
  cases nodes
  cases roots
  rfl

private theorem flatMap_subset {α β : Type} {items more : List α} (known : items ⊆ more)
    (f : α → List β) :
    items.flatMap f ⊆ more.flatMap f := by
  intro result member
  obtain ⟨item, held, made⟩ := List.mem_flatMap.mp member
  exact List.mem_flatMap.mpr ⟨item, known held, made⟩

private theorem addNew_repeat {before again : List String} (known : again ⊆ before)
    (after : List String) :
    addNew [] (before ++ again ++ after) = addNew [] (before ++ after) := by
  have seen : addNew (addNew [] before) again = addNew [] before :=
    addNew_of_subset fun key member => mem_addNew.mpr (.inr (known member))
  rw [addNew_append, addNew_append, seen, ← addNew_append]

private theorem find?_repeat {α : Type} {p : α → Bool} {before again : List α}
    (known : again ⊆ before)
    (after : List α) : (before ++ again ++ after).find? p = (before ++ after).find? p := by
  rw [List.find?_append, List.find?_append, List.find?_append]
  cases found : before.find? p with
  | some first => rfl
  | none =>
      have missing : again.find? p = none :=
        List.find?_eq_none.mpr fun item member => List.find?_eq_none.mp found item (known member)
      rw [missing]
      rfl

private theorem Represents.repeated {before again after : List Row} (known : again ⊆ before)
    (represents : Represents scope (before ++ again ++ after) graph) :
    Represents scope (before ++ after) graph := by
  have repeats (f : Row → List String) : addNew [] ((before ++ again ++ after).flatMap f) =
      addNew [] ((before ++ after).flatMap f) := by
    rw [List.flatMap_append, List.flatMap_append, List.flatMap_append]
    exact addNew_repeat (flatMap_subset known f) _
  constructor
  · rw [represents.nodes, repeats]
  · rw [represents.roots, repeats]
  · intro key node found
    obtain ⟨entry, model, first, rest⟩ := represents.records key node found
    refine ⟨entry, model, ?_, rest⟩
    have within : groups again ⊆ groups before := flatMap_subset known _
    rw [groups_append, groups_append, find?_repeat within] at first
    rw [groups_append, first]
  · intro key node found
    rw [represents.links key node found, repeats]

def Agree (scope : Scope) (rows : List Row) : Prop :=
  ∀ entry ∈ groups rows, ∀ entry' ∈ groups rows, ∀ key, key? scope entry = some key →
    key? scope entry' = some key → ∀ column, entry.2.get? column = entry'.2.get? column

structure SameObjects (graph graph' : Graph) : Prop where
  nodes : graph.nodes.keys.Perm graph'.nodes.keys
  roots : graph.roots.Perm graph'.roots
  records : ∀ key node node', graph.nodes.get? key = some node →
    graph'.nodes.get? key = some node' →
      node.record = node'.record ∧ node.links.Perm node'.links

private theorem FirstSeen.eq_of_agree (agree : Agree scope rows) {rows' : List Row}
    (within : rows' ⊆ rows)
    {record record' : Record} (seen : FirstSeen scope rows key record)
    (seen' : FirstSeen scope rows' key record') : record = record' := by
  obtain ⟨row, entry, model, first, held, named, registered, hydrated⟩ := seen
  obtain ⟨row', entry', model', first', held', named', registered', hydrated'⟩ := seen'
  have inside : entry ∈ groups rows :=
    List.mem_flatMap.mpr ⟨row, List.mem_of_find?_eq_some first, held⟩
  have inside' : entry' ∈ groups rows :=
    List.mem_flatMap.mpr ⟨row', within (List.mem_of_find?_eq_some first'), held'⟩
  -- Which row came first may differ, but not the table of the key nor what its columns hold.
  have columns := agree entry inside entry' inside' key named named'
  rw [← table_eq_of_key? (colon_notMem_groups inside) (colon_notMem_groups inside') named named',
    registered] at registered'
  obtain rfl := Option.some.inj registered'
  rw [hydrated_congr columns, hydrated'] at hydrated
  exact (Except.ok.inj hydrated).symm

private theorem addNew_perm {names names' : List String}
    (same : ∀ name, name ∈ names ↔ name ∈ names') :
    (addNew [] names).Perm (addNew [] names') := by
  refine (List.perm_ext_iff_of_nodup (nodup_addNew List.nodup_nil _)
    (nodup_addNew List.nodup_nil _)).mpr ?_
  intro name
  rw [mem_addNew, mem_addNew, same]

private theorem Represents.sameObjects (represents : Represents scope rows graph) {rows' : List Row}
    {graph' : Graph} (represents' : Represents scope rows' graph') (agree : Agree scope rows)
    (same : ∀ row, row ∈ rows ↔ row ∈ rows') : SameObjects graph graph' := by
  have perm (f : Row → List String) :
      (addNew [] (rows.flatMap f)).Perm (addNew [] (rows'.flatMap f)) := by
    apply addNew_perm
    intro name
    simp only [List.mem_flatMap, same]
  constructor
  · rw [represents.nodes, represents'.nodes]
    exact perm _
  · rw [represents.roots, represents'.roots]
    exact perm _
  · intro key node node' found found'
    constructor
    · have seen := (represents.records key node found).firstSeen
      have seen' := (represents'.records key node' found').firstSeen
      exact seen.eq_of_agree agree (fun row held => (same row).mpr held) seen'
    · rw [represents.links key node found, represents'.links key node' found']
      exact perm _

private theorem exists_ofRows_of_subset (made : ofRows scope rows = .ok graph) {rows' : List Row}
    (within : rows' ⊆ rows) : ∃ graph', ofRows scope rows' = .ok graph' :=
  exists_ofRows_eq_ok.mpr fun row held => exists_ofRows_eq_ok.mp ⟨graph, made⟩ row (within held)

/-- The rows of a result make a node of each record that they hold, as the first row with its key has
it, and link the records that share a row. Rows that come again change nothing, and rows in another
order make the same records with the same links. -/
theorem ofRows_materializes (named : scope.Named) (made : ofRows scope rows = .ok graph) :
    Materializes scope rows graph ∧
      (∀ before again after, rows = before ++ after → again ⊆ before →
        ofRows scope (before ++ again ++ after) = .ok graph) ∧
      ∀ rows', rows.Perm rows' → Agree scope rows →
        ∃ graph', ofRows scope rows' = .ok graph' ∧ SameObjects graph graph' := by
  have represents := represents_ofRows made
  refine ⟨represents.materializes named (exists_ofRows_eq_ok.mp ⟨graph, made⟩), ?_, ?_⟩
  · rintro before again after rfl known
    have within : before ++ again ++ after ⊆ before ++ after := by
      intro row member
      simp only [List.mem_append] at member ⊢
      rcases member with (held | repeats) | later
      · exact .inl held
      · exact .inl (known repeats)
      · exact .inr later
    obtain ⟨graph', made'⟩ := exists_ofRows_of_subset made within
    rw [made', ((represents_ofRows made').repeated known).unique represents]
  · intro rows' perm agree
    obtain ⟨graph', made'⟩ := exists_ofRows_of_subset made perm.symm.subset
    exact ⟨graph', made', represents.sameObjects (represents_ofRows made') agree
      fun row => perm.mem_iff⟩

private theorem agree_of_entries (same : ∀ entry ∈ groups rows, ∀ entry' ∈ groups rows,
    (key? scope entry).isSome = true → key? scope entry = key? scope entry' →
      entry.2.entries = entry'.2.entries) : Agree scope rows := by
  intro entry inside entry' inside' key named named' column
  have entries := same entry inside entry' inside' (by rw [named]; rfl) (named.trans named'.symm)
  rw [OrderedMap.get?, entries, ← OrderedMap.get?]

/-- Two purchases share a customer, and a third one has none. -/
theorem ofRows_materializes_purchases :
    let q : Query := { table := "purchase", joins := ["customer"] }
    let c := Example.Shop.describe { dialect := .mysql, database := "shop" }
    let rows := Example.Shop.purchaseRows
    ∃ scope c' graph, (q.scope Example.Shop.registry).runOn c = (.ok scope, c') ∧
      scope.Named ∧ ofRows scope rows = .ok graph ∧
      graph.nodes.keys = ["purchase:7", "customer:1", "purchase:8", "purchase:9"] ∧
      Materializes scope rows graph ∧ ofRows scope (rows ++ rows) = .ok graph ∧
      Agree scope rows ∧
      ∃ graph', ofRows scope rows.reverse = .ok graph' ∧ SameObjects graph graph' := by
  intro q c rows
  have read : ((q.scope Example.Shop.registry).runOn c).1.toOption.map (fun scope =>
        (decide scope.Named,
          (ofRows scope rows).toOption.map fun graph => graph.nodes.keys,
          decide (∀ entry ∈ groups rows, ∀ entry' ∈ groups rows, (key? scope entry).isSome = true →
            key? scope entry = key? scope entry' → entry.2.entries = entry'.2.entries))) =
      some (true, some ["purchase:7", "customer:1", "purchase:8", "purchase:9"], true) := by
    decide +kernel
  obtain ⟨scope, c', ran, same⟩ := Action.exists_of_map_toOption read
  obtain ⟨named, same⟩ := Prod.mk.inj same
  obtain ⟨made, entries⟩ := Prod.mk.inj same
  have named : scope.Named := of_decide_eq_true named
  have agree : Agree scope rows := agree_of_entries (of_decide_eq_true entries)
  cases ran' : ofRows scope rows with
  | error e =>
      rw [ran'] at made
      cases made
  | ok graph =>
      rw [ran'] at made
      obtain ⟨materializes, repeated, permuted⟩ := ofRows_materializes named ran'
      have again := repeated rows rows [] (List.append_nil rows).symm (List.Subset.refl rows)
      rw [List.append_nil] at again
      exact ⟨scope, c', graph, ran, named, ran', Option.some.inj made, materializes, again, agree,
        permuted rows.reverse (List.reverse_perm rows).symm agree⟩

end

end Graph

end RecordMapper
