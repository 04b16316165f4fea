import Mathlib.Data.List.Induction
import RecordMapper.Query.Result

/-!
Maps and lists of names that keep the order in which names came first.
-/

set_option autoImplicit false

namespace RecordMapper

/-! ## Maps -/

private theorem lookup_putEntry {α : Type} {name other : String} (differ : other ≠ name) (value : α)
    (entries : List (String × α)) :
    (putEntry name value entries).lookup other = entries.lookup other := by
  have apart : (other == name) = false := beq_eq_false_iff_ne.mpr differ
  induction entries with
  | nil => simp [putEntry, List.lookup_cons, apart]
  | cons entry entries ih =>
      obtain ⟨key, held⟩ := entry
      rw [putEntry]
      split
      · rename_i same
        obtain rfl : key = name := same
        simp [List.lookup_cons, apart]
      · simp [List.lookup_cons, ih]

private theorem lookup_putEntry_self {α : Type} (name : String) (value : α)
    (entries : List (String × α)) : (putEntry name value entries).lookup name = some value := by
  induction entries with
  | nil => simp [putEntry]
  | cons entry entries ih =>
      obtain ⟨key, held⟩ := entry
      rw [putEntry]
      split
      · exact List.lookup_cons_self
      · rename_i differ
        have apart : (name == key) = false := beq_eq_false_iff_ne.mpr fun same => differ same.symm
        rw [List.lookup_cons, apart]
        exact ih

theorem putEntry_of_not_mem {α : Type} {name : String} (value : α) {entries : List (String × α)}
    (absent : name ∉ entries.map Prod.fst) : putEntry name value entries = entries ++ [(name, value)] := by
  induction entries with
  | nil => rfl
  | cons entry rest ih =>
      rw [List.map_cons, List.mem_cons, not_or] at absent
      rw [putEntry, if_neg (Ne.symm absent.1), ih absent.2]
      rfl

theorem lookup_eq_none_of_not_mem {α : Type} {name : String} {entries : List (String × α)}
    (absent : name ∉ entries.map Prod.fst) : entries.lookup name = none := by
  rw [List.lookup_eq_none_iff]
  rintro ⟨key, value⟩ member
  exact bne_iff_ne.mpr fun same => absent (List.mem_map.mpr ⟨_, member, same.symm⟩)

theorem lookup_eq_some_iff_mem {α : Type} {name : String} {value : α}
    {entries : List (String × α)} (distinct : (entries.map Prod.fst).Nodup) :
    entries.lookup name = some value ↔ (name, value) ∈ entries := by
  induction entries with
  | nil => simp
  | cons entry entries ih =>
      obtain ⟨key, held⟩ := entry
      obtain ⟨fresh, distinct⟩ := List.nodup_cons.mp distinct
      rw [List.lookup_cons, List.mem_cons]
      cases same : name == key with
      | true =>
          obtain rfl : name = key := beq_iff_eq.mp same
          constructor
          · rintro ⟨⟩
            exact .inl rfl
          · rintro (equal | member)
            · cases equal
              rfl
            · exact absurd (List.mem_map_of_mem member) fresh
      | false =>
          have differ : name ≠ key := beq_eq_false_iff_ne.mp same
          simp [ih distinct, differ]

namespace OrderedMap

variable {α : Type} {m : OrderedMap α} {name : String}

theorem get?_insert_of_ne {other : String} (differ : other ≠ name) (value : α) :
    (m.insert name value).get? other = m.get? other :=
  lookup_putEntry differ value m.entries

theorem get?_insert_self (value : α) : (m.insert name value).get? name = some value :=
  lookup_putEntry_self name value m.entries

theorem get?_eq_some_iff_mem {value : α} :
    m.get? name = some value ↔ (name, value) ∈ m.entries :=
  lookup_eq_some_iff_mem m.distinct

theorem contains_iff_mem_keys : m.contains name = true ↔ name ∈ m.keys := by
  unfold contains keys
  rw [Option.isSome_iff_exists]
  constructor
  · rintro ⟨value, found⟩
    exact List.mem_map.mpr ⟨(name, value), get?_eq_some_iff_mem.mp found, rfl⟩
  · intro member
    obtain ⟨⟨_, value⟩, held, rfl⟩ := List.mem_map.mp member
    exact ⟨value, get?_eq_some_iff_mem.mpr held⟩

theorem get?_eq_none_iff : m.get? name = none ↔ name ∉ m.keys := by
  rw [← contains_iff_mem_keys, contains]
  simp

private theorem map_get?_keys (m : OrderedMap α) :
    m.keys.map (fun name => (name, m.get? name)) =
      m.entries.map fun (name, value) => (name, some value) := by
  rw [keys, List.map_map]
  apply List.map_congr_left
  intro entry held
  exact Prod.ext rfl (get?_eq_some_iff_mem.mpr held)

theorem ext_entries {m' : OrderedMap α} (same : m.entries = m'.entries) : m = m' := by
  cases m
  cases m'
  cases same
  rfl

/-- A map is that of its entries. -/
theorem ofList_entries (m : OrderedMap α) : ofList m.entries = m := by
  have appends (more : List (String × α)) (m : OrderedMap α)
      (distinct : ((m.entries ++ more).map Prod.fst).Nodup) :
      (more.foldl (fun m pair => m.insert pair.1 pair.2) m).entries = m.entries ++ more := by
    induction more generalizing m with
    | nil => exact (List.append_nil _).symm
    | cons pair more ih =>
        have absent : pair.1 ∉ m.entries.map Prod.fst := by
          rw [List.map_append, List.nodup_append] at distinct
          exact fun member => distinct.2.2 _ member _ List.mem_cons_self rfl
        have inserted : (m.insert pair.1 pair.2).entries = m.entries ++ [pair] :=
          putEntry_of_not_mem _ absent
        rw [List.foldl_cons, ih _ (by rw [inserted, List.append_assoc]; exact distinct), inserted,
          List.append_assoc]
        rfl
  exact ext_entries (appends m.entries ∅ m.distinct)

/-- A name for which the pairs of a list agree has the value of any of them. -/
theorem get?_ofList_eq_some_iff {pairs : List (String × α)}
    (agree : ∀ {value value'}, (name, value) ∈ pairs → (name, value') ∈ pairs → value = value')
    {value : α} : (ofList pairs).get? name = some value ↔ (name, value) ∈ pairs := by
  induction pairs using List.reverseRecOn with
  | nil => simp [ofList, get?, EmptyCollection.emptyCollection, empty]
  | append_singleton pairs last ih =>
      obtain ⟨key, held⟩ := last
      have whole : ofList (pairs ++ [(key, held)]) = (ofList pairs).insert key held := by
        simp [ofList]
      have ih := ih fun first second =>
        agree (List.mem_append_left _ first) (List.mem_append_left _ second)
      rw [whole]
      by_cases same : name = key
      · subst same
        have here : (name, held) ∈ pairs ++ [(name, held)] := by simp
        rw [get?_insert_self, Option.some.injEq]
        constructor
        · rintro rfl
          exact here
        · exact agree here
      · rw [get?_insert_of_ne same, ih]
        simp [same]

/-- A map is what it has at each of its names, in their order. -/
theorem ext_get? {m' : OrderedMap α} (keys : m.keys = m'.keys)
    (values : ∀ name, m.get? name = m'.get? name) : m = m' := by
  have same := m.map_get?_keys
  simp only [keys, values] at same
  rw [m'.map_get?_keys] at same
  refine ext_entries (((List.map_inj_right ?_).mp same).symm)
  rintro ⟨_, _⟩ ⟨_, _⟩ ⟨⟩
  rfl

end OrderedMap

/-! ## Lists of names -/

section

variable {known more : List String} {key : String}

theorem addNew_append (known more others : List String) :
    addNew known (more ++ others) = addNew (addNew known more) others :=
  List.foldl_append

theorem addNew_cons_of_mem (present : key ∈ known) (more : List String) :
    addNew known (key :: more) = addNew known more := by
  simp [addNew, present]

theorem addNew_cons_of_not_mem (absent : key ∉ known) (more : List String) :
    addNew known (key :: more) = addNew (known ++ [key]) more := by
  simp [addNew, absent]

theorem mem_addNew : key ∈ addNew known more ↔ key ∈ known ∨ key ∈ more := by
  induction more generalizing known with
  | nil => simp [addNew]
  | cons first more ih =>
      by_cases present : first ∈ known
      · rw [addNew_cons_of_mem present, ih, List.mem_cons]
        constructor
        · rintro (held | later)
          · exact .inl held
          · exact .inr (.inr later)
        · rintro (held | rfl | later)
          · exact .inl held
          · exact .inl present
          · exact .inr later
      · rw [addNew_cons_of_not_mem present, ih]
        simp [or_assoc]

theorem nodup_addNew (distinct : known.Nodup) (more : List String) :
    (addNew known more).Nodup := by
  induction more generalizing known with
  | nil => exact distinct
  | cons first more ih =>
      by_cases present : first ∈ known
      · rw [addNew_cons_of_mem present]
        exact ih distinct
      · rw [addNew_cons_of_not_mem present]
        apply ih
        refine List.nodup_append.mpr ⟨distinct, by simp, ?_⟩
        intro key held other single
        rw [List.mem_singleton] at single
        rintro rfl
        exact present (single ▸ held)

theorem addNew_of_subset (present : ∀ key ∈ more, key ∈ known) : addNew known more = known := by
  induction more with
  | nil => rfl
  | cons first more ih =>
      obtain ⟨held, others⟩ := List.forall_mem_cons.mp present
      rw [addNew_cons_of_mem held]
      exact ih others

private theorem addNew_eq_append (known more : List String) :
    ∃ added, addNew known more = known ++ added := by
  induction more generalizing known with
  | nil => exact ⟨[], (List.append_nil known).symm⟩
  | cons first more ih =>
      by_cases present : first ∈ known
      · rw [addNew_cons_of_mem present]
        exact ih known
      · obtain ⟨added, same⟩ := ih (known ++ [first])
        rw [addNew_cons_of_not_mem present, same, List.append_assoc]
        exact ⟨_, rfl⟩

theorem head?_addNew_nil_cons (first : String) (more : List String) :
    (addNew [] (first :: more)).head? = some first := by
  obtain ⟨added, same⟩ := addNew_eq_append [first] more
  rw [addNew_cons_of_not_mem List.not_mem_nil, List.nil_append, same]
  rfl

section

variable {α : Type} [BEq α] [LawfulBEq α] {items : List α} {last : α}

theorem eraseDups_concat_of_mem (present : last ∈ items) :
    (items ++ [last]).eraseDups = items.eraseDups := by
  rw [List.eraseDups_append]
  simp [List.removeAll, present]

theorem eraseDups_concat_of_not_mem (absent : last ∉ items) :
    (items ++ [last]).eraseDups = items.eraseDups ++ [last] := by
  rw [List.eraseDups_append]
  simp [List.removeAll, absent, List.eraseDups_cons]

end

/-- Added to nothing, the names of a list stay where each of them came first. -/
theorem addNew_nil (more : List String) : addNew [] more = more.eraseDups := by
  induction more using List.reverseRecOn with
  | nil => rfl
  | append_singleton more last ih =>
      rw [addNew_append, ih]
      by_cases present : last ∈ more
      · rw [eraseDups_concat_of_mem present]
        exact addNew_cons_of_mem (List.mem_eraseDups.mpr present) []
      · rw [eraseDups_concat_of_not_mem present]
        exact addNew_cons_of_not_mem (fun held => present (List.mem_eraseDups.mp held)) []

theorem addNew_of_nodup (distinct : (known ++ more).Nodup) : addNew known more = known ++ more := by
  induction more generalizing known with
  | nil => exact (List.append_nil known).symm
  | cons first more ih =>
      have absent : first ∉ known := by
        intro held
        exact (List.nodup_append.mp distinct).2.2 first held first List.mem_cons_self rfl
      rw [List.append_cons] at distinct ⊢
      rw [addNew_cons_of_not_mem absent, ih distinct]

end

theorem OrderedMap.keys_insert {α : Type} (m : OrderedMap α) (name : String) (value : α) :
    (m.insert name value).keys = addNew m.keys [name] := by
  have keys : (m.insert name value).keys = if name ∈ m.keys then m.keys else m.keys ++ [name] :=
    keys_putEntry name value m.entries
  rw [keys]
  split
  · rename_i present
    exact (addNew_cons_of_mem present []).symm
  · rename_i absent
    exact (addNew_cons_of_not_mem absent []).symm

end RecordMapper
