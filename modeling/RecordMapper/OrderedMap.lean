/-!
Maps from names that keep the order in which names were first put in. Putting a present name again
replaces its value in place; taking a name out keeps the order of the others.
-/

set_option autoImplicit false

namespace RecordMapper

/-- Puts a value at a name: in place where the name is present, at the end otherwise. -/
def putEntry {α : Type} (name : String) (value : α) : List (String × α) → List (String × α)
  | [] => [(name, value)]
  | entry :: rest =>
    if entry.1 = name then (name, value) :: rest else entry :: putEntry name value rest

theorem keys_putEntry {α : Type} (name : String) (value : α) (entries : List (String × α)) :
    (putEntry name value entries).map Prod.fst =
      if name ∈ entries.map Prod.fst then entries.map Prod.fst
      else entries.map Prod.fst ++ [name] := by
  induction entries with
  | nil => simp [putEntry]
  | cons entry rest ih =>
      by_cases same : entry.1 = name
      · simp [putEntry, same]
      · have other : ¬ name = entry.1 := fun equal => same equal.symm
        simp only [putEntry, same, ↓reduceIte, List.map_cons, ih, List.mem_cons, other, false_or]
        split <;> simp

private theorem nodup_keys_putEntry {α : Type} (name : String) (value : α)
    {entries : List (String × α)}
    (distinct : (entries.map Prod.fst).Nodup) :
    ((putEntry name value entries).map Prod.fst).Nodup := by
  rw [keys_putEntry]
  split
  · exact distinct
  · rename_i absent
    rw [List.nodup_append]
    refine ⟨distinct, by simp, ?_⟩
    intro key member other single
    rw [List.mem_singleton] at single
    rintro rfl
    exact absent (single ▸ member)

structure OrderedMap (α : Type) where
  entries : List (String × α)
  distinct : (entries.map Prod.fst).Nodup
  deriving Repr

namespace OrderedMap

variable {α : Type}

def empty : OrderedMap α := ⟨[], by simp⟩

instance : EmptyCollection (OrderedMap α) := ⟨empty⟩

instance : Inhabited (OrderedMap α) := ⟨∅⟩

def keys (m : OrderedMap α) : List String := m.entries.map Prod.fst

def values (m : OrderedMap α) : List α := m.entries.map Prod.snd

def size (m : OrderedMap α) : Nat := m.entries.length

def isEmpty (m : OrderedMap α) : Bool := m.entries.isEmpty

def get? (m : OrderedMap α) (name : String) : Option α := m.entries.lookup name

def contains (m : OrderedMap α) (name : String) : Bool := (m.get? name).isSome

def insert (m : OrderedMap α) (name : String) (value : α) : OrderedMap α :=
  ⟨putEntry name value m.entries, nodup_keys_putEntry name value m.distinct⟩

def erase (m : OrderedMap α) (name : String) : OrderedMap α :=
  ⟨m.entries.filter fun entry => entry.1 != name,
    m.distinct.sublist (List.filter_sublist.map Prod.fst)⟩

/-- The map of a list of pairs: a repeated name keeps its first place and takes its last value. -/
def ofList (pairs : List (String × α)) : OrderedMap α :=
  pairs.foldl (fun m pair => m.insert pair.1 pair.2) ∅

end OrderedMap

end RecordMapper
