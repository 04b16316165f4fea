import RecordMapper.Proofs.Query.Compiled
import RecordMapper.Proofs.Query.Groups
import RecordMapper.Proofs.Schema.Name

/-!
How references name columns. A reference with a dot or a colon names a table and a column of it; any
other one names a column by itself, of whichever table lists it.
-/

set_option autoImplicit false

namespace RecordMapper

namespace Text

variable {drops : Char → Bool} {cs : List Char} {c : Char}

private theorem mem_dropWhile (kept : drops c = false) : c ∈ cs.dropWhile drops ↔ c ∈ cs := by
  constructor
  · exact fun member => (List.dropWhile_suffix drops).subset member
  · intro member
    rw [← List.takeWhile_append_dropWhile (p := drops) (l := cs), List.mem_append] at member
    refine member.resolve_left fun early => ?_
    rw [List.mem_takeWhile_imp early] at kept
    cases kept

private theorem mem_trimBoth (kept : drops c = false) : c ∈ trimBoth drops cs ↔ c ∈ cs := by
  rw [trimBoth, List.mem_reverse, mem_dropWhile kept, List.mem_reverse, mem_dropWhile kept]

end Text

namespace Scope

def separates (c : Char) : Bool := c == '.' || c == ':'

def Qualified (reference : String) : Prop := ∃ c ∈ reference.toList, separates c = true

instance : DecidablePred Qualified := fun reference =>
  decidable_of_iff (reference.toList.any separates = true) List.any_eq_true

theorem not_isBlank_of_separates {c : Char} (stops : separates c = true) :
    Text.isBlank c = false := by
  simp only [separates, Bool.or_eq_true, beq_iff_eq] at stops
  rcases stops with rfl | rfl <;> decide

theorem qualified_iff_cut {reference : String} : Qualified reference ↔
    ∃ before after, Text.cut? separates (Text.trim reference).toList = some (before, after) := by
  have inside (c : Char) (stops : separates c = true) :
      c ∈ (Text.trim reference).toList ↔ c ∈ reference.toList := by
    rw [Text.trim, String.toList_ofList]
    exact Text.mem_trimBoth (not_isBlank_of_separates stops)
  constructor
  · rintro ⟨c, member, stops⟩
    cases cut : Text.cut? separates (Text.trim reference).toList with
    | none =>
        have keeps := Text.not_cuts_of_cut?_eq_none cut c ((inside c stops).mpr member)
        rw [stops] at keeps
        cases keeps
    | some parts => exact ⟨parts.1, parts.2, rfl⟩
  · rintro ⟨before, after, cut⟩
    obtain ⟨c, stops, whole, -⟩ := Text.cut?_eq_some cut
    refine ⟨c, (inside c stops).mp ?_, stops⟩
    rw [whole]
    simp

variable {s : Scope} {table column : String}

theorem mem_tableNames_of_mem_columns (listed : column ∈ s.columns table) :
    table ∈ s.tableNames := by
  unfold columns at listed
  split at listed
  · rename_i entry found
    exact OrderedMap.contains_iff_mem_keys.mp (by simp [OrderedMap.contains, found])
  · cases listed

/-- A qualified reference names a column that its table lists. -/
theorem resolve_of_cut {reference : String} {before after : List Char} {target : ColumnRef}
    (cut : Text.cut? separates (Text.trim reference).toList = some (before, after)) :
    s.resolve reference = .ok target ↔
      Text.trim (.ofList after) ∈ s.columns (Name.normalize (.ofList before)) ∧
        target = .of (Name.normalize (.ofList before)) (Text.trim (.ofList after)) := by
  change Text.cut? (fun c => c == '.' || c == ':') _ = _ at cut
  simp only [resolve, cut]
  split
  · rename_i absent
    refine ⟨nofun, fun ⟨listed, _⟩ => ?_⟩
    rw [contains_iff_mem.mpr (mem_tableNames_of_mem_columns listed)] at absent
    cases absent
  · split
    · rename_i listed
      rw [Except.ok.injEq]
      exact ⟨fun same => ⟨List.contains_iff_mem.mp listed, same.symm⟩, fun same => same.2.symm⟩
    · rename_i unlisted
      exact ⟨nofun, fun ⟨listed, _⟩ => absurd (List.contains_iff_mem.mpr listed) unlisted⟩

theorem tablesListing_eq (s : Scope) (column : String) :
    s.tablesListing column = s.tableNames.filter fun table => (s.columns table).contains column := by
  unfold tablesListing tableNames OrderedMap.keys
  rw [List.filter_map]
  congr 1
  refine List.filter_congr fun entry held => ?_
  have found : s.tables.get? entry.1 = some entry.2 := OrderedMap.get?_eq_some_iff_mem.mpr held
  simp [columns, found]

/-- A bare reference names a column that one table lists. -/
theorem resolve_of_not_qualified {reference : String} (bare : ¬ Qualified reference) :
    s.resolve reference =
      match s.tablesListing (Text.trim reference) with
      | [table] => .ok (.of table (Text.trim reference))
      | [] => .error (.of (.unknownColumn (Text.trim reference)))
      | tables => .error (.of (.ambiguousColumn (Text.trim reference) tables)) := by
  have uncut : Text.cut? separates (Text.trim reference).toList = none := by
    cases cut : Text.cut? separates (Text.trim reference).toList with
    | none => rfl
    | some parts => exact absurd (qualified_iff_cut.mpr ⟨parts.1, parts.2, cut⟩) bare
  unfold resolve
  dsimp only
  split
  · rename_i cut
    cases uncut.symm.trans cut
  · rfl

end Scope

end RecordMapper
