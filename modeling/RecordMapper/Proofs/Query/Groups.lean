import Mathlib.Data.List.Basic
import RecordMapper.Proofs.OrderedMap

/-!
The groups of columns of a row. A column's name is cut at its first colon, so that a group holds what
its row has under the table, a colon and the column.
-/

set_option autoImplicit false

namespace RecordMapper

namespace Text

variable {cuts : Char → Bool} {text before after : List Char}

theorem cut?_eq_some (found : cut? cuts text = some (before, after)) :
    ∃ c, cuts c = true ∧ text = before ++ c :: after ∧ ∀ x ∈ before, cuts x = false := by
  induction text generalizing before with
  | nil => cases found
  | cons first rest ih =>
      rw [cut?] at found
      split at found
      · rename_i stops
        cases found
        exact ⟨first, stops, rfl, List.forall_mem_nil _⟩
      · rename_i keeps
        obtain ⟨⟨earlier, _⟩, later, same⟩ := Option.map_eq_some_iff.mp found
        cases same
        obtain ⟨c, stops, rfl, kept⟩ := ih later
        exact ⟨c, stops, rfl, List.forall_mem_cons.mpr ⟨eq_false_of_ne_true keeps, kept⟩⟩

theorem cut?_append {c : Char} (kept : ∀ x ∈ before, cuts x = false) (stops : cuts c = true) :
    cut? cuts (before ++ c :: after) = some (before, after) := by
  induction before with
  | nil => simp [cut?, stops]
  | cons first before ih =>
      obtain ⟨keeps, others⟩ := List.forall_mem_cons.mp kept
      simp [cut?, keeps, ih others]

theorem not_cuts_of_cut?_eq_none (missed : cut? cuts text = none) :
    ∀ c ∈ text, cuts c = false := by
  induction text with
  | nil => exact List.forall_mem_nil _
  | cons first rest ih =>
      rw [cut?] at missed
      split at missed
      · cases missed
      · rename_i keeps
        exact List.forall_mem_cons.mpr
          ⟨eq_false_of_ne_true keeps, ih (Option.map_eq_none_iff.mp missed)⟩

end Text

namespace Row

def putColumn (groups : OrderedMap Row) (entry : String × Value) : OrderedMap Row :=
  match Text.cut? (· == ':') entry.1.toList with
  | some (table, column) =>
    groups.insert (String.ofList table)
      (((groups.get? (String.ofList table)).getD ∅).insert (String.ofList column) entry.2)
  | none => groups

private theorem groups_eq (row : Row) : row.groups = row.entries.foldl putColumn ∅ := rfl

variable {groups : OrderedMap Row}

theorem putColumn_cases (groups : OrderedMap Row) (name : String) (value : Value) :
    putColumn groups (name, value) = groups ∧ ':' ∉ name.toList ∨
      ∃ table column, name = table ++ ":" ++ column ∧ ':' ∉ table.toList ∧
        putColumn groups (name, value) =
          groups.insert table (((groups.get? table).getD ∅).insert column value) := by
  unfold putColumn
  dsimp only
  cases cut : Text.cut? (· == ':') name.toList with
  | none =>
      refine .inl ⟨rfl, ?_⟩
      intro colon
      cases Text.not_cuts_of_cut?_eq_none cut ':' colon
  | some parts =>
      obtain ⟨before, after⟩ := parts
      obtain ⟨c, stops, whole, kept⟩ := Text.cut?_eq_some cut
      obtain rfl : c = ':' := beq_iff_eq.mp stops
      refine .inr ⟨String.ofList before, String.ofList after, ?_, ?_, rfl⟩
      · rw [← String.toList_inj, whole]
        simp
      · intro colon
        rw [String.toList_ofList] at colon
        cases kept ':' colon

private theorem colon_notMem_putColumn {entry : String × Value}
    (plain : ∀ table ∈ groups.keys, ':' ∉ table.toList) :
    ∀ table ∈ (putColumn groups entry).keys, ':' ∉ table.toList := by
  obtain ⟨name, value⟩ := entry
  rcases putColumn_cases groups name value with ⟨same, _⟩ | ⟨table, column, _, bare, grown⟩
  · rw [same]
    exact plain
  · rw [grown, OrderedMap.keys_insert]
    intro other member
    rcases mem_addNew.mp member with known | added
    · exact plain other known
    · rw [List.mem_singleton.mp added]
      exact bare

theorem colon_notMem_groups (row : Row) {entry : String × Row}
    (held : entry ∈ row.groups.entries) : ':' ∉ entry.1.toList := by
  have plain : ∀ table ∈ row.groups.keys, ':' ∉ table.toList := by
    rw [groups_eq]
    refine List.foldlRecOn (motive := fun (groups : OrderedMap Row) =>
      ∀ table ∈ groups.keys, ':' ∉ table.toList) _ _ ?_ ?_
    · intro table member
      cases member
    · intro groups plain entry _
      exact colon_notMem_putColumn plain
  exact plain entry.1 (List.mem_map_of_mem held)

/-- The name of a column gives both its table and its place there. -/
theorem columnName_inj {table table' column column' : String} (plain : ':' ∉ table.toList)
    (plain' : ':' ∉ table'.toList) (same : table ++ ":" ++ column = table' ++ ":" ++ column') :
    table = table' ∧ column = column' := by
  have parts (table column : String) :
      (table ++ ":" ++ column).toList = table.toList ++ ':' :: column.toList := by simp
  have chars := congrArg String.toList same
  rw [parts, parts] at chars
  rw [← String.toList_inj, ← String.toList_inj]
  rcases List.append_eq_append_iff.mp chars with ⟨rest, longer, tail⟩ | ⟨rest, longer, tail⟩
  · cases rest with
    | nil => exact ⟨by rw [longer, List.append_nil], (List.cons.inj tail).2⟩
    | cons first rest =>
        rw [longer, ← (List.cons.inj tail).1] at plain'
        simp at plain'
  · cases rest with
    | nil => exact ⟨by rw [longer, List.append_nil], (List.cons.inj tail).2.symm⟩
    | cons first rest =>
        rw [longer, ← (List.cons.inj tail).1] at plain
        simp at plain

private theorem get?_putColumn {table : String} (plain : ':' ∉ table.toList) (column name : String)
    (value : Value) :
    (((putColumn groups (name, value)).get? table).bind fun group => group.get? column) =
      if name = table ++ ":" ++ column then some value
      else (groups.get? table).bind fun group => group.get? column := by
  rcases putColumn_cases groups name value with ⟨same, uncut⟩ | ⟨table', column', rfl, bare, grown⟩
  · have apart : name ≠ table ++ ":" ++ column := by
      rintro rfl
      simp at uncut
    rw [same, if_neg apart]
  · rw [grown]
    by_cases here : table = table'
    · subst here
      rw [OrderedMap.get?_insert_self, Option.bind_some]
      by_cases same : column = column'
      · rw [same, OrderedMap.get?_insert_self, if_pos rfl]
      · have apart : table ++ ":" ++ column' ≠ table ++ ":" ++ column := fun equal =>
          same (columnName_inj plain plain equal).2.symm
        rw [OrderedMap.get?_insert_of_ne same, if_neg apart]
        cases groups.get? table <;> rfl
    · have apart : table' ++ ":" ++ column' ≠ table ++ ":" ++ column := fun equal =>
        here (columnName_inj bare plain equal).1.symm
      rw [OrderedMap.get?_insert_of_ne here, if_neg apart]

private theorem get?_foldl_putColumn {entries : List (String × Value)}
    (distinct : (entries.map Prod.fst).Nodup) {table : String} (plain : ':' ∉ table.toList)
    (column : String) :
    (((entries.foldl putColumn ∅).get? table).bind fun group => group.get? column) =
      entries.lookup (table ++ ":" ++ column) := by
  -- Columns are put into the groups in order, so the induction is on the one that came last.
  induction entries using List.reverseRecOn with
  | nil => rfl
  | append_singleton entries last ih =>
      obtain ⟨name, value⟩ := last
      rw [List.map_append, List.nodup_append] at distinct
      obtain ⟨others, _, apart⟩ := distinct
      rw [List.foldl_append, List.foldl_cons, List.foldl_nil, get?_putColumn plain, ih others,
        List.lookup_append]
      split
      · rename_i same
        have fresh : entries.lookup name = none := by
          rw [List.lookup_eq_none_iff]
          intro entry held
          simpa using Ne.symm (apart entry.1 (List.mem_map_of_mem held) name (by simp))
        rw [← same, fresh, List.lookup_cons_self]
        rfl
      · rename_i differ
        have other : (table ++ ":" ++ column == name) = false :=
          beq_eq_false_iff_ne.mpr (Ne.symm differ)
        simp [List.lookup_cons, other]

/-- A group holds what its row has under the table, a colon and the column. -/
theorem get?_groups (row : Row) {table : String} (plain : ':' ∉ table.toList) (column : String) :
    ((row.groups.get? table).bind fun group => group.get? column) =
      row.get? (table ++ ":" ++ column) :=
  get?_foldl_putColumn row.distinct plain column

end Row

end RecordMapper
