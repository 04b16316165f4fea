import Mathlib.Data.List.Pairwise
import RecordMapper.Proofs.Database.Change
import RecordMapper.Proofs.Sql.Window

/-!
The rows that a query returns. Joined rows are put into groups, each group gives one row, and equal
rows become one where the query says so. Only the first of these stages is seen by a statement that
counts rows.
-/

set_option autoImplicit false

namespace RecordMapper

/-- What an engine decides of the rows that it returns. -/
structure Output where
  /-- Whether a fragment of SQL is one value for all rows of a group. -/
  folds : String → Bool
  /-- The name and the value of a fragment for a group of rows. -/
  fragment : String → Database → List Joined → String × Value
  /-- The row of a group whose columns are shown. -/
  shown : List Joined → Joined
  mem_shown : ∀ {group}, group ≠ [] → shown group ∈ group
  /-- Whether values are the same for `DISTINCT` and `GROUP BY`. -/
  alike : Value → Value → Bool
  equivalence : Equivalence fun left right => alike left right = true
  /-- How a count is handed out. -/
  number : Nat → Value
  /-- A count reads as the integer that it is, if that is one of 64 bits. -/
  toInt64_number : ∀ {n m}, (number n).toInt64 = .ok m ↔ m.toInt = n
  /-- The order of the rows of a query. -/
  arranged : Select → List (List (String × Value)) → List (List (String × Value))
  perm_arranged : ∀ s rows, (arranged s rows).Perm rows

namespace Output

def alikeAll (output : Output) (left right : List Value) : Bool :=
  left.length == right.length && (left.zip right).all fun (x, y) => output.alike x y

end Output

def SelectItem.folds (output : Output) : SelectItem → Bool
  | .count _ => true
  | .raw sql => output.folds sql
  | _ => false

def SelectItem.cells (output : Output) (db : Database) (group : List Joined) :
    SelectItem → List (String × Value)
  | .wildcard table =>
    ((output.shown group).filter fun part => table.all fun name => name == part.1).flatMap
      fun part => ((db.row? part).map OrderedMap.entries).getD []
  | .column c name => [(name.getD c.column, db.value (output.shown group) c)]
  | .count name => [(name, output.number group.length)]
  | .raw sql => [output.fragment sql db group]

namespace Select

variable (s : Select) (engine : Engine) (output : Output) (db : Database)

def sameGroup (left right : Joined) : Bool :=
  output.alikeAll (s.groupBy.map (db.value left)) (s.groupBy.map (db.value right))

/-- The groups of joined rows that give one row each. Without a clause for groups, all rows are one
group where something folds them, even if there are none. -/
def groups : List (List Joined) :=
  let rows := s.reads engine db
  if s.groupBy.isEmpty then
    if s.returning.any (SelectItem.folds output) then [rows] else rows.map fun parts => [parts]
  else
    (rows.pwFilter fun left right => s.sameGroup output db left right = false).map fun first =>
      rows.filter (s.sameGroup output db first)

def grouped : List (List (String × Value)) :=
  (s.groups engine output db).map fun group =>
    s.returning.flatMap (SelectItem.cells output db group)

def produced : List (List (String × Value)) :=
  let rows := s.grouped engine output db
  if s.distinct then
    rows.pwFilter fun left right =>
      output.alikeAll (left.map Prod.snd) (right.map Prod.snd) = false
  else rows

def answer : List Row :=
  let rows := (output.arranged s (s.produced engine output db)).map OrderedMap.ofList
  match s.window with
  | some window => window.rows rows
  | none => rows

/-- No joined row of a query becomes one with another: there is but one where all are folded, and
neither the groups nor the rows that have to differ are the same. -/
structure KeepsApart : Prop where
  folding : s.groupBy = [] → s.returning.any (SelectItem.folds output) = true →
    (s.reads engine db).length = 1
  groups : s.groupBy ≠ [] →
    (s.reads engine db).Pairwise fun left right => s.sameGroup output db left right = false
  rows : s.distinct = true → (s.grouped engine output db).Pairwise fun left right =>
    output.alikeAll (left.map Prod.snd) (right.map Prod.snd) = false

variable {s engine output db}

theorem length_grouped :
    (s.grouped engine output db).length = (s.groups engine output db).length := by
  rw [grouped, List.length_map]

theorem length_pwFilter_le {α : Type} {R : α → α → Prop} [DecidableRel R] (items : List α) :
    (items.pwFilter R).length ≤ items.length :=
  (List.pwFilter_sublist items).length_le

theorem length_pwFilter_eq_iff {α : Type} {R : α → α → Prop} [DecidableRel R] {items : List α} :
    (items.pwFilter R).length = items.length ↔ items.Pairwise R := by
  rw [← List.pwFilter_eq_self]
  constructor
  · exact (List.pwFilter_sublist items).eq_of_length
  · intro same
    rw [same]

theorem length_groups_of_folding (whole : s.groupBy = [])
    (folds : s.returning.any (SelectItem.folds output) = true) :
    (s.groups engine output db).length = 1 := by
  simp [groups, whole, folds]

theorem length_groups_of_single (whole : s.groupBy = [])
    (plain : s.returning.any (SelectItem.folds output) = false) :
    (s.groups engine output db).length = (s.reads engine db).length := by
  simp [groups, whole, plain]

theorem length_groups_of_groupBy (grouping : s.groupBy ≠ []) :
    (s.groups engine output db).length = ((s.reads engine db).pwFilter fun left right =>
      s.sameGroup output db left right = false).length := by
  simp [groups, grouping]

theorem length_produced_le :
    (s.produced engine output db).length ≤ (s.groups engine output db).length := by
  rw [← length_grouped]
  unfold produced
  dsimp only
  split
  · exact length_pwFilter_le _
  · exact le_refl _

private theorem length_produced_eq_iff :
    (s.produced engine output db).length = (s.groups engine output db).length ↔
      (s.distinct = true → (s.grouped engine output db).Pairwise fun left right =>
        output.alikeAll (left.map Prod.snd) (right.map Prod.snd) = false) := by
  rw [← length_grouped]
  unfold produced
  dsimp only
  split
  · rename_i distinct
    rw [length_pwFilter_eq_iff]
    simp [distinct]
  · rename_i plain
    simp [plain]

theorem length_produced_le_max :
    (s.produced engine output db).length ≤ max 1 (s.reads engine db).length := by
  refine length_produced_le.trans ?_
  by_cases whole : s.groupBy = []
  · cases folds : s.returning.any (SelectItem.folds output) with
    | true => exact (length_groups_of_folding whole folds).le.trans (le_max_left _ _)
    | false => exact (length_groups_of_single whole folds).le.trans (le_max_right _ _)
  · rw [length_groups_of_groupBy whole]
    exact (length_pwFilter_le _).trans (le_max_right _ _)

/-- A query has as many rows as it reads joined rows exactly if none of them become one. -/
theorem length_produced_eq_reads_iff :
    (s.produced engine output db).length = (s.reads engine db).length ↔
      s.KeepsApart engine output db := by
  have most : (s.produced engine output db).length ≤ (s.groups engine output db).length :=
    length_produced_le
  by_cases whole : s.groupBy = []
  · cases folds : s.returning.any (SelectItem.folds output) with
    | true =>
        have one : (s.groups engine output db).length = 1 := length_groups_of_folding whole folds
        have single : (s.produced engine output db).length = 1 := by
          rw [← one, length_produced_eq_iff]
          intro _
          obtain ⟨row, rows⟩ := List.length_eq_one_iff.mp (length_grouped.trans one)
          rw [rows]
          exact List.pairwise_singleton _ _
        have apart := length_produced_eq_iff.mp (single.trans one.symm)
        rw [single]
        constructor
        · intro same
          exact ⟨fun _ _ => same.symm, fun grouping => absurd whole grouping, apart⟩
        · intro kept
          exact (kept.folding whole folds).symm
    | false =>
        rw [← length_groups_of_single whole folds, length_produced_eq_iff]
        constructor
        · intro apart
          refine ⟨fun _ folded => ?_, fun grouping => absurd whole grouping, apart⟩
          rw [folds] at folded
          cases folded
        · exact fun kept => kept.rows
  · have groups : (s.groups engine output db).length = ((s.reads engine db).pwFilter
        fun left right => s.sameGroup output db left right = false).length :=
      length_groups_of_groupBy whole
    have fewer : (s.groups engine output db).length ≤ (s.reads engine db).length :=
      groups ▸ length_pwFilter_le _
    constructor
    · intro same
      have grouped : (s.groups engine output db).length = (s.reads engine db).length := by omega
      refine ⟨fun single => absurd single whole, fun _ => ?_, ?_⟩
      · exact length_pwFilter_eq_iff.mp (groups ▸ grouped)
      · exact length_produced_eq_iff.mp (same.trans grouped.symm)
    · intro kept
      rw [length_produced_eq_iff.mpr kept.rows, groups]
      exact length_pwFilter_eq_iff.mpr (kept.groups whole)

theorem length_answer (whole : s.window = none) :
    (s.answer engine output db).length = (s.produced engine output db).length := by
  unfold answer
  rw [whole]
  exact List.length_map _ |>.trans (output.perm_arranged s _).length_eq

/-- The answer of a statement that counts rows is their number. -/
theorem answer_of_counting {name : String} (counts : s.returning = [.count name])
    (ungrouped : s.groupBy = []) (whole : s.window = none) :
    s.answer engine output db =
      [.ofList [(name, output.number (s.reads engine db).length)]] := by
  have groups : s.groups engine output db = [s.reads engine db] := by
    simp [Select.groups, ungrouped, counts, SelectItem.folds]
  have rows : s.produced engine output db =
      [[(name, output.number (s.reads engine db).length)]] := by
    have grouped : s.grouped engine output db =
        [[(name, output.number (s.reads engine db).length)]] := by
      rw [grouped, groups, counts]
      rfl
    unfold produced
    rw [grouped]
    cases s.distinct with
    | true => exact List.pwFilter_eq_self.mpr (List.pairwise_singleton _ _)
    | false => rfl
  unfold answer
  rw [whole, rows, List.perm_singleton.mp (output.perm_arranged s _)]
  rfl

/-- The answer of a query for all columns of one table are its rows. -/
theorem answer_of_table {table : String} {filter : Option Expr} :
    (answer { returning := [.wildcard none], tables := [table], filter } engine output db).Perm
      ((db.matching engine [table] filter).map fun parts =>
        ((parts.head?.bind db.row?).getD ∅)) := by
  have rows : (produced { returning := [.wildcard none], tables := [table], filter }
      engine output db).map OrderedMap.ofList =
        (db.matching engine [table] filter).map fun parts =>
          ((parts.head?.bind db.row?).getD ∅) := by
    change ((((db.matching engine [table] filter).map fun parts => [parts]).map _).map _) = _
    rw [List.map_map, List.map_map]
    refine List.map_congr_left fun parts member => ?_
    obtain ⟨names, placed⟩ := Database.mem_joined.mp (List.mem_of_mem_filter member)
    obtain ⟨part, rfl, -⟩ := List.map_eq_singleton_iff.mp names
    obtain ⟨row, present⟩ := Option.isSome_iff_exists.mp (placed part List.mem_cons_self)
    have shown : output.shown [[part]] = [part] :=
      List.mem_singleton.mp (output.mem_shown (List.cons_ne_nil _ _))
    simp [SelectItem.cells, shown, present, OrderedMap.ofList_entries]
  have arranged := (output.perm_arranged
    { returning := [.wildcard none], tables := [table], filter }
    (produced { returning := [.wildcard none], tables := [table], filter } engine output db)).map
      OrderedMap.ofList
  rw [rows] at arranged
  exact arranged

end Select

end RecordMapper
