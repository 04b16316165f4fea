import Mathlib.Data.List.Perm.Subperm
import RecordMapper.Proofs.Database.Keyed

/-!
Rows that a change leaves in a database, perhaps at other places, and the joined rows that are still
found because they have no part in what is lost.
-/

set_option autoImplicit false

namespace RecordMapper

/-! ## Places of kept items -/

section

variable {α : Type} {keep : α → Bool} {items : List α}

private theorem getElem?_filter_countP {i : Nat} {item : α} (present : items[i]? = some item)
    (kept : keep item = true) :
    (items.filter keep)[(items.take i).countP keep]? = some item := by
  induction items generalizing i with
  | nil => cases present
  | cons first rest ih =>
      cases i with
      | zero =>
          obtain rfl : first = item := Option.some.inj present
          rw [List.filter_cons_of_pos kept]
          rfl
      | succ i =>
          rw [List.take_succ_cons, List.countP_cons, List.filter_cons]
          have later := ih present
          cases keep first with
          | true => exact later
          | false => exact later

private theorem eq_of_map_eq {β : Type} {f : α → β} {others : List α}
    (injective : ∀ item ∈ items, ∀ other ∈ others, f item = f other → item = other)
    (same : items.map f = others.map f) : items = others := by
  induction items generalizing others with
  | nil => exact (List.map_eq_nil_iff.mp same.symm).symm
  | cons first rest ih =>
      cases others with
      | nil => cases same
      | cons other others =>
          obtain ⟨here, later⟩ := List.cons.inj same
          rw [injective first List.mem_cons_self other List.mem_cons_self here,
            ih (fun item inside other within => injective item (List.mem_cons_of_mem _ inside) other
              (List.mem_cons_of_mem _ within)) later]

private theorem countP_take_lt {i j : Nat} (before : i < j) {item : α}
    (present : items[i]? = some item)
    (kept : keep item = true) : (items.take i).countP keep < (items.take j).countP keep := by
  have upTo : (items.take (i + 1)).countP keep ≤ (items.take j).countP keep :=
    (List.take_prefix_take_left (by omega)).sublist.countP_le
  have step : (items.take (i + 1)).countP keep = (items.take i).countP keep + 1 := by
    rw [List.take_add_one, present, List.countP_append]
    simp [kept]
  omega

end

/-! ## Conditions on keys -/

namespace Database

variable {engine : Engine} {db db' : Database}

section

variable {move : String × Nat → Nat} {parts : Joined}
  (same : ∀ part ∈ parts, db'.row? (part.1, move part) = db.row? part)

include same

private theorem value_moved (table column : String) :
    db'.value (parts.map fun part => (part.1, move part)) (.of table column) =
      db.value parts (.of table column) := by
  unfold value ColumnRef.of
  dsimp only
  have found : ((parts.map fun part => (part.1, move part)).lookup table).bind
        (fun place => db'.row? (table, place)) =
      (parts.lookup table).bind fun place => db.row? (table, place) := by
    induction parts with
    | nil => rfl
    | cons part rest ih =>
        obtain ⟨here, others⟩ := List.forall_mem_cons.mp same
        obtain ⟨name, place⟩ := part
        rw [List.map_cons, List.lookup_cons, List.lookup_cons]
        cases match' : table == name with
        | true =>
            obtain rfl : table = name := beq_iff_eq.mp match'
            exact here
        | false => exact ih others
  rw [found]

private theorem truth_moved {e : Expr} (compares : e.ComparesKeys) :
    e.truth engine db' (parts.map fun part => (part.1, move part)) = e.truth engine db parts := by
  cases compares with
  | value table column v =>
      rw [Expr.truth_eq, Expr.truth_eq, Expr.eval, Expr.eval, Expr.eval, Expr.eval,
        value_moved same]
  | column table column table' column' =>
      rw [Expr.truth_eq, Expr.truth_eq, Expr.eval, Expr.eval, Expr.eval, Expr.eval,
        value_moved same, value_moved same]

end

/-! ## Rows that stay -/

/-- Every row of a database that is not lost is in another one, at a place of its own. -/
def Spares (db : Database) (lost : String × Nat → Prop) (db' : Database) : Prop :=
  ∃ move : String × Nat → Nat,
    (∀ part, (db.row? part).isSome → ¬lost part → db'.row? (part.1, move part) = db.row? part) ∧
    ∀ table i j, (db.row? (table, i)).isSome → ¬lost (table, i) → (db.row? (table, j)).isSome →
      ¬lost (table, j) → move (table, i) = move (table, j) → i = j

variable {lost : String × Nat → Prop}

theorem Spares.refl (db : Database) : db.Spares lost db :=
  ⟨Prod.snd, fun _ _ _ => rfl, fun _ _ _ _ _ _ _ same => same⟩

theorem Spares.mono {lost' : String × Nat → Prop} (spares : db.Spares lost db')
    (only : ∀ part, (db.row? part).isSome → lost part → lost' part) : db.Spares lost' db' := by
  obtain ⟨move, stays, apart⟩ := spares
  exact ⟨move, fun part present spared => stays part present fun gone => spared (only _ present gone),
    fun table i j first spared second spared' =>
      apart table i j first (fun gone => spared (only _ first gone)) second
        fun gone => spared' (only _ second gone)⟩

theorem spares_updated {d : Dialect} {s : Update} :
    db.Spares (fun part => part ∈ (s.change d).touched engine db) (db.updated engine d s) := by
  refine ⟨Prod.snd, fun part _ spared => ?_, fun _ _ _ _ _ _ _ same => same⟩
  rw [row?_updated]
  simp [spared]

/-- Joined rows stay if no part of them is lost. -/
theorem Spares.length_matching_le (spares : db.Spares lost db') {tables : List String}
    {conditions : List Expr} (keys : ∀ e ∈ conditions, e.ComparesKeys)
    (safe : ∀ parts ∈ db.matching engine tables (Expr.conjAll? conditions), ∀ part ∈ parts,
      ¬lost part) :
    (db.matching engine tables (Expr.conjAll? conditions)).length ≤
      (db'.matching engine tables (Expr.conjAll? conditions)).length := by
  obtain ⟨move, stays, apart⟩ := spares
  have same {parts : Joined}
      (member : parts ∈ db.matching engine tables (Expr.conjAll? conditions)) :
      ∀ part ∈ parts, db'.row? (part.1, move part) = db.row? part := by
    intro part inside
    exact stays part ((mem_matching.mp member).2.1 part inside) (safe parts member part inside)
  have moved : (db.matching engine tables (Expr.conjAll? conditions)).map
        (fun parts => parts.map fun part => (part.1, move part)) ⊆
      db'.matching engine tables (Expr.conjAll? conditions) := by
    intro parts' member'
    obtain ⟨parts, member, rfl⟩ := List.mem_map.mp member'
    obtain ⟨names, placed, satisfied⟩ := mem_matching.mp member
    refine mem_matching.mpr ⟨?_, ?_, ?_⟩
    · rw [List.map_map]
      exact names
    · intro part inside
      obtain ⟨old, present, rfl⟩ := List.mem_map.mp inside
      rw [same member old present]
      exact placed old present
    · rw [satisfies_conjAll?] at satisfied ⊢
      intro e condition
      rw [truth_moved (same member) (keys e condition)]
      exact satisfied e condition
  have distinct : ((db.matching engine tables (Expr.conjAll? conditions)).map
      (fun parts => parts.map fun part => (part.1, move part))).Nodup := by
    refine List.Nodup.map_on ?_ ((db.nodup_joined _).filter _)
    intro parts member parts' member' equal
    refine eq_of_map_eq ?_ equal
    intro part inside part' inside' moves
    have placed := (mem_matching.mp member).2.1 part inside
    have placed' := (mem_matching.mp member').2.1 part' inside'
    obtain ⟨table, place⟩ := part
    obtain ⟨table', place'⟩ := part'
    obtain ⟨tables, places⟩ := Prod.mk.inj moves
    obtain rfl : table = table' := tables
    rw [apart table place place' placed (safe parts member _ inside) placed'
      (safe parts' member' _ inside') places]
  calc (db.matching engine tables (Expr.conjAll? conditions)).length
      = ((db.matching engine tables (Expr.conjAll? conditions)).map
          (fun parts => parts.map fun part => (part.1, move part))).length :=
        (List.length_map _).symm
    _ ≤ (db'.matching engine tables (Expr.conjAll? conditions)).length :=
        (distinct.subperm moved).length_le

/-! ## Deletions -/

section

variable {d : Dialect} {s : Delete}

theorem row?_deleted (table : String) (place : Nat) :
    (db.deleted engine d s).row? (table, place) =
      (((db.rows table).zipIdx.filter fun (_, place) =>
        (table, place) ∉ (s.change d).touched engine db)[place]?).map Prod.fst :=
  List.getElem?_map

private theorem getElem?_zipIdx_of_row? {table : String} {place : Nat} {row : Row}
    (present : db.row? (table, place) = some row) :
    (db.rows table).zipIdx[place]? = some (row, place) := by
  rw [List.getElem?_zipIdx, show (db.rows table)[place]? = some row from present, Option.map_some,
    Nat.zero_add]

theorem row?_deleted_of_ne {table : String} (other : table ≠ s.table) (place : Nat) :
    (db.deleted engine d s).row? (table, place) = db.row? (table, place) := by
  have untouched : (db.rows table).zipIdx.filter (fun (_, place) =>
      (table, place) ∉ (s.change d).touched engine db) = (db.rows table).zipIdx := by
    refine List.filter_eq_self.mpr fun item _ => decide_eq_true fun touched => ?_
    exact other ((Delete.mem_touched_change d).mp touched).1
  rw [row?_deleted, untouched, List.getElem?_zipIdx, Option.map_map, row?]
  cases (db.rows table)[place]? <;> rfl

/-- A row that is there after a deletion was there before, and is none of those that it removes. -/
theorem exists_of_row?_deleted {table : String} {place : Nat} {row : Row}
    (present : (db.deleted engine d s).row? (table, place) = some row) :
    ∃ place', db.row? (table, place') = some row ∧
      (table, place') ∉ (s.change d).touched engine db := by
  rw [row?_deleted] at present
  obtain ⟨⟨_, place'⟩, found, rfl⟩ := Option.map_eq_some_iff.mp present
  obtain ⟨member, spared⟩ := List.mem_filter.mp (List.mem_of_getElem? found)
  exact ⟨place', List.mem_zipIdx_iff_getElem?.mp member, of_decide_eq_true spared⟩

theorem spares_deleted :
    db.Spares (fun part => part ∈ (s.change d).touched engine db) (db.deleted engine d s) := by
  refine ⟨fun part => ((db.rows part.1).zipIdx.take part.2).countP fun (_, place) =>
    (part.1, place) ∉ (s.change d).touched engine db, ?_, ?_⟩
  · rintro ⟨table, place⟩ present spared
    obtain ⟨row, held⟩ := Option.isSome_iff_exists.mp present
    rw [row?_deleted, getElem?_filter_countP (getElem?_zipIdx_of_row? held) (decide_eq_true spared),
      held]
    rfl
  · intro table i j first spared second spared' same
    obtain ⟨row, held⟩ := Option.isSome_iff_exists.mp first
    obtain ⟨row', held'⟩ := Option.isSome_iff_exists.mp second
    rcases Nat.lt_trichotomy i j with before | equal | after
    · exact absurd same (countP_take_lt before (getElem?_zipIdx_of_row? held)
        (decide_eq_true spared)).ne
    · exact equal
    · exact absurd same (countP_take_lt after (getElem?_zipIdx_of_row? held')
        (decide_eq_true spared')).ne'

end

end Database

end RecordMapper
