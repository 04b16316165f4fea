import RecordMapper.Proofs.Database.Joined

/-!
The rows that statements read, count, assign and remove. A change that names other tables is written
differently in each dialect, and each form says in its own way which rows it is about.
-/

set_option autoImplicit false

namespace RecordMapper

/-! ## Reading -/

namespace Select

def reads (s : Select) (engine : Engine) (db : Database) : List Joined :=
  db.matching engine s.tables s.filter

/-- The one row of a statement that counts, and does so over all of its joined rows. -/
def counted? (s : Select) (engine : Engine) (db : Database) : Option (List (String × Nat)) :=
  if s.groupBy.isEmpty && s.window.isNone then
    s.returning.mapM fun
      | .count name => some (name, (s.reads engine db).length)
      | _ => none
  else none

end Select

/-! ## Changes -/

/-- The forms in which dialects write a change of the rows of one table. -/
inductive Change where
  /-- All tables stand in one list, and each assignment names the table of its column. -/
  | updateTables (tables : List String) (assignments : List (ColumnRef × Value))
      (filter : Option Expr)
  /-- The other tables stand behind `FROM`. -/
  | updateFrom (table : String) (assignments : List (String × Value)) (others : List String)
      (filter : Option Expr)
  | deleteFrom (table : String) (filter : Option Expr)
  /-- The rows of one table go that are part of the joined rows of all of them. -/
  | deleteRows (table : String) (tables : List String) (filter : Option Expr)
  /-- The other tables stand behind `USING`. -/
  | deleteUsing (table : String) (others : List String) (filter : Option Expr)

namespace Change

open Sql

def render (d : Dialect) (comment : Option String) : Change → String
  | .updateTables tables assignments filter =>
    "UPDATE " ++ commentText comment ++ (identifiers d tables ++ " SET " ++
      ", ".intercalate (assignments.map fun (column, value) =>
        column.render d ++ " = " ++ Value.literal d value)) ++ condition d filter
  | .updateFrom table assignments others filter =>
    "UPDATE " ++ commentText comment ++ (identifier d table ++ " SET " ++
      ", ".intercalate (assignments.map fun (column, value) =>
        identifier d column ++ " = " ++ Value.literal d value) ++
      (if others.isEmpty then "" else " FROM " ++ identifiers d others)) ++ condition d filter
  | .deleteFrom table filter =>
    "DELETE " ++ commentText comment ++ ("FROM " ++ identifier d table) ++ condition d filter
  | .deleteRows table tables filter =>
    "DELETE " ++ commentText comment ++
      (identifier d table ++ ".* FROM " ++ identifiers d tables) ++ condition d filter
  | .deleteUsing table others filter =>
    "DELETE " ++ commentText comment ++
      ("FROM " ++ identifier d table ++ " USING " ++ identifiers d others) ++ condition d filter

/-- The rows that a change assigns or removes, each by its table and its place. -/
def touched (engine : Engine) (db : Database) : Change → List (String × Nat)
  | .updateTables tables assignments filter =>
    (db.matching engine tables filter).flatMap fun parts => parts.filter fun part =>
      assignments.any fun (column, _) => column.table == some part.1
  | .updateFrom table _ others filter =>
    (db.matching engine (table :: others) filter).flatMap fun parts =>
      parts.filter fun part => part.1 == table
  | .deleteFrom table filter => (db.matching engine [table] filter).flatten
  | .deleteRows table tables filter =>
    (db.matching engine tables filter).flatMap fun parts => parts.filter fun part => part.1 == table
  | .deleteUsing table others filter =>
    (db.matching engine (table :: others) filter).flatMap fun parts =>
      parts.filter fun part => part.1 == table

end Change

def Update.change (s : Update) : Dialect → Change
  | .mysql => .updateTables (s.table :: s.others)
      (s.assignments.map fun (column, value) => (.of s.table column, value)) s.filter
  | .postgresql => .updateFrom s.table s.assignments s.others s.filter

def Delete.change (s : Delete) (d : Dialect) : Change :=
  if s.others.isEmpty then .deleteFrom s.table s.filter
  else match d with
    | .mysql => .deleteRows s.table (s.table :: s.others) s.filter
    | .postgresql => .deleteUsing s.table s.others s.filter

theorem Update.render_change (s : Update) (d : Dialect) :
    (s.change d).render d s.comment = s.render d := by
  cases d with
  | mysql =>
      have texts : (s.assignments.map fun (column, value) => (ColumnRef.of s.table column, value)).map
            (fun (column, value) => column.render .mysql ++ " = " ++ Value.literal .mysql value) =
          s.assignments.map fun (column, value) =>
            (ColumnRef.of s.table column).render .mysql ++ " = " ++ Value.literal .mysql value :=
        List.map_map
      simp only [change, Change.render, texts]
      rfl
  | postgresql => rfl

theorem Delete.render_change (s : Delete) (d : Dialect) :
    (s.change d).render d s.comment = s.render d := by
  unfold change Delete.render
  split
  · rfl
  · cases d <;> rfl

section

variable {engine : Engine} {db : Database} {part : String × Nat}

theorem mem_filter_table {rows : List Joined} {table : String} :
    part ∈ (rows.flatMap fun parts => parts.filter fun part => part.1 == table) ↔
      part.1 = table ∧ ∃ parts ∈ rows, part ∈ parts := by
  simp only [List.mem_flatMap, List.mem_filter, beq_iff_eq]
  constructor
  · rintro ⟨parts, row, member, same⟩
    exact ⟨same, parts, row, member⟩
  · rintro ⟨same, parts, row, member⟩
    exact ⟨parts, row, member, same⟩

/-- In either form, an update assigns the rows of its table that are part of its joined rows. -/
theorem Update.mem_touched_change {s : Update} (assigns : s.assignments ≠ []) (d : Dialect) :
    part ∈ (s.change d).touched engine db ↔
      part.1 = s.table ∧ ∃ parts ∈ db.matching engine (s.table :: s.others) s.filter,
        part ∈ parts := by
  cases d with
  | postgresql => exact mem_filter_table
  | mysql =>
      obtain ⟨assignment, others, assigned⟩ := List.exists_cons_of_ne_nil assigns
      have named (part : String × Nat) :
          ((s.assignments.map fun (column, value) => (ColumnRef.of s.table column, value)).any
            fun (column, _) => column.table == some part.1) = (part.1 == s.table) := by
        rw [Bool.eq_iff_iff, List.any_eq_true, beq_iff_eq]
        constructor
        · rintro ⟨_, member, same⟩
          obtain ⟨_, _, rfl⟩ := List.mem_map.mp member
          exact (Option.some.inj (beq_iff_eq.mp same)).symm
        · intro same
          refine ⟨_, List.mem_map_of_mem (assigned ▸ List.mem_cons_self), ?_⟩
          exact beq_iff_eq.mpr (congrArg some same.symm)
      unfold change Change.touched
      simp only [named]
      exact mem_filter_table

/-- In every form, a deletion removes the rows of its table that are part of its joined rows. -/
theorem Delete.mem_touched_change {s : Delete} (d : Dialect) :
    part ∈ (s.change d).touched engine db ↔
      part.1 = s.table ∧ ∃ parts ∈ db.matching engine (s.table :: s.others) s.filter,
        part ∈ parts := by
  unfold change
  cases others : s.others with
  | nil =>
      have single {parts : Joined} (row : parts ∈ db.matching engine [s.table] s.filter)
          (member : part ∈ parts) : part.1 = s.table := by
        have names := (Database.mem_joined.mp (List.mem_of_mem_filter row)).1
        exact List.mem_singleton.mp (names ▸ List.mem_map_of_mem member)
      rw [List.isEmpty_nil, if_pos rfl, Change.touched, List.mem_flatten]
      constructor
      · rintro ⟨parts, row, member⟩
        exact ⟨single row member, parts, row, member⟩
      · rintro ⟨_, row⟩
        exact row
  | cons first rest => cases d <;> exact mem_filter_table

end

end RecordMapper
