import RecordMapper.Proofs.Database.Executing

/-!
A connection that holds its database in memory and executes statements by their meaning on it. Texts
of SQL mean nothing to it.
-/

set_option autoImplicit false

namespace RecordMapper

structure Memory (engine : Engine) (output : Output) (key : String → String) where
  dialect : Dialect
  database : String
  tables : OrderedMap (OrderedMap String)
  held : Database
  lastInsertId : Option Int64 := none

namespace Memory

variable {engine : Engine} {output : Output} {key : String → String}

def given? (key : String → String) (s : Insert) : Option Value :=
  (s.columns.lookup (key s.table)).filter fun value => !value.isNull

/-- The identifier of a new row: the one that it is given, or the one after those of all rows. It has
to be positive, and no other row may have it. -/
def identifier? (key : String → String) (db : Database) (s : Insert) : Option Int64 :=
  let taken := (db.rows s.table).map fun row => (row.read (key s.table)).number?
  let asked := match given? key s with
    | some value => value.stored.number?
    | none => some (taken.reduceOption.foldl max 0 + 1)
  asked.filter fun id => 0 < id && !taken.contains (some id)

def newRow (key : String → String) (s : Insert) (id : Int64) : Row :=
  let row := Row.written ∅ s.columns
  match given? key s with
  | some _ => row
  | none => row.insert (key s.table) (.int id)

def step (m : Memory engine output key) :
    Statement → Except Error Response × Memory engine output key
  | .select s => (.ok (.rows (s.answer engine output m.held)), m)
  | .insert s =>
    match identifier? key m.held s with
    | none => (.error (.words "no identifier"), m)
    | some id =>
      if (s.columns.map Prod.fst).Nodup then
        (.ok (.count 1), { m with
          held := m.held.appended s.table (newRow key s id)
          lastInsertId := some id })
      else (.error (.words "a column is given twice"), m)
  | .update s =>
    (.ok (.count (.ofNat ((s.change m.dialect).touched engine m.held).dedup.length)),
      { m with held := m.held.updated engine m.dialect s })
  | .delete s =>
    (.ok (.count (.ofNat ((s.change m.dialect).touched engine m.held).dedup.length)),
      { m with held := m.held.deleted engine m.dialect s })

def columnsOf (m : Memory engine output key) (table : String) :
    Except Error (OrderedMap String) :=
  match m.tables.get? table with
  | some columns => .ok columns
  | none => .error (.of (.unknownTable table))

instance : Connection (Memory engine output key) where
  dialect m := m.dialect
  exec _ := Action.fail (.words "texts are not executed")
  run statement := ExceptT.mk fun m => m.step statement
  lastInsertId := do return (← get).lastInsertId
  affectedRows _ := 0
  tableExists table := do return (← get).tables.contains table
  columnsOfTable table := do Action.ofExcept ((← get).columnsOf table)
  currentDatabase := do return (← get).database

theorem runOn_run (statement : Statement) (m : Memory engine output key) :
    (Connection.run statement).runOn m = m.step statement := rfl

theorem keeps_dialect (statement : Statement) :
    (Connection.run statement : Action (Memory engine output key) Response).Keeps
      Connection.dialect := by
  intro m
  rw [runOn_run]
  cases statement with
  | insert s =>
      unfold step
      dsimp only
      split
      · rfl
      · split <;> rfl
  | _ => rfl

private theorem read_newRow {s : Insert} (distinct : (s.columns.map Prod.fst).Nodup) (id : Int64)
    {column : String} {value : Value} (member : (column, value) ∈ s.columns)
    (filled : column ≠ key s.table ∨ value ≠ .null) :
    (newRow key s id).read column = value.stored := by
  have found := (lookup_eq_some_iff_mem distinct).mpr member
  have written : (Row.written ∅ s.columns).read column = value.stored := by
    rw [Row.read_written distinct, found]
  unfold newRow
  dsimp only
  split
  · exact written
  · rename_i absent
    have differ : column ≠ key s.table := by
      rintro rfl
      rcases filled with other | filled
      · exact other rfl
      · unfold given? at absent
        rw [found] at absent
        cases value <;> first | exact filled rfl | cases absent
    rw [← written, Row.read, Row.read, OrderedMap.get?_insert_of_ne differ]

private theorem number?_newRow {db : Database} {s : Insert}
    (distinct : (s.columns.map Prod.fst).Nodup)
    {id : Int64} (identified : identifier? key db s = some id) :
    0 < id ∧ ((newRow key s id).read (key s.table)).number? = some id ∧
      ∀ other ∈ db.rows s.table, (other.read (key s.table)).number? ≠ some id := by
  obtain ⟨asked, allowed⟩ := Option.filter_eq_some_iff.mp identified
  obtain ⟨positive, free⟩ := Bool.and_eq_true_iff.mp allowed
  refine ⟨of_decide_eq_true positive, ?_, ?_⟩
  · unfold newRow
    cases given : given? key s with
    | none =>
        dsimp only
        rw [Row.read, OrderedMap.get?_insert_self]
        rfl
    | some value =>
        obtain ⟨found, -⟩ := Option.filter_eq_some_iff.mp given
        rw [given] at asked
        dsimp only
        rw [Row.read_written distinct, found]
        exact asked
  · intro other member same
    simp only [Bool.not_eq_true', List.contains_eq_mem, decide_eq_false_iff_not] at free
    exact free (List.mem_map.mpr ⟨other, member, same⟩)

/-- An insertion that succeeds adds the new row, and reports its identifier. -/
theorem exists_of_insert {s : Insert} {m m' : Memory engine output key} {response : Response}
    (ran : m.step (.insert s) = (.ok response, m')) :
    ∃ id, identifier? key m.held s = some id ∧ (s.columns.map Prod.fst).Nodup ∧
      m' = { m with held := m.held.appended s.table (newRow key s id), lastInsertId := some id } := by
  dsimp only [step] at ran
  cases identified : identifier? key m.held s with
  | none =>
      rw [identified] at ran
      cases ran
  | some id =>
      rw [identified] at ran
      dsimp only at ran
      split at ran
      · rename_i distinct
        cases ran
        exact ⟨id, rfl, distinct, rfl⟩
      · cases ran

private theorem tables_step (m : Memory engine output key) (statement : Statement) :
    (m.step statement).2.tables = m.tables := by
  cases statement with
  | insert s =>
      dsimp only [step]
      split
      · rfl
      · split <;> rfl
  | _ => rfl

private theorem schema_congr {m m' : Memory engine output key} (same : m.tables = m'.tables) :
    Connection.schema m = Connection.schema m' := by
  have tables : ∀ m : Memory engine output key, Connection.schema m =
      (fun table => .ok (m.tables.contains table), fun table => m.columnsOf table) := fun _ => rfl
  rw [tables, tables, same]
  unfold columnsOf
  rw [same]

theorem executes :
    Connection.Executes (Memory engine output key) engine output key Memory.held where
  select s m response m' ran := by
    cases ran
    exact ⟨rfl, rfl⟩
  tableExists table m := rfl
  columnsOfTable table m := rfl
  succeeds s m := ⟨_, m, rfl⟩
  executed statement m response m' ran := by
    rw [runOn_run] at ran
    cases statement with
    | insert s =>
        obtain ⟨id, identified, distinct, rfl⟩ := exists_of_insert ran
        exact .insert s response _ fun _ _ => read_newRow distinct id
    | select s =>
        cases ran
        exact .select s
    | update s =>
        cases ran
        exact .update s _
    | delete s =>
        cases ran
        exact .delete s _
  reported s m response m' row id m'' ran same asked := by
    obtain ⟨id', identified, distinct, rfl⟩ := exists_of_insert ran
    cases asked
    obtain rfl := Database.appended_inj same
    exact number?_newRow distinct identified
  lastInsertId m := rfl
  schema_run statement m := by
    exact schema_congr (tables_step m statement)
  schema_lastInsertId m := rfl
  schema_tableExists table m := rfl
  schema_columnsOfTable table m := rfl

end Memory

end RecordMapper
