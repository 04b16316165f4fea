import RecordMapper.Value

/-!
SQL statements as data, before they become text in a dialect.
-/

set_option autoImplicit false

namespace RecordMapper

/-!
## Conditions

The constructors of `Expr` are the nodes themselves; the functions `Expr.conj`, `Expr.disj` and
`Expr.exclusive` join two expressions and keep such a node flat.
-/

/-- A column, qualified by its table where that is known. -/
structure ColumnRef where
  table : Option String
  column : String
  deriving DecidableEq, Repr

namespace ColumnRef

def of (table column : String) : ColumnRef := ⟨some table, column⟩

def bare (column : String) : ColumnRef := ⟨none, column⟩

/-- The name under which a column is selected: table and column with a colon between them. -/
def selectName (c : ColumnRef) : String :=
  match c.table with
  | some table => table ++ ":" ++ c.column
  | none => c.column

def display (c : ColumnRef) : String :=
  match c.table with
  | some table => table ++ "." ++ c.column
  | none => c.column

end ColumnRef

inductive Comparison where
  | eq
  | ne
  | ge
  | gt
  | le
  | lt
  | like
  | notLike
  | regexp
  | notRegexp
  deriving DecidableEq, Repr

inductive Truth where
  | null
  | true
  | false
  deriving DecidableEq, Repr

inductive Expr where
  | and (operands : List Expr)
  | or (operands : List Expr)
  | xor (operands : List Expr)
  | not (operand : Expr)
  | grouped (operand : Expr)
  | compare (left : Expr) (op : Comparison) (right : Expr)
  | inList (operand : Expr) (list : List Value) (negated : Bool)
  | is (operand : Expr) (test : Truth) (negated : Bool)
  | column (column : ColumnRef)
  | value (value : Value)
  | raw (sql : String)
  deriving Repr

namespace Expr

instance : Inhabited Expr := ⟨.raw ""⟩

def eq (left right : Expr) : Expr := .compare left .eq right

/-- The operands that an expression brings into a conjunction. -/
def conjuncts : Expr → List Expr
  | .and operands => operands
  | e => [e]

def disjuncts : Expr → List Expr
  | .or operands => operands
  | e => [e]

def exclusives : Expr → List Expr
  | .xor operands => operands
  | e => [e]

def conj (left right : Expr) : Expr := .and (left.conjuncts ++ right.conjuncts)

def disj (left right : Expr) : Expr := .or (left.disjuncts ++ right.disjuncts)

def exclusive (left right : Expr) : Expr := .xor (left.exclusives ++ right.exclusives)

/-- The conjunction of all expressions of a list: nothing for an empty list, and the expression
itself where there is only one. -/
def conjAll? : List Expr → Option Expr
  | [] => none
  | e :: rest => some (rest.foldl conj e)

/-- An expression in parentheses. A second pair would change nothing and is left out. -/
def group : Expr → Expr
  | .grouped operand => .grouped operand
  | e => .grouped e

def isGrouped : Expr → Bool
  | .grouped _ => true
  | _ => false

/-- Whether an expression binds looser than a conjunction around it. -/
def isDisjunction : Expr → Bool
  | .or _ | .xor _ => true
  | _ => false

end Expr

/-! ## Statements -/

inductive Direction where
  | asc
  | desc
  deriving DecidableEq, Repr

/-- Reads a direction: `DESC` in any case, with blanks around it; everything else is ascending. -/
def Direction.ofText (text : String) : Direction :=
  if Text.asciiLower (Text.trim text) = "desc" then .desc else .asc

inductive SelectItem where
  | wildcard (table : Option String)
  | column (column : ColumnRef) (name : Option String)
  | count (name : String)
  | raw (sql : String)
  deriving DecidableEq, Repr

/-- A column selected under its `table:column` name. -/
def SelectItem.aliased (column : ColumnRef) : SelectItem := .column column (some column.selectName)

/-- The window of rows that a query returns: how many are skipped, and how many at most follow. -/
structure Window where
  offset : Option UInt64
  limit : Option UInt64
  deriving DecidableEq, Repr

structure Select where
  comment : Option String := none
  distinct : Bool := false
  returning : List SelectItem := []
  tables : List String := []
  filter : Option Expr := none
  groupBy : List ColumnRef := []
  orderBy : List (ColumnRef × Direction) := []
  window : Option Window := none
  deriving Repr

structure Insert where
  comment : Option String := none
  table : String
  columns : List (String × Value) := []
  deriving Repr

structure Update where
  comment : Option String := none
  table : String
  /-- The other tables that the filter names. -/
  others : List String := []
  assignments : List (String × Value) := []
  filter : Option Expr := none
  deriving Repr

structure Delete where
  comment : Option String := none
  table : String
  /-- The other tables that the filter names. -/
  others : List String := []
  filter : Option Expr := none
  deriving Repr

inductive Statement where
  | select (statement : Select)
  | insert (statement : Insert)
  | update (statement : Update)
  | delete (statement : Delete)
  deriving Repr

namespace Statement

def isSelect : Statement → Bool
  | .select _ => true
  | _ => false

def isWrite (s : Statement) : Bool := !s.isSelect

end Statement

end RecordMapper
