import RecordMapper.Sql.Statement

/-!
Filters of queries, and how they are read from a sequence of calls.
-/

set_option autoImplicit false

namespace RecordMapper

/-! ## Operators and their operands -/

inductive Operator where
  | compare (op : Comparison)
  | inList (negated : Bool)
  /-- A test that takes no operand. -/
  | is (test : Truth) (negated : Bool)
  deriving DecidableEq, Repr

namespace Operator

def display : Operator → String
  | .compare .eq => "="
  | .compare .ne => "<>"
  | .compare .ge => ">="
  | .compare .gt => ">"
  | .compare .le => "<="
  | .compare .lt => "<"
  | .compare .like => "LIKE"
  | .compare .notLike => "NOT LIKE"
  | .compare .regexp => "REGEXP"
  | .compare .notRegexp => "NOT REGEXP"
  | .inList false => "IN"
  | .inList true => "NOT IN"
  | .is .null false => "IS NULL"
  | .is .null true => "IS NOT NULL"
  | .is .true false => "IS TRUE"
  | .is .true true => "IS NOT TRUE"
  | .is .false false => "IS FALSE"
  | .is .false true => "IS NOT FALSE"

def all : List Operator := [
  .compare .eq, .compare .ne, .compare .ge, .compare .gt, .compare .le, .compare .lt,
  .inList false, .inList true, .compare .like, .compare .notLike, .compare .regexp,
  .compare .notRegexp, .is .null false, .is .null true, .is .true false, .is .true true,
  .is .false false, .is .false true]

theorem mem_all (op : Operator) : op ∈ all := by
  cases op with
  | compare op => cases op <;> decide
  | inList negated => cases negated <;> decide
  | is test negated => cases test <;> cases negated <;> decide

/-- Reads an operator in any case and with any blanks around and between its words. -/
def ofText (text : String) : Except Error Operator :=
  let spelling := Text.asciiUpper (" ".intercalate (Text.words text))
  let spelling := if spelling = "!=" then "<>" else spelling
  match all.find? fun op => op.display == spelling with
  | some op => .ok op
  | none =>
    .error (.of (.invalidStatement ("unsupported operator \x60" ++ Text.trim text ++ "\x60")))

/-- Whether an operator takes no operand. -/
def isUnary : Operator → Bool
  | .is .. => true
  | _ => false

def isList : Operator → Bool
  | .inList _ => true
  | _ => false

end Operator

inductive Operand where
  | none
  | value (value : Value)
  | list (values : List Value)

def Operand.noun : Operand → String
  | .none => "an empty operand"
  | .value _ => "a single value"
  | .list _ => "a list"

inductive Test where
  | compare (op : Comparison) (value : Value)
  | inList (values : List Value) (negated : Bool)
  | is (test : Truth) (negated : Bool)
  deriving Repr

namespace Test

/-- Joins an operator with an operand. A list operator takes a single value as a list of one, and an
operator without operand ignores what it is handed. -/
def make (column : String) (op : Operator) (operand : Operand) : Except Error Test :=
  match op, operand with
  | .is test negated, _ => .ok (.is test negated)
  | .inList negated, .value value => .ok (.inList [value] negated)
  | .inList negated, .list values => .ok (.inList values negated)
  | .compare op, .value value => .ok (.compare op value)
  | op, operand =>
    .error (.of (.invalidStatement
      ("\x60" ++ column ++ " " ++ op.display ++ "\x60 cannot take " ++ operand.noun)))

def condition (test : Test) (column : ColumnRef) : Expr :=
  match test with
  | .compare op value => .compare (.column column) op (.value value)
  | .inList values negated => .inList (.column column) values negated
  | .is test negated => .is (.column column) test negated

end Test

/-!
## Filters

Filters and the builder that reads them from a sequence of calls. There is no precedence between
combinators: each takes everything before it in its group as its left operand.
-/

/-- How two filters are joined. -/
inductive Combinator where
  | and
  | or
  | xor
  deriving DecidableEq, Repr

/-- A filter of rows. Columns are named by references that are resolved only when a query runs. -/
inductive Filter where
  | leaf (column : String) (test : Test)
  | raw (sql : String) (values : List Value)
  | combine (how : Combinator) (left right : Filter)
  | not (operand : Filter)
  | grouped (operand : Filter)
  deriving Repr

/-- An operator that waits for the operand on its right. -/
inductive Pending where
  | not
  | combine (how : Combinator) (left : Filter)

def Pending.apply (p : Pending) (operand : Filter) : Filter :=
  match p with
  | .not => .not operand
  | .combine how left => .combine how left operand

/-- What has been read of one group: the completed operand, and the waiting operators, the latest
first. -/
structure Frame where
  operand : Option Filter := none
  pending : List Pending := []

/-- Reads a completed operand: every waiting operator takes it, the latest first, and the result is
joined to the operand before it. -/
def Frame.push (f : Frame) (operand : Filter) : Frame :=
  let whole := f.pending.foldl (fun operand p => p.apply operand) operand
  { operand := some (match f.operand with
      | some left => .combine .and left whole
      | none => whole)
    pending := [] }

/-- A filter that is being read: the open groups, the innermost first. -/
structure FilterBuilder where
  current : Frame := {}
  outer : List Frame := []

namespace FilterBuilder

instance : Inhabited FilterBuilder := ⟨{}⟩

def push (b : FilterBuilder) (operand : Filter) : FilterBuilder :=
  { b with current := b.current.push operand }

/-- Makes the completed operand the left side of a combinator. Without one the call is ignored. -/
def combine (b : FilterBuilder) (how : Combinator) : FilterBuilder :=
  match b.current.operand with
  | some left =>
    { b with current := { operand := none, pending := .combine how left :: b.current.pending } }
  | none => b

def negateNext (b : FilterBuilder) : FilterBuilder :=
  { b with current := { b.current with pending := .not :: b.current.pending } }

def openGroup (b : FilterBuilder) : FilterBuilder :=
  { current := {}, outer := b.current :: b.outer }

/-- Closes the innermost group, which becomes one operand of the group around it. An empty group
leaves nothing. -/
def closeGroup (b : FilterBuilder) : Except Error FilterBuilder :=
  match b.outer with
  | [] => .error (.of (.invalidStatement "end_group() without start_group()"))
  | around :: outer =>
    if b.current.pending.isEmpty then
      .ok <| match b.current.operand with
        | some operand => { current := around.push (.grouped operand), outer }
        | none => { current := around, outer }
    else
      .error (.of (.invalidStatement
        "end_group() on an incomplete expression; an operator is missing its operand"))

/-- The filter that was read, if any. Open groups and waiting operators are refused. -/
def finish (b : FilterBuilder) : Except Error (Option Filter) :=
  if !b.outer.isEmpty then
    .error (.of (.invalidStatement (toString b.outer.length ++ " group(s) left open")))
  else if !b.current.pending.isEmpty then
    .error (.of (.invalidStatement "filter ends with an operator that is missing its operand"))
  else .ok b.current.operand

end FilterBuilder

end RecordMapper
