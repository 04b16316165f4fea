import RecordMapper.Query.Basic
import RecordMapper.Query.Scope

/-!
From queries to statements, once the scope is known. All statements of one query share its tables
and its condition: the join equalities first, then the filter.
-/

set_option autoImplicit false

namespace RecordMapper

/-- A value as it stands in a fragment of SQL: a text as the connection escapes it, all others as a
filter has them. -/
def Value.filled (d : Dialect) : Value → String
  | .text s => d.escapeLiteral s
  | value => (Expr.value value).render d

/-- A fragment of SQL with its question marks replaced by the literals of values, one for each.
`sql` is the whole fragment, for complaints. -/
def Filter.fill (d : Dialect) (sql : String) : List Char → List Value → Except Error (List Char)
  | [], [] => .ok []
  | [], _ :: _ =>
    .error (.of (.invalidStatement
      ("raw filter \x60" ++ sql ++ "\x60 has more values than placeholders")))
  | c :: rest, values =>
    if c = '?' then
      match values with
      | [] =>
        .error (.of (.invalidStatement
          ("raw filter \x60" ++ sql ++ "\x60 has more placeholders than values")))
      | value :: values => do return (value.filled d).toList ++ (← fill d sql rest values)
    else do return c :: (← fill d sql rest values)

/-- Puts a compound expression in parentheses unless it is flattened into the one around it. A
fragment counts as compound. -/
def Expr.nest (flattens : Expr → Bool) (e : Expr) : Expr :=
  match e with
  | .and _ | .or _ | .xor _ | .raw _ => if flattens e then e else e.group
  | _ => e

def Expr.isConjunction : Expr → Bool
  | .and _ => true
  | _ => false

def Expr.isAlternative : Expr → Bool
  | .or _ => true
  | _ => false

/-- The expression of two filters joined by a combinator. Conjunctions and disjunctions are
flattened; the operands of an exclusive disjunction are not. -/
def Combinator.join (how : Combinator) (left right : Expr) : Expr :=
  match how with
  | .and => (left.nest Expr.isConjunction).conj (right.nest Expr.isConjunction)
  | .or => (left.nest Expr.isAlternative).disj (right.nest Expr.isAlternative)
  | .xor => (left.nest fun _ => false).exclusive (right.nest fun _ => false)

def Filter.lower (d : Dialect) (scope : Scope) : Filter → Except Error Expr
  | .leaf column test => do return test.condition (← scope.resolve column)
  | .raw sql values => do return .raw (String.ofList (← fill d sql sql.toList values))
  | .combine how left right => do
    let left ← lower d scope left
    let right ← lower d scope right
    return how.join left right
  | .not operand => do return .not ((← lower d scope operand).nest fun _ => false)
  | .grouped operand => do return Expr.group (← lower d scope operand)

/-- All columns of a table, each under its `table:column` name. -/
def Scope.allColumns (scope : Scope) (table : String) : List SelectItem :=
  (scope.columns table).map fun column => .aliased (.of table column)

namespace Query

/-- The shape of the result: rows as soon as anything is selected. -/
def outputMode (q : Query) : Mode := if q.projection.isEmpty then q.mode else .rows

def isPaged (q : Query) : Bool := q.pageStart.isSome || q.pageSize.isSome

/-- The selected columns of one item. A bare name that no table lists is left out. -/
def projected (scope : Scope) : Projection → Except Error (List SelectItem)
  | .raw sql => .ok [.raw sql]
  | .named name =>
    let table := Name.normalize name
    if scope.contains table then .ok (scope.allColumns table)
    else
      match scope.resolve name with
      | .ok column => .ok [.aliased column]
      | .error e =>
        match e.cause with
        | .unknownColumn _ =>
          if name.toList.any fun c => c == '.' || c == ':' then .error e else .ok []
        | _ => .error e

/-- The columns of an included table, which has to be joined. Those of the primary table are there
anyway. -/
def includedColumns (scope : Scope) (table : String) : Except Error (List SelectItem) :=
  if !scope.contains table then
    .error (.of (.invalidStatement ("\x60" ++ table ++ "\x60 is included but not joined")))
  else .ok (if table = scope.primary then [] else scope.allColumns table)

def returning (q : Query) (scope : Scope) : Except Error (List SelectItem) := do
  let primary := scope.primary
  let items ← match q.outputMode with
    | .ids => pure [.aliased (.of primary (scope.primaryKey primary))]
    | .rows =>
      if q.projection.isEmpty then pure (scope.tableNames.flatMap scope.allColumns)
      else do pure (← q.projection.mapM (projected scope)).flatten
    | .objects => do
      let others ← q.included.mapM (includedColumns scope)
      pure (scope.allColumns primary ++ others.flatten)
  if items.isEmpty then
    .error (.of (.invalidStatement ("query on \x60" ++ primary ++ "\x60 selects no columns")))
  else .ok items

/-- The condition of a query: the equalities of its joins, and its filter. -/
def condition (q : Query) (d : Dialect) (scope : Scope) : Except Error (Option Expr) := do
  let joins := scope.equalities.map KeyEquality.condition
  match ← q.filter.finish with
  | none => return Expr.conjAll? joins
  | some filter =>
    let e ← filter.lower d scope
    return Expr.conjAll? (joins ++ [if joins.isEmpty then e else e.nest Expr.isConjunction])

/-- The row window of a query. Starting at the first row skips none. -/
def window (q : Query) : Option Window :=
  let offset := q.pageStart.bind fun start =>
    let skipped := max start 1 - 1
    if 0 < skipped then some skipped else none
  if offset.isNone && q.pageSize.isNone then none else some { offset, limit := q.pageSize }

def compileSelect (q : Query) (d : Dialect) (scope : Scope) : Except Error Select := do
  let returning ← q.returning scope
  let orderBy ← q.orderBy.mapM fun (column, direction) => do
    return (← scope.resolve column, direction)
  let groupBy ← q.groupBy.mapM scope.resolve
  let filter ← q.condition d scope
  return {
    comment := q.comment
    distinct := q.distinct
    returning
    tables := scope.tableNames
    filter
    groupBy
    orderBy
    window := q.window }

/-- The statement that counts the rows of a query, without order and window. -/
def compileCount (q : Query) (d : Dialect) (scope : Scope) : Except Error Select := do
  let filter ← q.condition d scope
  return { comment := q.comment, returning := [.count "count"], tables := scope.tableNames, filter }

/-- One assignment of an update, which has to be to a column of the primary table. -/
def assignment (scope : Scope) (field : String × Value) : Except Error (String × Value) := do
  let primary := scope.primary
  let target ← scope.resolve field.1
  if target.table ≠ some primary then
    .error (.of (.invalidStatement
      ("cannot SET \x60" ++ target.display ++ "\x60; only columns of \x60" ++ primary ++
        "\x60 can be updated")))
  else
    match (scope.model? primary).bind fun model => model.fields.get? target.column with
    | some type => do return (target.column, ← type.toDatabase field.2)
    | none => return (target.column, field.2)

def compileUpdate (q : Query) (d : Dialect) (scope : Scope) (fields : List (String × Value)) :
    Except Error Update := do
  let primary := scope.primary
  if fields.isEmpty then
    .error (.of (.invalidStatement ("update of \x60" ++ primary ++ "\x60 sets no columns")))
  else
    let assignments ← fields.mapM (assignment scope)
    let filter ← q.condition d scope
    return {
      comment := q.comment
      table := primary
      others := scope.tableNames.drop 1
      assignments
      filter }

def compileDelete (q : Query) (d : Dialect) (scope : Scope) : Except Error Delete := do
  let filter ← q.condition d scope
  return {
    comment := q.comment
    table := scope.primary
    others := scope.tableNames.drop 1
    filter }

end Query

end RecordMapper
