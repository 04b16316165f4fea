import RecordMapper.Sql.Identifier
import RecordMapper.Sql.Statement

/-!
The SQL text of values, expressions and statements in a dialect. An expression is written without
parentheses of its own: those that its meaning needs are `Expr.grouped` nodes, put there by whoever
builds it. The one exception is the exclusive disjunction of PostgreSQL, which is written as a
comparison of parenthesized operands.
-/

set_option autoImplicit false

namespace RecordMapper

def hexByte (byte : UInt8) : List Char :=
  [Nat.digitChar (byte.toNat / 16), Nat.digitChar (byte.toNat % 16)]

/-- A value as a literal. Booleans are written as the texts `0` and `1`, and floating numbers that
are not finite as `NULL`. -/
def Value.literal (d : Dialect) : Value → String
  | .null => "NULL"
  | .bool b => if b then "'1'" else "'0'"
  | .int n => toString n.toInt
  | .float x =>
    match x.datum with
    | .finite .. => x.plainText
    | _ => "NULL"
  | .text s => d.escapeLiteral s
  | .bytes b =>
    let hex := String.ofList (b.flatMap hexByte)
    match d with
    | .mysql => "X'" ++ hex ++ "'"
    | .postgresql => "'\\x" ++ hex ++ "'::bytea"

def ColumnRef.render (d : Dialect) (c : ColumnRef) : String :=
  match c.table with
  | some table => Sql.identifier d table ++ "." ++ Sql.identifier d c.column
  | none => Sql.identifier d c.column

/-- The spelling of a comparison. Only pattern matches by regular expression differ. -/
def Comparison.render (d : Dialect) : Comparison → String
  | .eq => "="
  | .ne => "<>"
  | .ge => ">="
  | .gt => ">"
  | .le => "<="
  | .lt => "<"
  | .like => "LIKE"
  | .notLike => "NOT LIKE"
  | .regexp =>
    match d with
    | .mysql => "REGEXP"
    | .postgresql => "~"
  | .notRegexp =>
    match d with
    | .mysql => "NOT REGEXP"
    | .postgresql => "!~"

def Truth.render : Truth → String
  | .null => "NULL"
  | .true => "TRUE"
  | .false => "FALSE"

namespace Expr

mutual

/-- The text of an expression. Membership in an empty list has no form of its own and becomes a
constant comparison. -/
def render (d : Dialect) : Expr → String
  | .and operands => " AND ".intercalate (renderAll d operands)
  | .or operands => " OR ".intercalate (renderAll d operands)
  | .xor operands =>
    match d with
    | .mysql => " XOR ".intercalate (renderAll .mysql operands)
    | .postgresql => " <> ".intercalate (renderEnclosed .postgresql operands)
  | .not operand => "NOT " ++ render d operand
  | .grouped operand => "(" ++ render d operand ++ ")"
  | .compare left op right => render d left ++ " " ++ op.render d ++ " " ++ render d right
  | .inList operand list negated =>
    if list.isEmpty then (if negated then "1 = 1" else "1 = 0")
    else
      render d operand ++ (if negated then " NOT IN (" else " IN (") ++
        ", ".intercalate (list.map (Value.literal d)) ++ ")"
  | .is operand test negated =>
    render d operand ++ " IS " ++ (if negated then "NOT " else "") ++ test.render
  | .column c => c.render d
  | .value v => v.literal d
  | .raw sql => sql

def renderAll (d : Dialect) : List Expr → List String
  | [] => []
  | e :: rest => render d e :: renderAll d rest

/-- The texts of a list of expressions, each in parentheses. -/
def renderEnclosed (d : Dialect) : List Expr → List String
  | [] => []
  | e :: rest =>
    (if e.isGrouped then render d e else "(" ++ render d e ++ ")") :: renderEnclosed d rest

end

end Expr

namespace Sql

/-- Drops every occurrence of the two characters `a`, `b` in a row, from the left, each time going
on behind the pair. -/
def dropPairs (a b : Char) : List Char → List Char
  | x :: y :: rest => if x = a ∧ y = b then dropPairs a b rest else x :: dropPairs a b (y :: rest)
  | cs => cs

/-- The body of a comment: its text without opening marks, then without closing marks, then without
the blanks at its ends. -/
def commentBody (text : String) : String :=
  String.ofList <| Text.trimBoth Text.isBlank <|
    dropPairs '*' '/' (dropPairs '/' '*' text.toList)

def commentText : Option String → String
  | some text => "/* " ++ commentBody text ++ " */ "
  | none => ""

def condition (d : Dialect) : Option Expr → String
  | some filter => " WHERE " ++ filter.render d
  | none => ""

def identifiers (d : Dialect) (names : List String) : String :=
  ", ".intercalate (names.map (identifier d))

end Sql

open Sql

def SelectItem.render (d : Dialect) : SelectItem → String
  | .wildcard none => "*"
  | .wildcard (some table) => identifier d table ++ ".*"
  | .column c (some name) => c.render d ++ " AS " ++ aliasName name
  | .column c none => c.render d
  | .count name => "COUNT(*) AS " ++ identifier d name
  | .raw sql => sql

def Direction.render : Direction → String
  | .asc => " ASC"
  | .desc => " DESC"

/-- The row window. MySQL has no offset without a limit, so the largest row count stands for it. -/
def Window.render (d : Dialect) (w : Window) : String :=
  match d, w.offset, w.limit with
  | _, none, none => ""
  | _, none, some limit => " LIMIT " ++ toString limit.toNat
  | .mysql, some offset, limit =>
    " LIMIT " ++ toString offset.toNat ++ "," ++ toString (limit.getD 18446744073709551615).toNat
  | .postgresql, some offset, some limit =>
    " LIMIT " ++ toString limit.toNat ++ " OFFSET " ++ toString offset.toNat
  | .postgresql, some offset, none => " OFFSET " ++ toString offset.toNat

/-- The text of a query, without the semicolon. -/
def Select.render (d : Dialect) (s : Select) : String :=
  "SELECT " ++ commentText s.comment ++ (if s.distinct then "DISTINCT " else "") ++
    ", ".intercalate (s.returning.map (SelectItem.render d)) ++
    (if s.tables.isEmpty then "" else " FROM " ++ identifiers d s.tables) ++
    condition d s.filter ++
    (if s.groupBy.isEmpty then ""
      else " GROUP BY " ++ ", ".intercalate (s.groupBy.map (ColumnRef.render d))) ++
    (if s.orderBy.isEmpty then ""
      else " ORDER BY " ++
        ", ".intercalate (s.orderBy.map fun (column, direction) =>
          column.render d ++ direction.render)) ++
    (match s.window with
      | some window => window.render d
      | none => "")

/-- The text of an insertion, without the semicolon. A row without columns takes all defaults. -/
def Insert.render (d : Dialect) (s : Insert) : String :=
  "INSERT " ++ commentText s.comment ++ "INTO " ++ identifier d s.table ++
    if s.columns.isEmpty then
      match d with
      | .mysql => " () VALUES ()"
      | .postgresql => " DEFAULT VALUES"
    else
      " (" ++ identifiers d (s.columns.map Prod.fst) ++ ") VALUES (" ++
        ", ".intercalate (s.columns.map fun (_, value) => value.literal d) ++ ")"

/-- The text of an update, without the semicolon. MySQL names every table first and qualifies the
assigned columns; PostgreSQL names the other tables after the assignments. -/
def Update.render (d : Dialect) (s : Update) : String :=
  "UPDATE " ++ commentText s.comment ++
    (match d with
      | .mysql =>
        identifiers d (s.table :: s.others) ++ " SET " ++
          ", ".intercalate (s.assignments.map fun (column, value) =>
            (ColumnRef.of s.table column).render d ++ " = " ++ Value.literal d value)
      | .postgresql =>
        identifier d s.table ++ " SET " ++
          ", ".intercalate (s.assignments.map fun (column, value) =>
            identifier d column ++ " = " ++ Value.literal d value) ++
          (if s.others.isEmpty then "" else " FROM " ++ identifiers d s.others)) ++
    condition d s.filter

/-- The text of a deletion, without the semicolon. With other tables, MySQL names the table whose
rows go before all tables, and PostgreSQL names the others separately. -/
def Delete.render (d : Dialect) (s : Delete) : String :=
  "DELETE " ++ commentText s.comment ++
    (if s.others.isEmpty then "FROM " ++ identifier d s.table
      else match d with
        | .mysql => identifier d s.table ++ ".* FROM " ++ identifiers d (s.table :: s.others)
        | .postgresql =>
          "FROM " ++ identifier d s.table ++ " USING " ++ identifiers d s.others) ++
    condition d s.filter

def Statement.render (d : Dialect) : Statement → String
  | .select s => s.render d ++ ";"
  | .insert s => s.render d ++ ";"
  | .update s => s.render d ++ ";"
  | .delete s => s.render d ++ ";"

end RecordMapper
