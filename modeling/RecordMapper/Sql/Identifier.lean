import RecordMapper.Schema.Model

/-!
The two SQL dialects, and how each writes texts and the names of tables and columns.
-/

set_option autoImplicit false

namespace RecordMapper

/-! ## Dialects and their texts -/

inductive Dialect where
  | mysql
  | postgresql
  deriving DecidableEq, Repr

namespace Dialect

def ofScheme? (scheme : String) : Option Dialect :=
  if scheme = "mysql" then some .mysql
  else if ["postgresql", "postgres", "pgsql"].contains scheme then some .postgresql
  else none

def defaultPort : Dialect → UInt16
  | .mysql => 3306
  | .postgresql => 5432

def name : Dialect → String
  | .mysql => "mysql"
  | .postgresql => "postgresql"

/-- One character of a text, as it stands inside a literal. MySQL escapes with backslashes;
PostgreSQL, with standard conforming strings, only doubles the quote. -/
def escapeChar : Dialect → Char → List Char
  | .mysql, c =>
    if c.toNat = 0 then ['\\', '0']
    else if c = '\n' then ['\\', 'n']
    else if c = '\r' then ['\\', 'r']
    else if c = '\\' then ['\\', '\\']
    else if c = '\'' then ['\\', '\'']
    else if c = '"' then ['\\', '"']
    else if c.toNat = 0x1A then ['\\', 'Z']
    else [c]
  | .postgresql, c => if c = '\'' then ['\'', '\''] else [c]

def escapeChars (d : Dialect) (cs : List Char) : List Char :=
  '\'' :: cs.flatMap d.escapeChar ++ ['\'']

def escapeLiteral (d : Dialect) (text : String) : String :=
  String.ofList (d.escapeChars text.toList)

end Dialect

end RecordMapper

/-!
## Names

A plain name stands bare unless it is a reserved word; any
other name is quoted, with the quote inside it doubled.
-/

namespace RecordMapper.Sql

/-- Words that one of the dialects reserves and that a table or a column may be called, in order. -/
def reservedWords : List String := [
  "all", "alter", "analyze", "and", "any", "as", "asc", "between", "both", "by", "case", "cast",
  "check", "collate", "column", "constraint", "create", "cross", "current_date", "current_time",
  "current_timestamp", "current_user", "default", "delete", "desc", "distinct", "div", "drop",
  "else", "end", "except", "exists", "false", "fetch", "for", "foreign", "from", "full", "grant",
  "group", "groups", "having", "in", "index", "inner", "insert", "intersect", "interval", "into",
  "is", "join", "key", "keys", "leading", "left", "like", "limit", "lock", "match", "mod",
  "natural", "not", "null", "offset", "on", "only", "option", "or", "order", "outer", "over",
  "primary", "range", "rank", "references", "regexp", "rename", "replace", "right", "row", "rows",
  "select", "set", "some", "table", "then", "to", "trailing", "true", "union", "unique", "update",
  "usage", "user", "using", "values", "when", "where", "window", "with", "xor"]

/-- Whether an ordered list holds a word, found by halving it; `fuel` bounds the halvings. -/
def holdsWord (word : String) : Nat → List String → Bool
  | 0, _ => false
  | fuel + 1, words =>
    match words.drop (words.length / 2) with
    | [] => false
    | middle :: above =>
      if word = middle then true
      else if word < middle then holdsWord word fuel (words.take (words.length / 2))
      else holdsWord word fuel above

def isReserved (name : String) : Bool := holdsWord name reservedWords.length reservedWords

/-- Whether a name reads as one identifier without quotes in both dialects. -/
def isBareName (name : String) : Bool :=
  match name.toList with
  | [] => false
  | c :: rest =>
    (Name.isSmallLetter c || c == '_') &&
      rest.all fun c => Name.isSmallLetter c || Name.isAsciiDigit c || c == '_'

/-- A text between two quotes, with the quotes inside it doubled. -/
def enclose (quote : Char) (cs : List Char) : List Char :=
  quote :: cs.flatMap (fun c => if c = quote then [quote, quote] else [c]) ++ [quote]

def nameQuote : Dialect → Char
  | .mysql => '\x60'
  | .postgresql => '"'

/-- A table or column name as it stands in a statement. -/
def identifier (d : Dialect) (name : String) : String :=
  if isBareName name && !isReserved name then name
  else String.ofList (enclose (nameQuote d) name.toList)

/-- The alias of a column, in double quotes in both dialects. -/
def aliasName (name : String) : String := String.ofList (enclose '"' name.toList)

end RecordMapper.Sql
