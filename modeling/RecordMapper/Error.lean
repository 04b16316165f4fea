import RecordMapper.Number.Reading
import RecordMapper.Time.Civil

/-!
What can go wrong, by cause. An error is a chain of causes, the outermost first: context put around
an error keeps the error behind it.
-/

set_option autoImplicit false

namespace RecordMapper

inductive Cause where
  /-- Words of no particular kind. -/
  | words (text : String)
  /-- A failure of the database or of the way to it: its message and the messages below it. -/
  | driver (message : String) (below : List String)
  /-- A lookup by identifier found no row. -/
  | recordNotFound (detail : String)
  | tooManyRecords (detail : String)
  | invalidStatement (detail : String)
  /-- A column is in no table of the query, or not in the record. -/
  | unknownColumn (column : String)
  /-- A bare column name is listed by several tables of the query. -/
  | ambiguousColumn (column : String) (tables : List String)
  /-- A table does not exist or is not part of the query. -/
  | unknownTable (detail : String)
  | unknownModel (key : String)
  /-- A model declares no relation to a table. -/
  | relationNotDeclared (source target : String)
  /-- A model declares several relations to a table and none was chosen. -/
  | ambiguousRelation (source target : String)
  /-- Two models declare kinds of relation that do not complement each other. -/
  | relationMismatch (detail : String)
  /-- The database did not report the identifier of an inserted row. -/
  | unknownInsertId (table : String)
  | invalidConnectionUrl (detail : String)
  | unreadableNumber (fault : NumberFault)
  /-- A number of seconds has no calendar date. -/
  | momentOutOfRange
  | foreign (text : String)
  deriving DecidableEq, Repr

def Cause.message : Cause → String
  | .words text => text
  | .driver message below => ": ".intercalate (message :: below)
  | .recordNotFound detail => "record not found: " ++ detail
  | .tooManyRecords detail => "too many records: " ++ detail
  | .invalidStatement detail => "invalid statement: " ++ detail
  | .unknownColumn column => "no such column: " ++ column
  | .ambiguousColumn column tables =>
    "column reference \x60" ++ column ++ "\x60 is ambiguous; matches " ++ ", ".intercalate tables
  | .unknownTable detail => "unknown table: " ++ detail
  | .unknownModel key => "no model registered as \x60" ++ key ++ "\x60"
  | .relationNotDeclared source target =>
    "no relation declared from \x60" ++ source ++ "\x60 to \x60" ++ target ++ "\x60"
  | .ambiguousRelation source target =>
    "more than one relation declared from \x60" ++ source ++ "\x60 to \x60" ++ target ++ "\x60"
  | .relationMismatch detail => "relation mismatch: " ++ detail
  | .unknownInsertId table =>
    "database did not report an identifier for the row inserted into \x60" ++ table ++ "\x60"
  | .invalidConnectionUrl detail => "invalid connection URL: " ++ detail
  | .unreadableNumber fault => fault.message
  | .momentOutOfRange =>
    "parameter 'Unix timestamp seconds' is not in the required range of " ++
      toString Time.firstSecond ++ "..=" ++ toString Time.lastSecond
  | .foreign text => text

/-- An error: its outermost cause, and the causes behind it down to the root. -/
structure Error where
  cause : Cause
  behind : List Cause
  deriving DecidableEq, Repr

namespace Error

def of (cause : Cause) : Error := ⟨cause, []⟩

def words (text : String) : Error := of (.words text)

instance : Inhabited Error := ⟨words ""⟩

def chain (e : Error) : List Cause := e.cause :: e.behind

/-- The text of an error: the messages of its chain, outermost first. -/
def message (e : Error) : String := ": ".intercalate (e.chain.map Cause.message)

def root (e : Error) : Error := of (e.behind.getLastD e.cause)

/-- What is put in front of an error as its context. An error that is `shared` is still held
somewhere else, so that its cause cannot be taken out of it. -/
inductive Consequent where
  | owned (e : Error)
  | shared (e : Error)
  | words (text : String)
  deriving DecidableEq, Repr

/-- The one cause that a consequent contributes: its own where it can be taken, the words of its
outermost cause otherwise. -/
def Consequent.cause : Consequent → Cause
  | .owned e => if e.behind.isEmpty then e.cause else .words e.cause.message
  | .shared e => .words e.cause.message
  | .words text => .words text

def context (e : Error) (consequent : Consequent) : Error := ⟨consequent.cause, e.chain⟩

/-- The text of the failure that an error wraps: present for failures of the database and for those
from outside of this library. -/
def source? (e : Error) : Option String :=
  match e.cause with
  | .driver .. | .unreadableNumber _ | .momentOutOfRange | .foreign _ => some e.cause.message
  | _ => none

theorem root_context (e : Error) (consequent : Consequent) :
    (e.context consequent).root = e.root := by
  simp only [root, context, chain]
  cases e.behind <;> simp [List.getLastD]

end Error

end RecordMapper
