import RecordMapper.Error
import RecordMapper.Sql.Identifier
import RecordMapper.Url.Reading

/-!
Where a database is found and how to log in to it, as a connection URL says. User, password, host
and database are the texts of the URL, still encoded.
-/

set_option autoImplicit false

namespace RecordMapper

structure Endpoint where
  dialect : Dialect
  user : Option String
  password : Option String
  host : String
  port : UInt16
  database : String
  deriving DecidableEq, Repr

namespace Endpoint

def refuse {α : Type} (detail : String) : Except Error α :=
  .error (.of (.invalidConnectionUrl detail))

def databaseOf (u : Url) : String := String.ofList (u.path.toList.dropWhile (· == '/'))

/-- The endpoint that a URL names. It needs the scheme of a dialect, a host and a database. -/
def ofUrl (u : Url) : Except Error Endpoint :=
  match Dialect.ofScheme? u.scheme with
  | none => refuse ("unsupported database scheme \x60" ++ u.scheme ++ "\x60")
  | some dialect =>
    match u.authority with
    | none => refuse ("missing host; url=" ++ u.text)
    | some place =>
      if place.host.isEmpty then refuse ("missing host; url=" ++ u.text)
      else if (databaseOf u).isEmpty then
        refuse ("no database specified - missing path in connection URL; url=" ++ u.text)
      else
        .ok {
          dialect
          user := if place.user.isEmpty then none else some place.user
          password := place.password
          host := place.host
          port := place.port.getD dialect.defaultPort
          database := databaseOf u }

def ofText (text : String) : Except Error Endpoint :=
  match Url.ofText text with
  | .error fault => refuse fault.message
  | .ok u => ofUrl u

/-- The endpoint of a connection URL that has to be one of a dialect. -/
def ofTextFor (dialect : Dialect) (text : String) : Except Error Endpoint := do
  let endpoint ← ofText text
  if endpoint.dialect = dialect then return endpoint
  else refuse ("connection URL does not have a \x60" ++ dialect.name ++ "\x60 scheme; url=" ++ text)

/-- Why no connection is opened by a URL: either it names no endpoint, or its dialect has no driver
here that opens connections. -/
def refusal (text : String) : Error :=
  match ofText text with
  | .error e => e
  | .ok endpoint => .words ("\x60" ++ endpoint.dialect.name ++ "\x60 feature not enabled")

end Endpoint

end RecordMapper
