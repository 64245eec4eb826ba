import OneTimeCode.Store.Connection.Access
import OneTimeCode.Store.Ledger
import OneTimeCode.Url

/-!
# Connecting to a database

A connection string names its driver by its scheme.  Databases in memory and new
files in the working directory can be opened, which are empty then, but no file that
exists, and a server is never there.
-/

namespace OneTimeCode

inductive ConnectionFault
  | unreadable (url : String)
  | noDriver (url : String)
  | noServer
  | options (fault : Connection.OptionFault)
  | nulInName
  | database (fault : DatabaseFault)
deriving DecidableEq, Repr

namespace ConnectionFault

/-- The form in which a program that cannot connect reports the fault. -/
def report : ConnectionFault → String
  | unreadable url => "Conn(Internal(" ++
      Text.quoted s!"The connection string '{url}' cannot be parsed." ++ "))"
  | noDriver url => "Conn(Internal(" ++
      Text.quoted s!"The connection string '{url}' has no supporting driver." ++ "))"
  | noServer => "Conn(SqlxError(PoolTimedOut))"
  | options fault => s!"Conn(SqlxError(Configuration({fault.report})))"
  | nulInName => "Conn(SqlxError(Io(Custom \x7b kind: InvalidData, error: " ++
      Text.quoted "filename passed to SQLite must not contain nul bytes" ++ " \x7d)))"
  | database fault => s!"Conn(SqlxError({fault.report}))"

end ConnectionFault

/-- An open database. -/
structure Connection where
  ledger : Ledger
  readOnly : Bool

namespace Connection

/-- Changes what the database consists of, if it can be written to. -/
def change (connection : Connection) (action : Ledger → Ledger) : Except DatabaseFault Ledger :=
  if connection.readOnly then .error .readOnly else .ok (action connection.ledger)

/-- Opens the database of some options, which has no table yet. -/
def ofOptions (options : Options) : Except ConnectionFault Connection :=
  let passesOn := options.immutable || options.fileSystem.isSome
  if !passesOn && options.file.toList.contains '\x00' then .error .nulInName
  else
    match Target.ofOptions options >>= Target.openFile with
    | .ok readOnly => .ok ⟨.unmigrated, readOnly⟩
    | .error fault => .error (.database fault)

/-- The schemes of databases that are kept by a server. -/
def serverSchemes : List String := ["postgres", "postgresql"]

/-- Connects to the database of a connection string. -/
def ofString (text : String) : Except ConnectionFault Connection :=
  match Url.ofString? text with
  | none => .error (.unreadable text)
  | some url =>
    if url.scheme = "sqlite" then do
      let options ← (Options.ofString text).mapError .options
      ofOptions options
    else if serverSchemes.contains url.scheme then .error .noServer
    else .error (.noDriver text)

end Connection

end OneTimeCode
