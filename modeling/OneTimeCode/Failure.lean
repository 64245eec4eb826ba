/-!
# Failures

A store refuses faulty arguments, reports a code that is taken, and passes on a
failure of its storage.  That a code is unknown, used up or expired is no
failure.  A program that cannot do its work ends early, with a status that tells why.
-/

namespace OneTimeCode

/-- What is wrong with the arguments of a call. -/
inductive ArgumentFault
  | dataMissing
  | expiryMissing
  | expiryPast
  | codeMissing
  | other (text : String)
deriving DecidableEq, Repr

def ArgumentFault.text : ArgumentFault → String
  | dataMissing => "data is required"
  | expiryMissing => "expires_at is required"
  | expiryPast => "expiry in the past"
  | codeMissing => "code is required"
  | other text => text

/-- The statements that a ledger runs on its table. -/
inductive Statement
  | insert
  | consume
  | revoke
  | sweep
deriving DecidableEq, Repr

/-- What a statement was run for, as failure reports say it. -/
def Statement.purpose : Statement → String
  | insert => "insert expiring code"
  | consume => "consume expiring code"
  | revoke => "expire codes by intent"
  | sweep => "delete expired codes"

/-- Why the storage could not do its part: a statement failed, or a row that was
taken cannot be a voucher.  `reported` is a failure described elsewhere, with
what was being done at the time, the innermost first. -/
inductive AccessFault
  | unavailable (statement : Statement)
  | expiryOutOfRange (millis : Int)
  | zoneBlank
  | reported (message : String) (contexts : List String)
deriving DecidableEq, Repr

namespace AccessFault

/-- The outermost description. -/
def context : AccessFault → String
  | unavailable statement => statement.purpose
  | expiryOutOfRange millis => s!"expires_at out of range: {millis}"
  | zoneBlank => "stored zone id"
  | reported message contexts => contexts.getLast?.getD message

/-- What the outermost description rests on, from the outside in. -/
def causes : AccessFault → List String
  | unavailable _ => []
  | expiryOutOfRange _ => []
  | zoneBlank => ["zone id must not be empty"]
  | reported message contexts => (contexts.reverse ++ [message]).tail

/-- All descriptions from the outside in. -/
def chain (fault : AccessFault) : List String :=
  fault.context :: fault.causes

end AccessFault

inductive Failure
  | invalidArgument (fault : ArgumentFault)
  | conflict
  | dataAccess (fault : AccessFault)
deriving DecidableEq, Repr

namespace Failure

/-- The kinds by which callers tell failures apart. -/
def kind : Failure → String
  | invalidArgument _ => "INVALID_ARGUMENT"
  | conflict => "CONFLICT"
  | dataAccess _ => "DATA_ACCESS"

/-- A failure of the storage is not described to callers. -/
def message : Failure → String
  | invalidArgument fault => "invalid argument: " ++ fault.text
  | conflict => "duplicate code"
  | dataAccess _ => "data access failure"

/-- The descriptions beneath the message, from the outside in. -/
def sources : Failure → List String
  | invalidArgument _ => []
  | conflict => []
  | dataAccess fault => fault.chain

end Failure

/-- Why a program ended early: it gave up its work, it was called wrongly, or it
failed with a message. -/
inductive Abort
  | gaveUp
  | usage
  | failed (message : String)
deriving DecidableEq, Repr

namespace Abort

def status : Abort → Nat
  | gaveUp => 1
  | usage => 2
  | failed _ => 101

def message? : Abort → Option String
  | gaveUp => none
  | usage => none
  | failed message => some message

end Abort

end OneTimeCode
