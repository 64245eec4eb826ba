import OneTimeCode.Json.Printer
import OneTimeCode.Time.Rfc3339.Printer

/-!
# Log lines

A log line has a level, the target it comes from, and named fields.  The message
is the first field.  A line is printed as one JSON object, which also tells when it
was logged.
-/

namespace OneTimeCode.Log

inductive Level
  | error
  | warn
  | info
  | debug
  | trace
deriving DecidableEq, Repr

namespace Level

def all : List Level := [error, warn, info, debug, trace]

def name : Level → String
  | error => "ERROR"
  | warn => "WARN"
  | info => "INFO"
  | debug => "DEBUG"
  | trace => "TRACE"

/-- More detailed levels have higher ranks; no level has rank 0. -/
def rank : Level → Nat
  | error => 1
  | warn => 2
  | info => 3
  | debug => 4
  | trace => 5

end Level

structure Line where
  level : Level
  target : String
  message : String
  fields : List (String × Json)
deriving Repr

namespace Line

/-- All fields of a line, the message among them. -/
def members (line : Line) : List (String × Json) :=
  ("message", .string line.message) :: line.fields

def toJson (line : Line) (now : Instant) : Json :=
  .object [("timestamp", .string (Rfc3339.print now)), ("level", .string line.level.name),
    ("fields", .object line.members), ("target", .string line.target)]

def print (line : Line) (now : Instant) : String :=
  (line.toJson now).print

end Line

end OneTimeCode.Log
