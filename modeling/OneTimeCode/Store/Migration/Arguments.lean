import OneTimeCode.Settings.Value
import OneTimeCode.Store.Migration.Command

/-!
# Arguments of the migration tool

The arguments are read from left to right.  They give options, and a command with
options of its own behind it.  Asking for help ends the reading at once, but not
before the options so far have been found to be right.
-/

namespace OneTimeCode.Migration

inductive Flag
  | verbose
  | schema
  | databaseUrl
  | steps
  | universalTime
  | localTime
  | help
  | version
deriving DecidableEq, Repr

namespace Flag

def name : Flag → String
  | verbose => "verbose"
  | schema => "database-schema"
  | databaseUrl => "database-url"
  | steps => "num"
  | universalTime => "universal-time"
  | localTime => "local-time"
  | help => "help"
  | version => "version"

def letter? : Flag → Option Char
  | verbose => some 'v'
  | schema => some 's'
  | databaseUrl => some 'u'
  | steps => some 'n'
  | universalTime => none
  | localTime => none
  | help => some 'h'
  | version => some 'V'

def takesValue : Flag → Bool
  | schema => true
  | databaseUrl => true
  | steps => true
  | _ => false

/-- The flags of a command, or of the tool itself, in the order in which help lists
them. -/
def available : Option Command → List Flag
  | none => [verbose, schema, databaseUrl, help, version]
  | some .up => [steps, verbose, schema, databaseUrl, help]
  | some .down => [verbose, schema, databaseUrl, steps, help]
  | some .generate => [verbose, schema, databaseUrl, help, universalTime, localTime]
  | some _ => [verbose, schema, databaseUrl, help]

end Flag

/-- What help can be about.  Behind `help` itself, commands are only described. -/
inductive Topic
  | tool
  | command (command : Command)
  | help
  | described (command : Command)
  | helpDescribed
deriving DecidableEq, Repr

/-- Why reading ends without anything to do. -/
inductive Ending
  | usage
  | help (topic : Topic) (long : Bool)
  | version
deriving DecidableEq, Repr

/-- What has been given to a command, or to the tool itself.  The latest flag is not
settled before the next one comes, and may still need its value. -/
structure Level where
  command : Option Command
  settled : List (Flag × String)
  latest : Option (Flag × Option String)
  names : List String
  onlyNames : Bool

namespace Level

def start (command : Option Command) : Level := ⟨command, [], none, [], false⟩

/-- A number of steps takes 32 bits, and zero can have a minus sign. -/
def steps? (text : String) : Option Nat :=
  match text.toList with
  | '-' :: digits => if !digits.isEmpty ∧ digits.all (· == '0') then some 0 else none
  | _ =>
    match Settings.readCount text with
    | .ok count => if count < 0x100000000 then some count else none
    | .error _ => none

def value? (level : Level) (flag : Flag) : Option String :=
  level.settled.lookup flag

/-- A flag can be given once to each command. -/
def give (level : Level) (flag : Flag) (value : String) : Except Ending Level :=
  if (level.value? flag).isSome then .error .usage
  else if flag = .steps ∧ steps? value = none then .error .usage
  else .ok { level with settled := (flag, value) :: level.settled }

def settle (level : Level) : Except Ending Level :=
  match level.latest with
  | none => .ok level
  | some (_, none) => .error .usage
  | some (flag, some value) => { level with latest := none }.give flag value

def topic (level : Level) : Topic :=
  level.command.elim .tool .command

/-- Takes a flag that has no value, as a letter or by its name. -/
def raise (level : Level) (flag : Flag) (byName : Bool) : Except Ending Level := do
  let level ← level.settle
  match flag with
  | .help => .error (.help level.topic byName)
  | .version => .error .version
  | _ => level.give flag ""

/-- Takes a flag with its value, or one that needs the next argument for it. -/
def await (level : Level) (flag : Flag) (value : Option String) : Except Ending Level := do
  let level ← level.settle
  match value with
  | some value => level.give flag value
  | none => .ok { level with latest := some (flag, none) }

def find? (level : Level) (fits : Flag → Bool) : Option Flag :=
  (Flag.available level.command).find? fits

/-- The value directly behind a letter, without an equals sign in front. -/
def attached : List Char → Option String
  | [] => none
  | '=' :: value => some (String.ofList value)
  | value => some (String.ofList value)

/-- Takes letters behind one dash.  One that needs a value has the other letters for
it. -/
def letters (level : Level) : List Char → Except Ending Level
  | [] => .ok level
  | letter :: rest =>
    match level.find? fun flag => flag.letter? == some letter with
    | none => .error .usage
    | some flag =>
      if flag.takesValue then level.await flag (attached rest)
      else do letters (← level.raise flag false) rest

/-- Takes a name behind two dashes and the value after an equals sign. -/
def named (level : Level) (text : List Char) : Except Ending Level :=
  let name := text.takeWhile (· != '=')
  let value := (text.drop name.length).tail?.map String.ofList
  match level.find? fun flag => flag.name.toList == name with
  | none => .error .usage
  | some flag =>
    if flag.takesValue then level.await flag value
    else if value.isSome then .error .usage
    else level.raise flag true

/-- Only a new migration has a name. -/
def positional (level : Level) (text : String) : Except Ending Level := do
  let level ← level.settle
  if level.command = some .generate ∧ level.names = [] then
    .ok { level with names := [text] }
  else
    .error .usage

/-- Takes an argument that is no command.  What does not begin with a dash can be
the value that the latest flag needs. -/
def take (level : Level) (text : String) : Except Ending Level :=
  if level.onlyNames then level.positional text
  else
    match text.toList with
    | ['-', '-'] => .ok { level with onlyNames := true }
    | '-' :: '-' :: name => level.named name
    | '-' :: letter :: rest => level.letters (letter :: rest)
    | _ =>
      match level.latest with
      | some (flag, none) => .ok { level with latest := some (flag, some text) }
      | _ => level.positional text

/-- At the end, a new migration needs its name, and its time is of one kind. -/
def finish (level : Level) : Except Ending Level := do
  let level ← level.settle
  let bothTimes := (level.value? .universalTime).isSome && (level.value? .localTime).isSome
  if (level.command = some .generate ∧ level.names = []) ∨ bothTimes then .error .usage
  else .ok level

/-- Whether an argument can be the name of a command here. -/
def takesCommand (level : Level) : Bool :=
  level.command.isNone && !level.onlyNames &&
    match level.latest with
    | some (_, none) => false
    | _ => true

/-- Reads the arguments of one command. -/
def readAll (level : Level) : List String → Except Ending Level
  | [] => level.finish
  | text :: rest => do readAll (← level.take text) rest

end Level

/-- What help is asked for about, by the arguments behind `help`. -/
def topic? : List String → Option Topic
  | [] => some .tool
  | ["help"] => some .help
  | ["help", "help"] => some .helpDescribed
  | ["help", name] => (Command.ofName? name).map .described
  | [name] => (Command.ofName? name).map .command
  | _ => none

def readHelp (arguments : List String) : Ending :=
  match topic? arguments with
  | some topic => .help topic true
  | none => .usage

/-- What the tool is to do. -/
structure Invocation where
  command : Option Command
  databaseUrl : Option String
  steps : Option Nat
deriving DecidableEq, Repr

namespace Invocation

/-- What is given to a command comes before what is given to the tool. -/
def ofLevels (outer inner : Level) : Invocation where
  command := inner.command
  databaseUrl := (inner.value? .databaseUrl).or (outer.value? .databaseUrl)
  steps := (inner.value? .steps).bind Level.steps?

/-- Reads arguments behind what has been given to the tool itself. -/
def read (level : Level) : List String → Except Ending Invocation
  | [] => do
    let level ← level.finish
    .ok (ofLevels level level)
  | text :: rest =>
    if level.takesCommand ∧ text = "help" then
      .error (readHelp rest)
    else
      match if level.takesCommand then Command.ofName? text else none with
      | some command => do
        let inner ← (Level.start (some command)).readAll rest
        .ok (ofLevels (← level.finish) inner)
      | none => do read (← level.take text) rest

def ofArguments (arguments : List String) : Except Ending Invocation :=
  read (Level.start none) arguments

end Invocation

end OneTimeCode.Migration
