import OneTimeCode.Store.Migration.Arguments
import OneTimeCode.Text.Characters

/-!
# Help for the migration tool

Help lists the commands and options with what they are for.  It is given in a short
and a long form.
-/

namespace OneTimeCode.Migration

/-- The variables that name the database and its schema where no option does. -/
structure Defaults where
  databaseUrl : Option String
  schema : Option String
deriving DecidableEq, Repr

namespace Help

def programName : String := "migration"

def aboutHelp : String := "Print this message or the help of the given subcommand(s)"

def about : Command → String
  | .init => "Initialize migration directory"
  | .generate => "Generate a new, empty migration"
  | .fresh => "Drop all tables from the database, then reapply all migrations"
  | .refresh => "Rollback all applied migrations, then reapply all migrations"
  | .reset => "Rollback all applied migrations"
  | .status => "Check the status of all migrations"
  | .up => "Apply pending migrations"
  | .down => "Rollback applied migrations"

/-! ## Options -/

/-- The option as it is written, with a name for its value. -/
def heading (flag : Flag) : String :=
  let letter := (flag.letter?.map fun letter => s!"-{letter}, ").getD "    "
  let value := match flag with
    | .schema => " <DATABASE_SCHEMA>"
    | .databaseUrl => " <DATABASE_URL>"
    | .steps => " <NUM>"
    | _ => ""
  s!"  {letter}--{flag.name}{value}"

def purpose (command : Option Command) (long : Bool) : Flag → String
  | .verbose => "Show debug messages"
  | .schema => "Database schema\n - For MySQL and SQLite, this argument is ignored.\n" ++
      " - For PostgreSQL, this argument is optional with default value 'public'.\n"
  | .databaseUrl => "Database URL"
  | .steps =>
    if command = some .down then "Number of applied migrations to be rolled back"
    else "Number of pending migrations to apply"
  | .universalTime => "Generate migration file based on Utc time"
  | .localTime => "Generate migration file based on Local time"
  | .help =>
    if long then "Print help (see a summary with '-h')"
    else "Print help (see more with '--help')"
  | .version => "Print version"

/-- Where a value comes from when it is not given. -/
def note (command : Option Command) (defaults : Defaults) : Flag → Option String
  | .schema => some ("[env: DATABASE_SCHEMA=" ++ defaults.schema.getD "" ++ "]")
  | .databaseUrl => some ("[env: DATABASE_URL=" ++ defaults.databaseUrl.getD "" ++ "]")
  | .steps => if command = some .down then some "[default: 1]" else none
  | _ => none

/-- The words of a line, each with the spaces behind it. -/
def words (line : List Char) : List (List Char) :=
  line.foldr (fun c words =>
    match words with
    | (next :: word) :: rest =>
      if c == ' ' && next != ' ' then [c] :: (next :: word) :: rest
      else (c :: next :: word) :: rest
    | _ => [[c]]) []

def trimEnd (text : List Char) : List Char :=
  (text.reverse.dropWhile Text.isBlank).reverse

/-- Breaks a line before a word that would make it longer than the width.  Lines
after the first are indented as the first one is. -/
def breakLine (width : Nat) (line : List Char) : List String :=
  let words := words line
  let indentation := match words with
    | word :: _ => if word.all Text.isBlank then word else []
    | [] => []
  let (lines, current) := words.foldl (fun (lines, current) word =>
    if current.all Text.isBlank ∨ current.length + (trimEnd word).length ≤ width then
      (lines, current ++ word)
    else
      (lines ++ [String.ofList (trimEnd current)], indentation ++ word)) ([], [])
  lines ++ [String.ofList current]

def indent : String := "          "

/-- Lines below the heading, of at most 100 characters where words allow it. -/
def indented (text : String) : List String :=
  (text.splitOn "\n").flatMap fun line =>
    (breakLine 90 line.toList).map (indent ++ ·)

def optionLines (command : Option Command) (defaults : Defaults) (long : Bool)
    (flag : Flag) : List String :=
  let purpose := purpose command long flag
  let text := match note command defaults flag with
    | none => purpose
    | some note => purpose ++ (if long then "\n\n" else " ") ++ note
  heading flag :: indented text

/-- Blank lines separate the options in the long form. -/
def allOptionLines (command : Option Command) (defaults : Defaults) (long : Bool) :
    List String :=
  let blocks := (Flag.available command).map (optionLines command defaults long)
  "Options:" :: (if long then [""].intercalate blocks else blocks.flatten)

/-! ## Commands -/

/-- The names of the commands, padded to the longest one, and what they do. -/
def commandLines : List String :=
  let entries := (Command.all.map fun command => (command.name, about command)) ++
    [("help", aboutHelp)]
  "Commands:" :: entries.map fun (name, about) =>
    "  " ++ name.pushn ' ' (10 - name.length) ++ about

/-! ## Topics -/

def toolLines (defaults : Defaults) (long : Bool) : List String :=
  [s!"Usage: {programName} [OPTIONS] [COMMAND]", ""] ++ commandLines ++ [""] ++
    allOptionLines none defaults long

def nameLines (long : Bool) : List String :=
  if long then ["Arguments:", "  <MIGRATION_NAME>", indent ++ "Name of the new migration", ""]
  else ["Arguments:", "  <MIGRATION_NAME>  Name of the new migration", ""]

def ofCommand (command : Command) (defaults : Defaults) (long : Bool) : List String :=
  let name := if command = .generate then " <MIGRATION_NAME>" else ""
  [about command, "", s!"Usage: {programName} {command.name} [OPTIONS]{name}", ""] ++
    (if command = .generate then nameLines long else []) ++
    allOptionLines (some command) defaults long

def lines (topic : Topic) (defaults : Defaults) (long : Bool) : List String :=
  match topic with
  | .tool => toolLines defaults long
  | .command command => ofCommand command defaults long
  | .help => [aboutHelp, "", s!"Usage: {programName} help [COMMAND]", ""] ++ commandLines
  | .described command =>
    [about command, "", s!"Usage: {programName} help {command.name}"]
  | .helpDescribed => [aboutHelp, "", s!"Usage: {programName} help help"]

end Help

end OneTimeCode.Migration
