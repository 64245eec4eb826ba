import OneTimeCode.Store.Connection.Options

/-!
# How a database file is opened

The name of a file can be a URL, whose own parameters can narrow how the file is
opened and choose another file system.
-/

namespace OneTimeCode

/-- What the database itself refuses. -/
inductive DatabaseFault
  | noFileSystem (name : String)
  | otherHost (name : String)
  | noMode (kind name : String)
  | modeRefused (name : String)
  | unopened
  | readOnly
deriving DecidableEq, Repr

namespace DatabaseFault

def code : DatabaseFault → Nat
  | noFileSystem _ => 1
  | otherHost _ => 1
  | noMode _ _ => 1
  | modeRefused _ => 3
  | unopened => 14
  | readOnly => 8

def message : DatabaseFault → String
  | noFileSystem name => s!"no such vfs: {name}"
  | otherHost name => s!"invalid uri authority: {name}"
  | noMode kind name => s!"no such {kind} mode: {name}"
  | modeRefused name => s!"access mode not allowed: {name}"
  | unopened => "unable to open database file"
  | readOnly => "attempt to write a readonly database"

/-- The form in which a program reports the fault. -/
def report (fault : DatabaseFault) : String :=
  s!"Database(SqliteError \x7b code: {fault.code}, message: {Text.quoted fault.message} \x7d)"

end DatabaseFault

namespace Connection

/-- What may be done with a file. -/
structure Rights where
  reads : Bool
  writes : Bool
  creates : Bool
  inMemory : Bool
deriving DecidableEq, Repr

namespace Rights

def ofOptions (options : Options) : Rights :=
  ⟨options.readOnly, !options.readOnly, options.creates && !options.readOnly,
    options.inMemory⟩

/-- The weight of each right; a file in memory outweighs them all. -/
def weight (rights : Rights) : Nat :=
  rights.reads.toNat + 2 * rights.writes.toNat + 4 * rights.creates.toNat +
    128 * rights.inMemory.toNat

def ofMode? : String → Option Rights
  | "ro" => some ⟨true, false, false, false⟩
  | "rw" => some ⟨false, true, false, false⟩
  | "rwc" => some ⟨false, true, true, false⟩
  | "memory" => some ⟨false, false, false, true⟩
  | _ => none

end Rights

/-- A file that is about to be opened. -/
structure Target where
  path : String
  rights : Rights
  fileSystem : Option String
deriving DecidableEq, Repr

namespace Target

def upToNul (text : String) : String :=
  String.ofList (text.toList.takeWhile (· != '\x00'))

/-- The text of a part of a file's URL. -/
def decoded (text : List Char) : String :=
  upToNul (String.ofList (Text.decodeMarked (Text.percentDecode text)))

/-- Takes a parameter into account.  Rights can be given up but not be gained. -/
def set (target : Target) (parameter : String × String) : Except DatabaseFault Target :=
  match parameter with
  | ("vfs", name) => .ok { target with fileSystem := some name }
  | ("cache", value) =>
    if value = "shared" ∨ value = "private" then .ok target
    else .error (.noMode "cache" value)
  | ("mode", value) =>
    match Rights.ofMode? value with
    | none => .error (.noMode "access" value)
    | some rights =>
      if !rights.inMemory && target.rights.weight < rights.weight then
        .error (.modeRefused value)
      else
        .ok { target with rights }
  | _ => .ok target

def parameter (text : List Char) : String × String :=
  let name := text.takeWhile (· != '=')
  (decoded name, decoded (text.drop (name.length + 1)))

/-- The path behind two slashes and a host, which can only be this one. -/
def localPath (text : List Char) : Except DatabaseFault (List Char) :=
  match text with
  | '/' :: '/' :: text =>
    let host := text.takeWhile (· != '/')
    if host = [] ∨ host = "localhost".toList then .ok (text.drop host.length)
    else .error (.otherHost (String.ofList host))
  | _ => .ok text

/-- Reads the URL of a file behind its scheme. -/
def ofUrl (text : List Char) (rights : Rights) : Except DatabaseFault Target := do
  let text := (← localPath text).takeWhile (· != '#')
  let path := text.takeWhile (· != '?')
  let parameters := ((text.drop (path.length + 1)).splitOn '&').map parameter
  let target : Target := ⟨decoded path, rights, none⟩
  (parameters.filter fun (name, _) => name != "").foldlM set target

/-- The beginning of the URL of a file. -/
def urlMark : List Char := "file:".toList

/-- What the options ask to open.  Where some of them are passed on as parameters,
the name is taken literally. -/
def ofOptions (options : Options) : Except DatabaseFault Target :=
  let rights := Rights.ofOptions options
  if options.immutable || options.fileSystem.isSome then
    .ok ⟨upToNul options.file, rights, options.fileSystem.map upToNul⟩
  else if urlMark.isPrefixOf options.file.toList then
    ofUrl (options.file.toList.drop urlMark.length) rights
  else
    .ok ⟨options.file, rights, none⟩

/-- The file system that keeps files in memory. -/
def memoryFileSystem : String := "memdb"

def fileSystems : List String :=
  ["unix", "unix-none", "unix-dotfile", "unix-excl", memoryFileSystem]

/-- A file in the working directory. -/
def isLocal (target : Target) : Bool :=
  !target.path.toList.contains '/' && target.path != "." && target.path != ".."

/-- A file without a name is a temporary one. -/
def isInMemory (target : Target) : Bool :=
  target.rights.inMemory || target.fileSystem = some memoryFileSystem || target.path = "" ||
    target.path = Options.memoryName

/-- Opens a file, and tells whether it can only be read. -/
def openFile (target : Target) : Except DatabaseFault Bool :=
  match target.fileSystem.filter fun name => !fileSystems.contains name with
  | some name => .error (.noFileSystem name)
  | none =>
    if target.isInMemory ∨ (target.rights.creates ∧ target.isLocal) then
      .ok target.rights.reads
    else
      .error .unopened

end Target

end Connection

end OneTimeCode
