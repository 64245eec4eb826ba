import OneTimeCode.Url.Domain

/-!
# URLs

A URL begins with a scheme.  What may follow depends on the scheme: some schemes
need a host, and all have rules for what stands behind two slashes.
-/

namespace OneTimeCode

/-- A URL by its scheme, in small letters, and the text behind the colon. -/
structure Url where
  scheme : String
  rest : List Char
deriving DecidableEq, Repr

namespace Url

/-- Some schemes need a host, files may do without one, and other schemes are free
in how they name one. -/
inductive Kind
  | hosted
  | file
  | free
deriving DecidableEq, Repr

def kind (url : Url) : Kind :=
  if ["http", "https", "ws", "wss", "ftp"].contains url.scheme then .hosted
  else if url.scheme = "file" then .file
  else .free

/-- A backslash is as good as a slash where hosts are domains. -/
def Kind.isSlash (kind : Kind) (c : Char) : Bool :=
  c == '/' || (c == '\\' && kind != .free)

/-- The characters that end what stands behind two slashes. -/
def Kind.endsAuthority (kind : Kind) (c : Char) : Bool :=
  kind.isSlash c || c == '?' || c == '#'

/-! ## Hosts -/

/-- In brackets stands an address of eight groups. -/
def isBracketed : List Char → Bool
  | '[' :: text => text.getLast? = some ']' && isGroupedAddress text.dropLast
  | _ => false

def isOpaqueHost (text : List Char) : Bool :=
  text.all fun c => !("\x00\t\n\r #/:<>?@[\\]^|".toList.contains c)

/-- A letter and a colon or a bar name a drive where a file's host would stand. -/
def isDrive : List Char → Bool
  | [letter, mark] => letter.isAlpha && (mark == ':' || mark == '|')
  | _ => false

def Kind.isHost (kind : Kind) (text : List Char) : Bool :=
  if text.head? = some '[' then isBracketed text
  else
    match kind with
    | .hosted => isDomain text
    | .file => text.isEmpty || isDrive text || isDomain text
    | .free => isOpaqueHost text

/-- The host at the front, up to a colon outside of brackets, and what follows. -/
def Kind.splitHost (kind : Kind) (inBrackets : Bool) : List Char → List Char × List Char
  | [] => ([], [])
  | c :: rest =>
    if kind.endsAuthority c || (c == ':' && !inBrackets) then ([], c :: rest)
    else
      let (host, rest) := kind.splitHost ((inBrackets || c == '[') && c != ']') rest
      (c :: host, rest)

/-- Behind a host and a colon stands a number of 16 bits, or nothing. -/
def isPort (text : List Char) : Bool :=
  let digits := text.takeWhile fun c => !(Kind.hosted.endsAuthority c)
  digits.all Char.isDigit && Text.valueOf digits < 0x10000

/-- The text behind the last at sign before the host, and whether a name or a
password is given before it. -/
def Kind.splitUser? (kind : Kind) (text : List Char) : Option (Bool × List Char) :=
  let authority := text.takeWhile fun c => !(kind.endsAuthority c)
  if authority.contains '@' then
    let host := (authority.reverse.takeWhile (· != '@')).reverse
    let user := authority.take (authority.length - host.length - 1)
    let rest := text.drop (user.length + 1)
    if user.isEmpty ∧ rest.head?.any kind.endsAuthority then none
    else some (!user.isEmpty && user != [':'], rest)
  else
    some (false, text)

/-- Whether a text can stand behind two slashes.  A user and a port need a host. -/
def Kind.isAuthority (kind : Kind) (text : List Char) : Bool :=
  match kind.splitUser? text with
  | none => false
  | some (hasUser, text) =>
    let (host, rest) := kind.splitHost false text
    kind.isHost host && !(host.isEmpty && hasUser) &&
      match rest with
      | ':' :: port => !host.isEmpty && isPort port
      | _ => true

/-- Where a file's URL has two slashes, a host can follow. -/
def isFileRest : List Char → Bool
  | first :: second :: text =>
    !(Kind.file.isSlash first && Kind.file.isSlash second) ||
      Kind.file.isHost (text.takeWhile fun c => !(Kind.file.endsAuthority c))
  | _ => true

def isWellFormed (url : Url) : Bool :=
  match url.kind with
  | .hosted => Kind.hosted.isAuthority (url.rest.dropWhile Kind.hosted.isSlash)
  | .file => isFileRest url.rest
  | .free =>
    match url.rest with
    | '/' :: '/' :: text => Kind.free.isAuthority text
    | _ => true

/-! ## Reading -/

def isPadding (c : Char) : Bool :=
  c.toNat ≤ 0x20

/-- A text without the blanks around it and without tabs and ends of lines. -/
def significant (text : String) : List Char :=
  let chars := ((text.toList.dropWhile isPadding).reverse.dropWhile isPadding).reverse
  chars.filter fun c => c != '\t' && c != '\n' && c != '\r'

def isSchemeCharacter (c : Char) : Bool :=
  c.isAlphanum || c == '+' || c == '-' || c == '.'

/-- Reads a URL.  A scheme begins with a letter, and its case does not matter. -/
def ofString? (text : String) : Option Url :=
  let chars := significant text
  let scheme := chars.takeWhile isSchemeCharacter
  match chars.drop scheme.length with
  | ':' :: rest =>
    let url : Url := ⟨String.ofList (scheme.map Char.toLower), rest⟩
    if scheme.head?.any Char.isAlpha && url.isWellFormed then some url else none
  | _ => none

end Url

end OneTimeCode
