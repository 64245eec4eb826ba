import OneTimeCode.Log
import OneTimeCode.Log.Pattern
import OneTimeCode.Settings.Value
import OneTimeCode.Text.Characters
import OneTimeCode.Text.Slice

/-!
# Directives of a log filter

A directive sets the most detailed level that is logged for some lines.  It is
written as a target, a span and its field in brackets, and a level after an equals
sign, each of which can be missing.
-/

namespace OneTimeCode.Log

/-- The most detailed level to log; without one, nothing is logged. -/
abbrev Threshold := Option Level

namespace Threshold

def admits (threshold : Threshold) (level : Level) : Bool :=
  threshold.any fun most => level.rank ≤ most.rank

/-- A level is given by its name in any case, or by its rank; `off` and 0 stand for
none. -/
def ofText? (text : String) : Option Threshold :=
  let name := Text.lowerCase text
  match Settings.readCount text with
  | .ok 0 => some none
  | .ok rank => (Level.all.find? fun level => level.rank == rank).map some
  | .error _ =>
    if name = "off" then some none
    else (Level.all.find? fun level => Text.lowerCase level.name == name).map some

end Threshold

/-- The lines whose target has a given beginning and which have a given field.  What
is not given does not matter. -/
structure Scope where
  target : Option String
  field : Option String
deriving DecidableEq, Repr

namespace Scope

def everything : Scope := ⟨none, none⟩

def fits (scope : Scope) (line : Line) : Bool :=
  scope.target.all (fun target => target.toList.isPrefixOf line.target.toList) &&
    scope.field.all fun field => line.members.any fun member => member.1 == field

/-- Of two scopes that fit a line, the narrower one has the longer target, or the
same target and a field, or the field that comes later in the alphabet. -/
def atMostAsNarrow (left right : Scope) : Bool :=
  let leftLength := left.target.elim 0 String.utf8ByteSize
  let rightLength := right.target.elim 0 String.utf8ByteSize
  if leftLength = rightLength then
    match left.field, right.field with
    | none, _ => true
    | some _, none => false
    | some left, some right => left ≤ right
  else
    leftLength < rightLength

end Scope

/-- A directive for lines, or one for what happens inside of spans.  There are no
spans, so the latter admits nothing. -/
inductive Directive
  | lines (scope : Scope) (threshold : Threshold)
  | span
deriving DecidableEq, Repr

namespace Directive

/-- Why a directive cannot be read.  Its parts are cut out by positions, which can
miss the characters. -/
inductive Fault
  | malformed
  | split (fault : Text.SplitCharacter)
deriving DecidableEq, Repr

def cut (text : List Char) (first last : Nat) : Except Fault String :=
  (Text.slice text first last).mapError .split

/-- Which part is being read, and the position at which it begins. -/
inductive Place
  | start
  | levelOrTarget (first : Nat)
  | span (first : Nat)
  | field (first : Nat)
  | fieldEnd
  | spanEnd
  | level (first : Nat)
deriving DecidableEq, Repr

/-- The parts read so far; a field can come with a value to match. -/
structure Reading where
  place : Place
  target : Option String
  named : Bool
  field : Option String
  matched : Bool

namespace Reading

def start : Reading := ⟨.start, none, false, none, false⟩

/-- The characters that a directive may begin with, a bracket apart. -/
def startsTarget (c : Char) : Bool :=
  Text.isAlphanumeric c || c == '-' || c == ':' || c == '_'

/-- A number has a point and an exponent or none.  It may have a sign. -/
def isNumber (text : String) : Bool :=
  let unsigned := match text.toList with
    | '+' :: rest => rest
    | '-' :: rest => rest
    | chars => chars
  let name := Text.lowerCase (String.ofList unsigned)
  let mantissa := unsigned.takeWhile fun c => c.isDigit || c == '.'
  let exponent := match unsigned.drop mantissa.length with
    | [] => some ['0']
    | mark :: '+' :: rest => if mark.toLower = 'e' then some rest else none
    | mark :: '-' :: rest => if mark.toLower = 'e' then some rest else none
    | mark :: rest => if mark.toLower = 'e' then some rest else none
  name = "inf" || name = "infinity" || name = "nan" ||
    (mantissa.any Char.isDigit && mantissa.count '.' ≤ 1 &&
      exponent.any fun digits => !digits.isEmpty && digits.all Char.isDigit)

/-- Reads a field's name and the value after an equals sign.  What is no number is a
pattern. -/
def withField (reading : Reading) (text : String) : Except Fault Reading :=
  match text.splitOn "=" with
  | [] => .error .malformed
  | [name] =>
    if name.isEmpty then .error .malformed
    else .ok { reading with place := .fieldEnd, field := some name }
  | name :: value :: _ =>
    if isNumber value || Pattern.isWellFormed value then
      .ok { reading with place := .fieldEnd, field := some name, matched := true }
    else
      .error .malformed

/-- Takes the character at a position.  The parts are cut out of the whole text. -/
def step (text : List Char) (reading : Reading) (position : Nat) (c : Char) :
    Except Fault Reading :=
  match reading.place with
  | .start =>
    if c = '[' then .ok { reading with place := .span (position + 1) }
    else if startsTarget c then .ok { reading with place := .levelOrTarget position }
    else .error .malformed
  | .levelOrTarget first =>
    if c = '=' then do
      let target ← cut text first position
      .ok { reading with target, place := .level (position + 1) }
    else if c = '[' then do
      let target ← cut text first position
      .ok { reading with target, place := .span (position + 1) }
    else .ok reading
  | .span first =>
    if c = ']' then do
      let _ ← cut text first position
      .ok { reading with named := true, place := .spanEnd }
    else if c = '\x7b' then do
      let name ← cut text first position
      .ok { reading with named := !name.isEmpty, place := .field (position + 1) }
    else .ok reading
  | .field first =>
    if c = '\x7d' then do reading.withField (← cut text first position)
    else .ok reading
  | .fieldEnd =>
    if c = ']' then .ok { reading with place := .spanEnd } else .error .malformed
  | .spanEnd =>
    if c = '=' then .ok { reading with place := .level (position + 1) }
    else .error .malformed
  | .level _ => .ok reading

/-- Takes the characters from a position on. -/
def readFrom (text : List Char) (reading : Reading) (position : Nat) :
    List Char → Except Fault Reading
  | [] => .ok reading
  | c :: rest => do
    readFrom text (← reading.step text position c) (position + c.utf8Size) rest

/-- The directive that the parts make up.  A span or a value leaves no lines to
decide about. -/
def directive (reading : Reading) (threshold : Threshold) : Directive :=
  if reading.named || reading.matched then .span
  else .lines ⟨reading.target, reading.field⟩ threshold

/-- What is left at the end is a level, or a target whose lines are all logged. -/
def finish (reading : Reading) (text : List Char) : Except Fault Directive :=
  match reading.place with
  | .levelOrTarget first => do
    let rest ← cut text first (Text.byteLength text)
    match Threshold.ofText? rest with
    | some threshold => .ok (.lines .everything threshold)
    | none => .ok (.lines ⟨some rest, none⟩ (some .trace))
  | .level first => do
    let rest ← cut text first (Text.byteLength text)
    if rest.isEmpty then .ok (reading.directive (some .trace))
    else
      match Threshold.ofText? rest with
      | some threshold => .ok (reading.directive threshold)
      | none => .error .malformed
  | .spanEnd => .ok (reading.directive (some .trace))
  | _ => .error .malformed

end Reading

/-- Reads a directive.  Positions are counted in the text without the blanks around
it, but the parts are cut out of the text that has them. -/
def ofText (text : String) : Except Fault Directive := do
  let chars := text.toList
  let trimmed := ((Text.skipBlank chars).reverse.dropWhile Text.isBlank).reverse
  let reading ← Reading.start.readFrom chars 0 trimmed
  reading.finish chars

end Directive

end OneTimeCode.Log
