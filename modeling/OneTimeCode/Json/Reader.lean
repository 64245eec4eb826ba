import OneTimeCode.Json.Token

/-!
# Reading a JSON text

The arrays and objects that are open at a token are kept in a list, the innermost
one first, so that a text is read in one pass over its tokens.
-/

namespace OneTimeCode.Json

/-- Adds a member in the order of the names.  A later value takes the place of an
earlier one under the same name. -/
def addMember (name : String) (value : Json) :
    List (String × Json) → List (String × Json)
  | [] => [(name, value)]
  | (other, kept) :: rest =>
    if name < other then (name, value) :: (other, kept) :: rest
    else if name = other then (name, value) :: rest
    else (other, kept) :: addMember name value rest

/-- An array or object that is not closed yet, with the items last one first or
with the members and the name that waits for its value. -/
inductive Frame
  | array (items : List Json)
  | object (members : List (String × Json)) (name : String)
deriving Repr

/-- What can come next. -/
inductive Expected
  | value
  | valueOrClose
  | name
  | nameOrClose
  | colon
  | commaOrClose
deriving DecidableEq, Repr

structure Progress where
  frames : List Frame
  expected : Expected
  /-- The value that was completed last. -/
  latest : Json

namespace Progress

def start : Progress := ⟨[], .value, .null⟩

/-- How many arrays and objects can be open at a time. -/
def deepest : Nat := 127

def opened? (progress : Progress) (frame : Frame) (expected : Expected) : Option Progress :=
  if progress.frames.length < deepest then
    some { progress with frames := frame :: progress.frames, expected }
  else
    none

/-- Puts a complete value where it belongs. -/
def completed (frames : List Frame) (value : Json) : Progress :=
  match frames with
  | .array items :: outer => ⟨.array (value :: items) :: outer, .commaOrClose, value⟩
  | .object members name :: outer =>
    ⟨.object (addMember name value members) name :: outer, .commaOrClose, value⟩
  | [] => ⟨[], .commaOrClose, value⟩

def takesValue (progress : Progress) : Bool :=
  progress.expected = .value || progress.expected = .valueOrClose

def step? (progress : Progress) : Token → Option Progress
  | .openArray =>
    if progress.takesValue then progress.opened? (.array []) .valueOrClose else none
  | .openObject =>
    if progress.takesValue then progress.opened? (.object [] "") .nameOrClose else none
  | .closeArray =>
    match progress.frames with
    | .array items :: outer =>
      if progress.expected = .valueOrClose ∨ progress.expected = .commaOrClose then
        some (completed outer (.array items.reverse))
      else none
    | _ => none
  | .closeObject =>
    match progress.frames with
    | .object members _ :: outer =>
      if progress.expected = .nameOrClose ∨ progress.expected = .commaOrClose then
        some (completed outer (.object members))
      else none
    | _ => none
  | .comma =>
    match progress.frames with
    | [] => none
    | .array _ :: _ =>
      if progress.expected = .commaOrClose then some { progress with expected := .value }
      else none
    | .object _ _ :: _ =>
      if progress.expected = .commaOrClose then some { progress with expected := .name }
      else none
  | .colon =>
    if progress.expected = .colon then some { progress with expected := .value } else none
  | .value value =>
    if progress.takesValue then
      some (completed progress.frames value)
    else
      match progress.frames, value with
      | .object members _ :: outer, .string name =>
        if progress.expected = .name ∨ progress.expected = .nameOrClose then
          some { progress with frames := .object members name :: outer, expected := .colon }
        else none
      | _, _ => none

end Progress

/-- The value that a text consists of. -/
def ofString? (text : String) : Option Json := do
  let progress ← (← Token.ofString? text).foldlM Progress.step? .start
  if progress.frames.isEmpty && progress.expected = .commaOrClose then some progress.latest
  else none

end OneTimeCode.Json
