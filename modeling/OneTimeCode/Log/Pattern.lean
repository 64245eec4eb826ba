import OneTimeCode.Text.Alphanumeric
import OneTimeCode.Text.Digits

/-!
# Patterns for the values of fields

A directive can match a field's value against a regular expression.  No line is
ever matched here, but an expression has to be well formed.
-/

namespace OneTimeCode.Log.Pattern

/-- A character of an expression, or an escape in place of one. -/
inductive Part
  | plain (c : Char)
  | literal (code : Nat)
  | set
  | anchor
deriving DecidableEq, Repr

/-- A character given by its code point in hexadecimal. -/
def codePoint? (digits : List Char) : Option Part := do
  let code ← Text.hexValue? digits
  if code.isValidChar then some (.literal code) else none

/-- The controls that have a letter. -/
def controls : List (Char × Nat) :=
  [('a', 7), ('t', 9), ('n', 10), ('v', 11), ('f', 12), ('r', 13)]

/-- An escape of one character: a class, an end of the text, a control, or a mark
that stands for itself. -/
def escape? (c : Char) : Option Part :=
  if c ∈ ['d', 'D', 's', 'S', 'w', 'W'] then some .set
  else if c ∈ ['A', 'z'] then some .anchor
  else if (controls.lookup c).isSome then (controls.lookup c).map .literal
  else if c.isAlphanum || c == '<' || c == '>' || 128 ≤ c.toNat then none
  else some (.literal c.toNat)

/-- The general categories that have a name of one letter. -/
def isCategory (c : Char) : Bool :=
  c.toUpper ∈ ['C', 'L', 'M', 'N', 'P', 'S', 'Z']

/-- The parts of an expression. -/
def parts? : List Char → Option (List Part)
  | [] => some []
  | '\\' :: 'x' :: a :: b :: rest => do
    return (← codePoint? [a, b]) :: (← parts? rest)
  | '\\' :: 'u' :: a :: b :: c :: d :: rest => do
    return (← codePoint? [a, b, c, d]) :: (← parts? rest)
  | '\\' :: 'U' :: a :: b :: c :: d :: e :: f :: g :: h :: rest => do
    return (← codePoint? [a, b, c, d, e, f, g, h]) :: (← parts? rest)
  | '\\' :: 'p' :: category :: rest =>
    if isCategory category then (Part.set :: ·) <$> parts? rest else none
  | '\\' :: 'P' :: category :: rest =>
    if isCategory category then (Part.set :: ·) <$> parts? rest else none
  | '\\' :: c :: rest => do
    return (← escape? c) :: (← parts? rest)
  | c :: rest => if c = '\\' then none else (Part.plain c :: ·) <$> parts? rest

/-- What the parts read so far lead to.  Outside of brackets, what came last may be
repeated or not.  Inside, it may begin a range, as a character or as a class, and
`dash` is a dash behind it. -/
inductive Place
  | outside (repeatable : Bool)
  | groupOpened
  | groupMark
  | flags (seen : List Char) (negated : Bool) (dangling : Bool)
  | groupP
  | name (text : List Char)
  | setOpened (negated : Bool) (dashed : Bool)
  | inSet (latest : Option Part)
  | dash (latest : Option Part)
deriving DecidableEq, Repr

/-- The place, how many groups and brackets are open, and the names of groups. -/
structure State where
  place : Place
  groups : Nat
  brackets : Nat
  names : List (List Char)

namespace State

/-- Goes on at another place. -/
def moved (state : State) (place : Place) : Option State :=
  some { state with place }

/-- Takes a part outside of brackets. -/
def outside (state : State) (repeatable : Bool) : Part → Option State
  | .plain '(' => some { state with place := .groupOpened, groups := state.groups + 1 }
  | .plain ')' =>
    if state.groups = 0 then none
    else some { state with place := .outside true, groups := state.groups - 1 }
  | .plain '[' => some { state with place := .setOpened false false, brackets := 1 }
  | .plain '|' => state.moved (.outside false)
  | .plain '*' => if repeatable then state.moved (.outside true) else none
  | .plain '+' => if repeatable then state.moved (.outside true) else none
  | .plain '?' => if repeatable then state.moved (.outside true) else none
  | .plain '\x7b' => none
  | _ => state.moved (.outside true)

/-- Takes a part of the flags of a group: letters, each once, some of them behind a
minus sign. -/
def flag (state : State) (seen : List Char) (negated dangling : Bool) : Part → Option State
  | .plain ':' => if dangling then none else state.moved (.outside false)
  | .plain ')' =>
    if dangling || seen.isEmpty then none
    else some { state with place := .outside false, groups := state.groups - 1 }
  | .plain '-' => if negated then none else state.moved (.flags seen true true)
  | .plain c =>
    if c ∈ ['i', 'm', 's', 'U', 'u', 'R', 'x'] ∧ c ∉ seen then
      state.moved (.flags (c :: seen) negated false)
    else
      none
  | _ => none

/-- Takes a part of the name of a group, which is kept last character first. -/
def named (state : State) (text : List Char) : Part → Option State
  | .plain '>' =>
    if text.isEmpty || text ∈ state.names then none
    else some { state with place := .outside false, names := text :: state.names }
  | .plain c =>
    let more := c.isDigit || c == '.' || c == '[' || c == ']'
    if c = '_' ∨ (more && !text.isEmpty) ∨ (Text.isAlphanumeric c && !c.isDigit) then
      state.moved (.name (c :: text))
    else
      none
  | _ => none

/-- Whether a part can be in a set at all. -/
def isMember : Part → Bool
  | .anchor => false
  | _ => true

def closeSet (state : State) : Option State :=
  if state.brackets ≤ 1 then some { state with place := .outside true, brackets := 0 }
  else some { state with place := .inSet none, brackets := state.brackets - 1 }

/-- Takes a part inside brackets.  The marks for operations on sets are written
twice. -/
def member (state : State) (latest : Option Part) (part : Part) : Option State :=
  if part = .plain ']' then state.closeSet
  else if part = .plain '[' then
    some { state with place := .setOpened false false, brackets := state.brackets + 1 }
  else if part = .plain '-' then state.moved (.dash latest)
  else if part = .plain '&' ∧ latest = some part ∨ part = .plain '~' ∧ latest = some part then
    state.moved (.inSet none)
  else if isMember part then state.moved (.inSet (some part))
  else none

def code? : Part → Option Nat
  | .plain c => some c.toNat
  | .literal code => some code
  | _ => none

/-- Takes the part behind a dash: the end of a range, or a second dash, or the end
of the set, in which case the dash stands for itself. -/
def afterDash (state : State) (latest : Option Part) (part : Part) : Option State :=
  if part = .plain ']' then state.closeSet
  else if part = .plain '-' then state.moved (.inSet none)
  else
    match latest with
    | none => state.member none part
    | some first => do
      if (← code? first) ≤ (← code? part) then state.moved (.inSet none) else none

def step (state : State) (part : Part) : Option State :=
  match state.place with
  | .outside repeatable => state.outside repeatable part
  | .groupOpened =>
    if part = .plain '?' then state.moved .groupMark else state.outside false part
  | .groupMark =>
    if part = .plain '<' then state.moved (.name [])
    else if part = .plain 'P' then state.moved .groupP
    else state.flag [] false false part
  | .groupP => if part = .plain '<' then state.moved (.name []) else none
  | .flags seen negated dangling => state.flag seen negated dangling part
  | .name text => state.named text part
  | .setOpened negated dashed =>
    if part = .plain '^' ∧ !negated ∧ !dashed then state.moved (.setOpened true false)
    else if part = .plain '-' then state.moved (.setOpened negated true)
    else if part = .plain ']' ∧ !dashed then state.moved (.inSet none)
    else state.member none part
  | .inSet latest => state.member latest part
  | .dash latest => state.afterDash latest part

/-- At the end, every group and bracket has been closed. -/
def isComplete (state : State) : Bool :=
  match state.place with
  | .outside _ => state.groups == 0
  | _ => false

end State

def isWellFormed (text : String) : Bool :=
  match parts? text.toList with
  | none => false
  | some parts =>
    (parts.foldlM State.step ⟨.outside false, 0, 0, []⟩).any State.isComplete

end OneTimeCode.Log.Pattern
