import OneTimeCode.Text.Quoted

/-!
# Parts of a text by position

A part of a text can be given by positions that count the bytes of its UTF-8 form.
A position may lie inside a character, and then there is no such part.
-/

namespace OneTimeCode.Text

/-- The number of bytes of the UTF-8 form. -/
def byteLength : List Char → Nat
  | [] => 0
  | c :: rest => c.utf8Size + byteLength rest

/-- Which end of a part a position is for. -/
inductive PartEnd
  | start
  | stop
deriving DecidableEq, Repr

/-- A position inside the character whose first byte is at `first`. -/
structure SplitCharacter where
  partEnd : PartEnd
  position : Nat
  character : Char
  first : Nat
deriving DecidableEq, Repr

namespace SplitCharacter

/-- A character between apostrophes, escaped as in a quoted text. -/
def shown (c : Char) : String :=
  "'" ++ String.ofList (if c = '"' then [c] else escape c) ++ "'"

def message (fault : SplitCharacter) : String :=
  let name := match fault.partEnd with
    | .start => "start"
    | .stop => "end"
  let last := fault.first + fault.character.utf8Size
  s!"{name} byte index {fault.position} is not a char boundary; it is inside " ++
    s!"{shown fault.character} (bytes {fault.first}..{last} of string)"

end SplitCharacter

/-- Splits a text that begins at `offset` at a position further on. -/
def splitAtByte (partEnd : PartEnd) (position offset : Nat) :
    List Char → Except SplitCharacter (List Char × List Char)
  | [] => .ok ([], [])
  | c :: rest =>
    if position ≤ offset then
      .ok ([], c :: rest)
    else if position < offset + c.utf8Size then
      .error ⟨partEnd, position, c, offset⟩
    else do
      let (before, after) ← splitAtByte partEnd position (offset + c.utf8Size) rest
      .ok (c :: before, after)

/-- The part of a text from one position to another. -/
def slice (text : List Char) (first last : Nat) : Except SplitCharacter String := do
  let (_, rest) ← splitAtByte .start first 0 text
  let (part, _) ← splitAtByte .stop last first rest
  .ok (String.ofList part)

end OneTimeCode.Text
