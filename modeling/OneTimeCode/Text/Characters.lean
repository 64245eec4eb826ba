/-!
# Characters

Properties of characters are given by ranges of code points, in ascending order and
with both ends included.  White space is the Unicode property White_Space; a zone
name must not consist of it alone, and a date may have it between its parts.  The
case of letters matters for ASCII names only: settings are found under such names,
and names that are written as titles, such as `EmailChange`, are made into constants,
such as `EMAIL_CHANGE`.
-/

namespace OneTimeCode.Text

/-- Whether one of the ranges holds the code point.  The search ends at the first
range that begins after it. -/
def inRanges (code : Nat) : List (Nat × Nat) → Bool
  | [] => false
  | (first, last) :: rest =>
    if code < first then false else code ≤ last || inRanges code rest

/-! ## White space -/

/-- The property White_Space: the controls from tab to carriage return, the next
line control, every space separator, and the line and paragraph separators. -/
def isBlank (c : Char) : Bool :=
  let code := c.toNat
  (9 ≤ code && code ≤ 13) || code == 0x20 || code == 0x85 || code == 0xa0 ||
    code == 0x1680 || (0x2000 ≤ code && code ≤ 0x200a) || code == 0x2028 ||
    code == 0x2029 || code == 0x202f || code == 0x205f || code == 0x3000

/-- What follows the blanks at the front of a text. -/
def skipBlank (text : List Char) : List Char :=
  text.dropWhile isBlank

/-- A text without a character that is not blank; the empty text is one. -/
def allBlank (text : String) : Bool :=
  text.toList.all isBlank

@[simp]
theorem skipBlank_nil : skipBlank [] = [] := rfl

theorem skipBlank_cons_of_not_isBlank {c : Char} (rest : List Char)
    (hc : isBlank c = false) : skipBlank (c :: rest) = c :: rest := by
  simp [skipBlank, hc]

/-! ## The case of letters -/

/-- The lower case of the characters for which it is an ASCII letter: the letters
A to Z and the Kelvin sign.  Every other character stays, as no ASCII name holds
its lower case. -/
def lowerLetter (c : Char) : Char :=
  if c = '\u212a' then 'k' else c.toLower

def lowerCase (text : String) : String :=
  String.ofList (text.toList.map lowerLetter)

/-- A letter within a title.  A capital begins a new word. -/
def constantLetters (c : Char) : List Char :=
  if c.isUpper then ['_', c] else [c.toUpper]

/-- An ASCII title in capitals, with an underscore between its words. -/
def constantCase (title : String) : String :=
  match title.toList with
  | [] => ""
  | first :: rest => String.ofList (first.toUpper :: rest.flatMap constantLetters)

end OneTimeCode.Text
