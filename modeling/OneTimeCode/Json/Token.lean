import OneTimeCode.Json.Numeral
import OneTimeCode.Text.Digits

/-!
# Tokens of a JSON text

A text is cut into brackets, marks and single values, one character at a time.
-/

namespace OneTimeCode.Json

inductive Token
  | openArray
  | closeArray
  | openObject
  | closeObject
  | comma
  | colon
  | value (value : Json)
deriving Inhabited, Repr

namespace Token

def blank (c : Char) : Bool :=
  c == ' ' || c == '\n' || c == '\t' || c == '\r'

/-- Brackets and marks are characters of their own. -/
def mark? : Char → Option Token
  | '[' => some openArray
  | ']' => some closeArray
  | '\x7b' => some openObject
  | '\x7d' => some closeObject
  | ',' => some comma
  | ':' => some colon
  | _ => none

/-- The characters of numbers and of the three names. -/
def isBare (c : Char) : Bool :=
  c.isAlphanum || c == '+' || c == '-' || c == '.'

def bare? (word : List Char) : Option Json :=
  if word = ['n', 'u', 'l', 'l'] then some .null
  else if word = ['t', 'r', 'u', 'e'] then some (.boolean true)
  else if word = ['f', 'a', 'l', 's', 'e'] then some (.boolean false)
  else Numeral.ofChars? word >>= Numeral.value?

/-! ## Strings -/

def isHighHalf (unit : Nat) : Bool :=
  0xd800 ≤ unit && unit < 0xdc00

def isLowHalf (unit : Nat) : Bool :=
  0xdc00 ≤ unit && unit < 0xe000

/-- The character that a pair of halves stands for. -/
def joinHalves (high low : Nat) : Char :=
  Char.ofNat (0x10000 + 0x400 * (high - 0xd800) + (low - 0xdc00))

def shortEscape? : Char → Option Char
  | '"' => some '"'
  | '\\' => some '\\'
  | '/' => some '/'
  | 'b' => some '\x08'
  | 'f' => some '\x0c'
  | 'n' => some '\n'
  | 'r' => some '\r'
  | 't' => some '\t'
  | _ => none

/-- Resolves the escapes of a string.  A control has to be escaped, and a half of a
character needs the other half after it. -/
def unescape? : List Char → Option (List Char)
  | [] => some []
  | '\\' :: 'u' :: a :: b :: c :: d :: rest => do
    let unit ← Text.hexValue? [a, b, c, d]
    if isLowHalf unit then none
    else if isHighHalf unit then
      match rest with
      | '\\' :: 'u' :: a :: b :: c :: d :: rest =>
        let low ← Text.hexValue? [a, b, c, d]
        if isLowHalf low then (joinHalves unit low :: ·) <$> unescape? rest else none
      | _ => none
    else (Char.ofNat unit :: ·) <$> unescape? rest
  | '\\' :: mark :: rest => do
    let c ← shortEscape? mark
    (c :: ·) <$> unescape? rest
  | c :: rest =>
    if c = '\\' ∨ c.toNat < 0x20 then none else (c :: ·) <$> unescape? rest

/-! ## Cutting -/

/-- What the character before belongs to.  Characters are kept last one first. -/
inductive Mode
  | between
  | bare (word : List Char)
  | quoted (text : List Char)
  | escaped (text : List Char)
deriving Repr

/-- The tokens so far, last one first. -/
structure Cut where
  tokens : List Token
  mode : Mode

def Cut.start : Cut := ⟨[], .between⟩

/-- A word ends before the first character that cannot be part of it. -/
def Cut.closeWord? (cut : Cut) : Option Cut :=
  match cut.mode with
  | .bare word => do
    let value ← bare? word.reverse
    some ⟨.value value :: cut.tokens, .between⟩
  | _ => some cut

def Cut.outside? (cut : Cut) (c : Char) : Option Cut :=
  if blank c then some cut
  else if c = '"' then some ⟨cut.tokens, .quoted []⟩
  else if isBare c then some ⟨cut.tokens, .bare [c]⟩
  else (mark? c).map fun token => ⟨token :: cut.tokens, .between⟩

def Cut.step? (cut : Cut) (c : Char) : Option Cut :=
  match cut.mode with
  | .between => cut.outside? c
  | .bare word =>
    if isBare c then some ⟨cut.tokens, .bare (c :: word)⟩
    else cut.closeWord? >>= fun cut => cut.outside? c
  | .quoted text =>
    if c = '"' then do
      let chars ← unescape? text.reverse
      some ⟨.value (.string (String.ofList chars)) :: cut.tokens, .between⟩
    else if c = '\\' then some ⟨cut.tokens, .escaped (c :: text)⟩
    else some ⟨cut.tokens, .quoted (c :: text)⟩
  | .escaped text => some ⟨cut.tokens, .quoted (c :: text)⟩

/-- The tokens of a whole text. -/
def ofString? (text : String) : Option (List Token) := do
  let cut ← text.toList.foldlM Cut.step? .start
  let cut ← cut.closeWord?
  match cut.mode with
  | .between => some cut.tokens.reverse
  | _ => none

end Token

end OneTimeCode.Json
