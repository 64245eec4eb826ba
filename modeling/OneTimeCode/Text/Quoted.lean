import OneTimeCode.Text.Unprintable

/-!
# Quoted text

Log fields and error messages show a text between double quotes, with an escape
for every character that would end the quotation or could not be seen in it.
-/

namespace OneTimeCode.Text

/-- Five characters have an escape of their own besides the backslash; another
one without a picture is shown by its code point in hexadecimal. -/
def escape (c : Char) : List Char :=
  match c with
  | '"' => ['\\', '"']
  | '\\' => ['\\', '\\']
  | '\x00' => ['\\', '0']
  | '\t' => ['\\', 't']
  | '\r' => ['\\', 'r']
  | '\n' => ['\\', 'n']
  | c =>
    if isUnprintable c then
      ['\\', 'u', '\x7b'] ++ Nat.toDigits 16 c.toNat ++ ['\x7d']
    else
      [c]

/-- The text between double quotes, character by character. -/
def quoted (text : String) : String :=
  String.ofList ('"' :: text.toList.flatMap escape ++ ['"'])

/-- An optional text, as log fields show it. -/
def quotedOption : Option String → String
  | none => "None"
  | some text => "Some(" ++ quoted text ++ ")"

end OneTimeCode.Text
