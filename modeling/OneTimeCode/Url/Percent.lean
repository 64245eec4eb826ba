import OneTimeCode.Text.Digits
import OneTimeCode.Text.Utf8

/-!
# Percent signs

In hosts and parameters, a percent sign and two hexadecimal digits stand for a byte.
Other percent signs stand for themselves.  Parameters are names and values with an
equals sign between them, separated by ampersands; a plus sign stands for a space.
-/

namespace OneTimeCode.Text

/-- The bytes that a text stands for. -/
def percentDecode : List Char → List UInt8
  | '%' :: high :: low :: rest =>
    match hexValue? [high, low] with
    | some byte => UInt8.ofNat byte :: percentDecode rest
    | none => '%'.toUInt8 :: percentDecode (high :: low :: rest)
  | c :: rest => String.utf8EncodeChar c ++ percentDecode rest
  | [] => []

/-- The text that the bytes make up. -/
def percentText (text : String) : Except Utf8Fault String :=
  decodeUtf8 (percentDecode text.toList)

end OneTimeCode.Text

namespace OneTimeCode.Url

/-- Bytes that are no character show as a mark. -/
def parameterText (text : List Char) : String :=
  let spaced := text.map fun c => if c = '+' then ' ' else c
  String.ofList (Text.decodeMarked (Text.percentDecode spaced))

def parameter (text : List Char) : String × String :=
  let name := text.takeWhile (· != '=')
  (parameterText name, parameterText (text.drop (name.length + 1)))

/-- The parameters in their order.  Nothing between two ampersands is no parameter. -/
def parameters (text : String) : List (String × String) :=
  ((text.splitOn "&").filter fun part => !part.isEmpty).map fun part =>
    parameter part.toList

end OneTimeCode.Url
