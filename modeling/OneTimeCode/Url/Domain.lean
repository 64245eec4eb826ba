import OneTimeCode.Url.Address
import OneTimeCode.Url.Compatible
import OneTimeCode.Url.Composed
import OneTimeCode.Url.Direction
import OneTimeCode.Url.Joining
import OneTimeCode.Url.Percent
import OneTimeCode.Url.Punycode
import OneTimeCode.Url.Refused

/-!
# Domains

A domain is a row of labels between full stops.  It can have characters of all
scripts, as themselves or in encoded labels.
-/

namespace OneTimeCode.Url

/-- The characters that would end a domain or be taken for something else. -/
def isReserved (c : Char) : Bool :=
  c.toNat ≤ 0x20 || c.toNat == 0x7f || "%#/:<>?@[\\]^|".toList.contains c

/-- A stroke makes an angle bracket another sign, which a domain can have. -/
def joinStrokes : List Char → List Char
  | '<' :: '\u0338' :: rest => '\u226e' :: joinStrokes rest
  | '>' :: '\u0338' :: rest => '\u226f' :: joinStrokes rest
  | c :: rest => c :: joinStrokes rest
  | [] => []

/-- What a character of a domain counts as: every full stop as the ASCII one, and
capital letters as small ones. -/
def domainCharacters? (c : Char) : Option (List Char) :=
  if isRefused c then none
  else if isIgnored c then some []
  else (compatible? c).or (if isReserved c then none else some [c.toLower])

/-- Labels beyond ASCII have at most so many characters. -/
def maxLabelLength : Nat := 1000

def maxEncodedLength : Nat := 2000

def isAscii (c : Char) : Bool :=
  c.toNat < 128

/-- A label does not begin with a mark, which would combine with the full stop. -/
def isPlainLabel (label : List Char) : Bool :=
  !label.head?.any Text.isMark && joinersFit [] label &&
    (label.all isAscii || label.length ≤ maxLabelLength)

/-- The beginning of an encoded label. -/
def encodedMark : List Char := ['x', 'n', '-', '-']

/-- An encoded label has other characters than those of ASCII, and only such as can
be in a domain and stand for themselves.  It is encoded once. -/
def isDecodedLabel (label : List Char) : Bool :=
  !label.all isAscii && isPlainLabel label && !encodedMark.isPrefixOf label &&
    isComposed label && label.all fun c => domainCharacters? c == some [c] && !isReplaced c

/-- The characters of a label, which can be encoded. -/
def shownLabel? (label : List Char) : Option (List Char) :=
  if encodedMark.isPrefixOf label then
    let text := label.drop encodedMark.length
    if text.length ≤ maxEncodedLength then (Punycode.decode? text).filter isDecodedLabel
    else none
  else if isPlainLabel label then some label
  else none

/-- Whether a text names a host, by a domain or an address.  Its characters can be
given by percent signs. -/
def isDomain (text : List Char) : Bool :=
  match Text.percentText (String.ofList text) with
  | .error _ => false
  | .ok text =>
    match (joinStrokes text.toList).mapM domainCharacters? with
    | none => false
    | some characters =>
      let labels := pieces '.' characters.flatten
      !characters.flatten.isEmpty &&
        (labels.mapM shownLabel?).any directionsAgree &&
        (!endsInNumber labels || isAddress labels)

end OneTimeCode.Url
