/-!
# UTF-8

The bytes of a text are decoded one character at a time.  Bytes that are no
character are told apart by how many of them could have begun one.
-/

namespace OneTimeCode.Text

/-- What stands at the front of some bytes, and how many of them it takes up. -/
inductive Utf8Front
  | character (c : Char) (size : Nat)
  | invalid (size : Nat)
  | incomplete
deriving DecidableEq, Repr

def isContinuation (byte : UInt8) : Bool :=
  0x80 ≤ byte && byte ≤ 0xbf

/-- The second bytes that keep a character from having a shorter form, from being a
surrogate and from being too large. -/
def isSecond (first second : UInt8) : Bool :=
  isContinuation second &&
    (first != 0xe0 || 0xa0 ≤ second) && (first != 0xed || second ≤ 0x9f) &&
    (first != 0xf0 || 0x90 ≤ second) && (first != 0xf4 || second ≤ 0x8f)

/-- How many bytes a first byte asks for. -/
def utf8Width (first : UInt8) : Nat :=
  if first < 0x80 then 1
  else if 0xc2 ≤ first ∧ first ≤ 0xdf then 2
  else if 0xe0 ≤ first ∧ first ≤ 0xef then 3
  else if 0xf0 ≤ first ∧ first ≤ 0xf4 then 4
  else 0

/-- The code point whose first byte holds some high bits and whose other bytes hold
six bits each. -/
def codePoint (high : Nat) (others : List UInt8) : Nat :=
  others.foldl (fun code byte => 64 * code + byte.toNat % 64) high

def utf8Front (first : UInt8) (rest : List UInt8) : Utf8Front :=
  match utf8Width first, rest with
  | 1, _ => .character (Char.ofNat first.toNat) 1
  | 2, [] => .incomplete
  | 2, second :: _ =>
    if isContinuation second then
      .character (Char.ofNat (codePoint (first.toNat % 32) [second])) 2
    else .invalid 1
  | 3, [] => .incomplete
  | 3, [second] => if isSecond first second then .incomplete else .invalid 1
  | 3, second :: third :: _ =>
    if !isSecond first second then .invalid 1
    else if !isContinuation third then .invalid 2
    else .character (Char.ofNat (codePoint (first.toNat % 16) [second, third])) 3
  | 4, [] => .incomplete
  | 4, [second] => if isSecond first second then .incomplete else .invalid 1
  | 4, [second, third] =>
    if !isSecond first second then .invalid 1
    else if isContinuation third then .incomplete else .invalid 2
  | 4, second :: third :: fourth :: _ =>
    if !isSecond first second then .invalid 1
    else if !isContinuation third then .invalid 2
    else if !isContinuation fourth then .invalid 3
    else .character (Char.ofNat (codePoint (first.toNat % 8) [second, third, fourth])) 4
  | _, _ => .invalid 1

/-- Where bytes stop being a text, and how many of them are no character; none when
the last character is cut short. -/
structure Utf8Fault where
  validUpTo : Nat
  size : Option Nat
deriving DecidableEq, Repr

theorem length_drop_lt_length_cons (first : UInt8) (rest : List UInt8) (count : Nat) :
    (rest.drop count).length < (first :: rest).length := by
  rw [List.length_drop, List.length_cons]
  omega

/-- Decodes bytes of which `position` ones stand before. -/
def decodeFrom (position : Nat) (bytes : List UInt8) : Except Utf8Fault (List Char) :=
  match bytes with
  | [] => .ok []
  | first :: rest =>
    match utf8Front first rest with
    | .character c size => (c :: ·) <$> decodeFrom (position + size) (rest.drop (size - 1))
    | .invalid size => .error ⟨position, some size⟩
    | .incomplete => .error ⟨position, none⟩
termination_by bytes.length
decreasing_by exact length_drop_lt_length_cons ..

def decodeUtf8 (bytes : List UInt8) : Except Utf8Fault String :=
  String.ofList <$> decodeFrom 0 bytes

/-- Decodes bytes and puts a mark in place of each run that is no character. -/
def decodeMarked (bytes : List UInt8) : List Char :=
  match bytes with
  | [] => []
  | first :: rest =>
    match utf8Front first rest with
    | .character c size => c :: decodeMarked (rest.drop (size - 1))
    | .invalid size => '\ufffd' :: decodeMarked (rest.drop (size - 1))
    | .incomplete => ['\ufffd']
termination_by bytes.length
decreasing_by all_goals exact length_drop_lt_length_cons ..

end OneTimeCode.Text
