import OneTimeCode.Json.Printer
import OneTimeCode.Json.Reader

/-!
# Flat JSON values as texts

An array or an object whose values are texts and nulls is read back from the text that it
is printed as.  The text is first cut into the tokens that it was put together from, and
these then build the value again, an object with its members in the order of their names.
-/

namespace OneTimeCode.Json

/-- A text or null. -/
inductive IsAtom : Json → Prop
  | null : IsAtom .null
  | string (text : String) : IsAtom (.string text)

namespace Token

/-! ## Escapes -/

theorem hexValue?_digits : ∀ code < 32,
    Text.hexValue? ['0', '0', Nat.digitChar (code / 16), Nat.digitChar (code % 16)] =
      some code := by
  decide

/-- Resolving what a character was escaped to gives the character. -/
theorem unescape?_escape_append (c : Char) (rest : List Char) :
    unescape? (escape c ++ rest) = (c :: ·) <$> unescape? rest := by
  unfold escape
  split
  case h_8 =>
    next hquote hbackslash _ _ _ _ _ =>
    split
    case isTrue hcontrol =>
      have hhex := hexValue?_digits c.toNat hcontrol
      have hlow : isLowHalf c.toNat = false := by
        simp only [isLowHalf, Bool.and_eq_false_iff, decide_eq_false_iff_not]
        omega
      have hhigh : isHighHalf c.toNat = false := by
        simp only [isHighHalf, Bool.and_eq_false_iff, decide_eq_false_iff_not]
        omega
      simp only [List.cons_append, List.nil_append]
      rw [unescape?]
      simp [hhex, hlow, hhigh]
    case isFalse hplain =>
      rw [List.cons_append, List.nil_append, unescape?.eq_def]
      split
      case h_4 =>
        next hsame =>
        cases hsame
        exact if_neg (not_or.2 ⟨hbackslash, hplain⟩)
      all_goals simp_all
  all_goals simp [unescape?, shortEscape?]

theorem unescape?_escape (chars : List Char) :
    unescape? (chars.flatMap escape) = some chars := by
  induction chars with
  | nil => rfl
  | cons c chars ih => rw [List.flatMap_cons, unescape?_escape_append, ih]; rfl

/-! ## Cutting a text -/

/-- Between two tokens, the characters are cut into the tokens. -/
def Cuts (chars : List Char) (tokens : List Token) : Prop :=
  ∀ done, chars.foldlM Cut.step? ⟨done, .between⟩ = some ⟨tokens.reverse ++ done, .between⟩

theorem Cuts.append {left right : List Char} {first second : List Token}
    (hleft : Cuts left first) (hright : Cuts right second) :
    Cuts (left ++ right) (first ++ second) := by
  intro done
  rw [List.foldlM_append, hleft done]
  simpa using hright (first.reverse ++ done)

theorem cuts_mark {c : Char} {token : Token} (hmark : mark? c = some token) :
    Cuts [c] [token] := by
  intro done
  unfold mark? at hmark
  split at hmark <;> cases hmark <;> rfl

theorem step?_quoted {c : Char} (hquote : c ≠ '"') (hbackslash : c ≠ '\\')
    (done : List Token) (before : List Char) :
    Cut.step? ⟨done, .quoted before⟩ c = some ⟨done, .quoted (c :: before)⟩ := by
  simp [Cut.step?, hquote, hbackslash]

/-- What a character is escaped to is kept until the string ends. -/
theorem foldlM_step?_escape (done : List Token) (before : List Char) (c : Char) :
    (escape c).foldlM Cut.step? ⟨done, .quoted before⟩ =
      some ⟨done, .quoted ((escape c).reverse ++ before)⟩ := by
  unfold escape
  split
  case h_8 =>
    next hquote hbackslash _ _ _ _ _ =>
    split
    case isTrue hcontrol =>
      have hdigits : ∀ digit < 16, Nat.digitChar digit ≠ '"' ∧ Nat.digitChar digit ≠ '\\' := by
        decide
      have hhigh := hdigits (c.toNat / 16) (by omega)
      have hlow := hdigits (c.toNat % 16) (by omega)
      have hescaped (rest : List Char) : Cut.step? ⟨done, .escaped rest⟩ 'u' =
          some ⟨done, .quoted ('u' :: rest)⟩ := rfl
      have hbackslash : Cut.step? ⟨done, .quoted before⟩ '\\' =
          some ⟨done, .escaped ('\\' :: before)⟩ := rfl
      simp [hbackslash, hescaped, step?_quoted, hhigh, hlow]
    case isFalse hplain =>
      simp [step?_quoted hquote hbackslash]
  all_goals simp [Cut.step?]

theorem foldlM_step?_escapes (done : List Token) (before chars : List Char) :
    (chars.flatMap escape).foldlM Cut.step? ⟨done, .quoted before⟩ =
      some ⟨done, .quoted ((chars.flatMap escape).reverse ++ before)⟩ := by
  induction chars generalizing before with
  | nil => rfl
  | cons c chars ih =>
      rw [List.flatMap_cons, List.foldlM_append, foldlM_step?_escape]
      simp [ih]

theorem cuts_printString (text : String) :
    Cuts (printString text).toList [.value (.string text)] := by
  intro done
  rw [printString, String.toList_ofList, List.cons_append, List.foldlM_cons]
  have hopen : Cut.step? ⟨done, .between⟩ '"' = some ⟨done, .quoted []⟩ := rfl
  rw [hopen, Option.bind_eq_bind, Option.bind_some, List.foldlM_append, foldlM_step?_escapes]
  simp [Cut.step?, unescape?_escape]

/-- A word goes on until a mark comes, a string ends by itself. -/
theorem cuts_atom_append_mark {value : Json} (hatom : value.IsAtom) {c : Char} {token : Token}
    (hmark : mark? c = some token) :
    Cuts (value.print.toList ++ [c]) [.value value, token] := by
  cases hatom with
  | null =>
      intro done
      unfold mark? at hmark
      split at hmark <;> cases hmark <;> rfl
  | string text =>
      rw [print]
      exact (cuts_printString text).append (cuts_mark hmark)

/-- Parts with commas between them are cut one after the other. -/
theorem cuts_intercalate {α : Type} (chars : α → List Char) (tokens : α → List Token)
    {parts : List α} (hpos : parts ≠ [])
    (hparts : ∀ part ∈ parts, ∀ c token, mark? c = some token →
      Cuts (chars part ++ [c]) (tokens part ++ [token]))
    {c : Char} {token : Token} (hmark : mark? c = some token) :
    Cuts ([','].intercalate (parts.map chars) ++ [c])
      ([Token.comma].intercalate (parts.map tokens) ++ [token]) := by
  induction parts with
  | nil => exact absurd rfl hpos
  | cons part rest ih =>
      have hpart := hparts part List.mem_cons_self
      cases rest with
      | nil => simpa [List.intercalate] using hpart c token hmark
      | cons next rest =>
          have hrest := ih (by simp) fun part hmem => hparts part (List.mem_cons_of_mem _ hmem)
          simpa [List.intercalate] using (hpart ',' .comma rfl).append hrest

/-- The tokens of a member of an object. -/
def ofMember (member : String × Json) : List Token :=
  [.value (.string member.1), .colon, .value member.2]

theorem printItems_eq_map (items : List Json) : printItems items = items.map print := by
  induction items with
  | nil => rfl
  | cons item rest ih => rw [printItems, ih, List.map_cons]

theorem printMembers_eq_map (members : List (String × Json)) :
    printMembers members =
      members.map fun member => printString member.1 ++ ":" ++ member.2.print := by
  induction members with
  | nil => rfl
  | cons member rest ih => rw [printMembers, ih, List.map_cons]

theorem cuts_array {items : List Json} (hpos : items ≠ [])
    (hatoms : ∀ item ∈ items, item.IsAtom) :
    Cuts (print (.array items)).toList
      (.openArray :: ([Token.comma].intercalate (items.map fun item => [.value item]) ++
        [.closeArray])) := by
  have hopen : Cuts ['['] [.openArray] := cuts_mark rfl
  have hinside := cuts_intercalate (fun item : Json => item.print.toList)
    (fun item => [.value item]) hpos
    (fun item hitem c token hmark => cuts_atom_append_mark (hatoms item hitem) hmark)
    (show mark? ']' = some .closeArray from rfl)
  rw [print, printItems_eq_map]
  simpa [String.toList_append, String.toList_intercalate, Function.comp_def] using
    hopen.append hinside

theorem cuts_member_append_mark {member : String × Json} (hatom : member.2.IsAtom) {c : Char}
    {token : Token} (hmark : mark? c = some token) :
    Cuts ((printString member.1 ++ ":" ++ member.2.print).toList ++ [c])
      (ofMember member ++ [token]) := by
  have hcolon : Cuts [':'] [.colon] := cuts_mark rfl
  have hvalue := cuts_atom_append_mark hatom hmark
  simpa [ofMember, String.toList_append] using
    (cuts_printString member.1).append (hcolon.append hvalue)

theorem cuts_object {members : List (String × Json)} (hpos : members ≠ [])
    (hatoms : ∀ member ∈ members, member.2.IsAtom) :
    Cuts (print (.object members)).toList
      (.openObject :: ([Token.comma].intercalate (members.map ofMember) ++
        [.closeObject])) := by
  have hopen : Cuts ['\x7b'] [.openObject] := cuts_mark rfl
  have hinside := cuts_intercalate
    (fun member : String × Json => (printString member.1 ++ ":" ++ member.2.print).toList)
    ofMember hpos
    (fun member hmember c token hmark => cuts_member_append_mark (hatoms member hmember) hmark)
    (show mark? '\x7d' = some .closeObject from rfl)
  rw [print, printMembers_eq_map]
  simpa [String.toList_append, String.toList_intercalate, Function.comp_def] using
    hopen.append hinside

/-- A text between two tokens is read up to its end. -/
theorem ofString?_of_cuts {text : String} {tokens : List Token}
    (hcuts : Cuts text.toList tokens) : ofString? text = some tokens := by
  rw [ofString?, Cut.start, hcuts []]
  simp [Cut.closeWord?]

end Token

/-! ## Building a value -/

namespace Progress

variable (outer : List Frame) (latest : Json)

theorem step?_value_of_array {expected : Expected}
    (hexpected : expected = .value ∨ expected = .valueOrClose) (before : List Json)
    (item : Json) :
    step? ⟨.array before :: outer, expected, latest⟩ (.value item) =
      some ⟨.array (item :: before) :: outer, .commaOrClose, item⟩ := by
  rcases hexpected with rfl | rfl <;> rfl

theorem foldlM_step?_ofMember {expected : Expected}
    (hexpected : expected = .name ∨ expected = .nameOrClose)
    (before : List (String × Json)) (name : String) (member : String × Json) :
    (Token.ofMember member).foldlM step? ⟨.object before name :: outer, expected, latest⟩ =
      some ⟨.object (addMember member.1 member.2 before) member.1 :: outer, .commaOrClose,
        member.2⟩ := by
  rcases hexpected with rfl | rfl <;> rfl

/-- The values of an array are put together in their order. -/
theorem foldlM_step?_items {items : List Json} (hpos : items ≠ []) (before : List Json)
    {expected : Expected} (hexpected : expected = .value ∨ expected = .valueOrClose) :
    ([Token.comma].intercalate (items.map fun item => [Token.value item]) ++
        [Token.closeArray]).foldlM step? ⟨.array before :: outer, expected, latest⟩ =
      some (completed outer (.array (before.reverse ++ items))) := by
  induction items generalizing before expected latest with
  | nil => exact absurd rfl hpos
  | cons item rest ih =>
      have hitem := step?_value_of_array outer latest hexpected before item
      cases rest with
      | nil =>
          have hclose : step? ⟨.array (item :: before) :: outer, .commaOrClose, item⟩
              .closeArray = some (completed outer (.array (item :: before).reverse)) := rfl
          simp [List.intercalate, hitem, hclose]
      | cons next rest =>
          have hcomma : step? ⟨.array (item :: before) :: outer, .commaOrClose, item⟩ .comma =
              some ⟨.array (item :: before) :: outer, .value, item⟩ := rfl
          have hrest := ih item (by simp) (item :: before) (Or.inl rfl)
          simpa [List.intercalate, hitem, hcomma] using hrest

/-- The members of an object are put in the order of their names. -/
theorem foldlM_step?_members {members : List (String × Json)} (hpos : members ≠ [])
    (before : List (String × Json)) (name : String) {expected : Expected}
    (hexpected : expected = .name ∨ expected = .nameOrClose) :
    ([Token.comma].intercalate (members.map Token.ofMember) ++
        [Token.closeObject]).foldlM step? ⟨.object before name :: outer, expected, latest⟩ =
      some (completed outer (.object
        (members.foldl (fun kept member => addMember member.1 member.2 kept) before))) := by
  induction members generalizing before name expected latest with
  | nil => exact absurd rfl hpos
  | cons member rest ih =>
      have hmember := foldlM_step?_ofMember outer latest hexpected before name member
      cases rest with
      | nil =>
          have hclose : step? ⟨.object (addMember member.1 member.2 before) member.1 :: outer,
              .commaOrClose, member.2⟩ .closeObject =
              some (completed outer (.object (addMember member.1 member.2 before))) := rfl
          simp [List.intercalate, List.foldlM_append, hmember, hclose]
      | cons next rest =>
          have hcomma : step? ⟨.object (addMember member.1 member.2 before) member.1 :: outer,
              .commaOrClose, member.2⟩ .comma =
              some ⟨.object (addMember member.1 member.2 before) member.1 :: outer, .name,
                member.2⟩ := rfl
          have hrest := ih member.2 (by simp) (addMember member.1 member.2 before) member.1
            (Or.inl rfl)
          simpa [List.intercalate, List.foldlM_append, hmember, hcomma] using hrest

end Progress

/-! ## Whole texts -/

theorem ofString?_print_array {items : List Json} (hpos : items ≠ [])
    (hatoms : ∀ item ∈ items, item.IsAtom) :
    ofString? (print (.array items)) = some (.array items) := by
  have hopen : Progress.step? .start .openArray = some ⟨[.array []], .valueOrClose, .null⟩ := rfl
  rw [ofString?, Token.ofString?_of_cuts (Token.cuts_array hpos hatoms)]
  simp only [Option.bind_eq_bind, Option.bind_some, List.foldlM_cons, hopen,
    Progress.foldlM_step?_items [] .null hpos [] (Or.inr rfl)]
  rfl

/-- An object is read with its members in the order of their names. -/
theorem ofString?_print_object {members : List (String × Json)} (hpos : members ≠ [])
    (hatoms : ∀ member ∈ members, member.2.IsAtom) :
    ofString? (print (.object members)) =
      some (.object
        (members.foldl (fun kept member => addMember member.1 member.2 kept) [])) := by
  have hopen : Progress.step? .start .openObject =
      some ⟨[.object [] ""], .nameOrClose, .null⟩ := rfl
  rw [ofString?, Token.ofString?_of_cuts (Token.cuts_object hpos hatoms)]
  simp only [Option.bind_eq_bind, Option.bind_some, List.foldlM_cons, hopen,
    Progress.foldlM_step?_members [] .null hpos [] "" (Or.inr rfl)]
  rfl

/-- A member with a new name is put among the others. -/
theorem addMember_perm {name : String} (value : Json) {members : List (String × Json)}
    (hnew : ∀ member ∈ members, member.1 ≠ name) :
    (addMember name value members).Perm ((name, value) :: members) := by
  induction members with
  | nil => exact List.Perm.refl _
  | cons member rest ih =>
      have hne : name ≠ member.1 := (hnew member List.mem_cons_self).symm
      rw [addMember]
      split
      · exact List.Perm.refl _
      · have hrest := ih fun other hother => hnew other (List.mem_cons_of_mem _ hother)
        exact (hrest.cons member).trans (List.Perm.swap _ _ _)

theorem foldl_addMember_perm {members before : List (String × Json)}
    (hdistinct : ((before ++ members).map Prod.fst).Nodup) :
    (members.foldl (fun kept member => addMember member.1 member.2 kept) before).Perm
      (before ++ members) := by
  induction members generalizing before with
  | nil => simp
  | cons member rest ih =>
      have hnew : ∀ other ∈ before, other.1 ≠ member.1 := by
        rw [List.map_append, List.nodup_append] at hdistinct
        intro other hother
        exact hdistinct.2.2 _ (List.mem_map_of_mem hother) _ (by simp)
      have hinserted : (addMember member.1 member.2 before ++ rest).Perm
          (before ++ member :: rest) :=
        ((addMember_perm member.2 hnew).append_right rest).trans List.perm_middle.symm
      exact (ih ((hinserted.map Prod.fst).nodup_iff.2 hdistinct)).trans hinserted

end OneTimeCode.Json
