import OneTimeCode.Intent

/-!
# Intents and their tags

Intents have tags, by which they are stored and shown, and names in JSON, which are made from
their titles.  Tags and names are the same texts, and both readers find the intent that a text
denotes.  An intent is found again from its tag unless it was made with the tag of a well-known
one.
-/

namespace OneTimeCode

namespace Intent

/-- A tag denotes the well-known intent that has it, or an intent of its own if none does. -/
inductive Denotes (text : String) : Intent → Prop
  | known {known : Intent} (hknown : known ∈ wellKnown) (htag : known.tag = text) :
      Denotes text known
  | other (hnone : ∀ known ∈ wellKnown, known.tag ≠ text) : Denotes text (custom text)

/-- The intent was made with the tag of a well-known one. -/
def BorrowsTag (intent : Intent) : Prop :=
  ∃ known ∈ wellKnown, intent = custom known.tag

instance (intent : Intent) : Decidable intent.BorrowsTag :=
  inferInstanceAs (Decidable (∃ known ∈ wellKnown, _))

theorem mem_wellKnown_or_eq_custom (intent : Intent) :
    intent ∈ wellKnown ∨ ∃ tag, intent = custom tag := by
  cases intent with
  | custom tag => exact Or.inr ⟨tag, rfl⟩
  | _ => exact Or.inl (by decide)

theorem custom_not_mem_wellKnown (tag : String) : custom tag ∉ wellKnown := by
  simp [wellKnown]

/-! ## What a text denotes -/

/-- The well-known intents differ in their tags. -/
theorem tag_injOn_wellKnown {first second : Intent} (hfirst : first ∈ wellKnown)
    (hsecond : second ∈ wellKnown) (htag : first.tag = second.tag) : first = second := by
  have hdiffer : ∀ first ∈ wellKnown, ∀ second ∈ wellKnown,
      first.tag = second.tag → first = second := by decide
  exact hdiffer first hfirst second hsecond htag

theorem Denotes.unique {text : String} {first second : Intent} (hfirst : Denotes text first)
    (hsecond : Denotes text second) : first = second := by
  cases hfirst with
  | known hknown htag =>
      cases hsecond with
      | known hother hsame => exact tag_injOn_wellKnown hknown hother (htag.trans hsame.symm)
      | other hnone => exact absurd htag (hnone _ hknown)
  | other hnone =>
      cases hsecond with
      | known hknown htag => exact absurd htag (hnone _ hknown)
      | other => rfl

theorem denotes_tag_iff (intent : Intent) : Denotes intent.tag intent ↔ ¬ intent.BorrowsTag := by
  constructor
  · rintro hdenotes ⟨known, hknown, rfl⟩
    have hsame := hdenotes.unique (.known hknown rfl)
    exact custom_not_mem_wellKnown known.tag (hsame ▸ hknown)
  · intro hown
    rcases intent.mem_wellKnown_or_eq_custom with hknown | ⟨tag, rfl⟩
    · exact .known hknown rfl
    · refine .other fun known hknown htag => hown ⟨known, hknown, ?_⟩
      rw [htag]
      rfl

theorem denotes_ofTag (text : String) : Denotes text (ofTag text) := by
  rcases (ofTag text).mem_wellKnown_or_eq_custom with hknown | ⟨tag, hcustom⟩
  · exact .known hknown (tag_ofTag text)
  · have htag : tag = text := by rw [← tag_ofTag text, hcustom, Intent.tag]
    rw [hcustom, htag]
    refine .other fun known hknown hsame => ?_
    have hreads : ∀ known ∈ wellKnown, ofTag known.tag = known := by decide
    rw [← hsame, hreads known hknown] at hcustom
    exact custom_not_mem_wellKnown tag (hcustom ▸ hknown)

theorem ofTag_eq_iff (text : String) (intent : Intent) :
    ofTag text = intent ↔ Denotes text intent := by
  constructor
  · rintro rfl
    exact denotes_ofTag text
  · exact (denotes_ofTag text).unique

/-! ## Names in JSON -/

theorem jsonName_eq_tag (intent : Intent) : intent.jsonName = intent.tag := by
  cases intent with
  | custom tag => rfl
  | _ => decide

theorem toJson_eq_tag (intent : Intent) : intent.toJson = .string intent.tag :=
  congrArg Json.string intent.jsonName_eq_tag

theorem ofJsonName?_eq_some_iff (name : String) (known : Intent) :
    ofJsonName? name = some known ↔ known ∈ wellKnown ∧ known.tag = name := by
  constructor
  · intro hfound
    have hname := List.find?_some hfound
    rw [beq_iff_eq, jsonName_eq_tag] at hname
    exact ⟨List.mem_of_find?_eq_some hfound, hname⟩
  · rintro ⟨hknown, rfl⟩
    revert known
    decide

theorem ofJsonName?_eq_none_iff (name : String) :
    ofJsonName? name = none ↔ ∀ known ∈ wellKnown, known.tag ≠ name := by
  simp only [Option.eq_none_iff_forall_ne_some, Ne, ofJsonName?_eq_some_iff, not_and]

/-- Both readers find the same intent in a text. -/
theorem ofJson_string (text : String) : ofJson (.string text) = .ok (ofTag text) := by
  have hread : ∀ intent, Denotes text intent → Except.ok intent = ofJson (.string text) := by
    intro intent hdenotes
    cases hdenotes with
    | known hknown htag =>
        have hfound := (ofJsonName?_eq_some_iff text intent).2 ⟨hknown, htag⟩
        simp [ofJson, knownOfJson?, hfound]
    | other hnone =>
        have hmissed := (ofJsonName?_eq_none_iff text).2 hnone
        simp [ofJson, knownOfJson?, hmissed]
  exact (hread _ (denotes_ofTag text)).symm

theorem ofJson_object {known : Intent} (hknown : known ∈ wellKnown) :
    ofJson (.object [(known.tag, .null)]) = .ok (ofTag known.tag) := by
  have hfound := (ofJsonName?_eq_some_iff known.tag known).2 ⟨hknown, rfl⟩
  rw [(ofTag_eq_iff _ _).2 (.known hknown rfl)]
  simp [ofJson, knownOfJson?, hfound]

theorem exists_ofJson_eq_ok_iff (value : Json) :
    (∃ intent, ofJson value = .ok intent) ↔
      (∃ text, value = .string text) ∨
        ∃ known ∈ wellKnown, value = .object [(known.tag, .null)] := by
  constructor
  · rintro ⟨intent, hread⟩
    cases hknown : knownOfJson? value with
    | none =>
        simp only [ofJson, hknown] at hread
        split at hread
        · next text => exact Or.inl ⟨text, rfl⟩
        · cases hread
    | some known =>
        unfold knownOfJson? at hknown
        split at hknown
        · next text => exact Or.inl ⟨text, rfl⟩
        · next name =>
          obtain ⟨hmem, rfl⟩ := (ofJsonName?_eq_some_iff name known).1 hknown
          exact Or.inr ⟨known, hmem, rfl⟩
        · cases hknown
  · rintro (⟨text, rfl⟩ | ⟨known, hknown, rfl⟩)
    · exact ⟨_, ofJson_string text⟩
    · exact ⟨_, ofJson_object hknown⟩

/-! ## What a tag tells -/

theorem not_borrowsTag_ofTag (text : String) : ¬ (ofTag text).BorrowsTag := by
  rw [← denotes_tag_iff, tag_ofTag]
  exact denotes_ofTag text

theorem ofTag_tag_eq_self_iff (intent : Intent) :
    ofTag intent.tag = intent ↔ ¬ intent.BorrowsTag := by
  rw [ofTag_eq_iff, denotes_tag_iff]

theorem ofJson_toJson_eq_ok_iff (intent : Intent) :
    ofJson intent.toJson = .ok intent ↔ ¬ intent.BorrowsTag := by
  rw [toJson_eq_tag, ofJson_string, Except.ok.injEq, ofTag_tag_eq_self_iff]

/-- Of the intents with one tag there is one that borrows it, if it is that of a well-known one,
and one that does not. -/
theorem eq_iff_tag_eq (first second : Intent) :
    first = second ↔ first.tag = second.tag ∧ (first.BorrowsTag ↔ second.BorrowsTag) := by
  constructor
  · rintro rfl
    exact ⟨rfl, Iff.rfl⟩
  · rintro ⟨htag, hborrows⟩
    by_cases hfirst : first.BorrowsTag
    · obtain ⟨other, -, rfl⟩ := hborrows.1 hfirst
      obtain ⟨known, -, rfl⟩ := hfirst
      exact congrArg custom htag
    · have hsecond : ¬ second.BorrowsTag := fun h => hfirst (hborrows.2 h)
      rw [← denotes_tag_iff] at hfirst hsecond
      rw [← htag] at hsecond
      exact hfirst.unique hsecond

end Intent

/-- A value is read as an intent exactly if it is a text, or an object with the tag of a well-known
intent as its only name and nothing under it.  Reading a text from JSON is reading it as a tag,
and the intent is shown and written as the same text again; an object is read like its name. -/
theorem intent_readers_agree :
    (∀ value : Json, (∃ intent, Intent.ofJson value = .ok intent) ↔
      (∃ text, value = .string text) ∨
        ∃ known ∈ Intent.wellKnown, value = .object [(known.tag, .null)]) ∧
    (∀ text, Intent.ofJson (.string text) = .ok (Intent.ofTag text) ∧
      (Intent.ofTag text).tag = text ∧ toString (Intent.ofTag text) = text ∧
      (Intent.ofTag text).toJson = .string text) ∧
    ∀ known ∈ Intent.wellKnown,
      Intent.ofJson (.object [(known.tag, .null)]) = .ok (Intent.ofTag known.tag) ∧
      (Intent.ofTag known.tag).toJson = .string known.tag := by
  have hwritten (text : String) : (Intent.ofTag text).toJson = .string text := by
    rw [Intent.toJson_eq_tag, Intent.tag_ofTag]
  refine ⟨Intent.exists_ofJson_eq_ok_iff, ?_, ?_⟩
  · intro text
    exact ⟨Intent.ofJson_string text, Intent.tag_ofTag text, Intent.tag_ofTag text, hwritten text⟩
  · intro known hknown
    exact ⟨Intent.ofJson_object hknown, hwritten known.tag⟩

/-- The name of an object has to be the tag to the letter, and a title is none. -/
theorem intent_readers_agree_on_emailChange :
    Intent.emailChange ∈ Intent.wellKnown ∧
      Intent.ofJson (.object [("EMAIL_CHANGE", .null)]) = .ok (Intent.ofTag "EMAIL_CHANGE") ∧
      (Intent.ofTag "EMAIL_CHANGE").toJson = .string "EMAIL_CHANGE" ∧
      ¬ ∃ intent, Intent.ofJson (.object [("EmailChange", .null)]) = .ok intent := by
  obtain ⟨hread, -, hobject⟩ := intent_readers_agree
  have hknown : Intent.emailChange ∈ Intent.wellKnown := by decide
  refine ⟨hknown, (hobject _ hknown).1, (hobject _ hknown).2, ?_⟩
  rw [hread]
  rintro (⟨text, hvalue⟩ | ⟨known, hmem, hvalue⟩)
  · cases hvalue
  · have hother : ∀ known ∈ Intent.wellKnown, "EmailChange" ≠ known.tag := by decide
    exact hother known hmem (by simpa using hvalue)

/-- Two intents are equal exactly if they have the same tag and both or neither of them have
borrowed it.  An intent is found again from its tag, and from what it is written as, exactly if it
has not borrowed the tag.  No reader gives an intent that has. -/
theorem intent_determined_by_tag_iff (first second : Intent) :
    (first = second ↔ first.tag = second.tag ∧ (first.BorrowsTag ↔ second.BorrowsTag)) ∧
    (Intent.ofTag first.tag = first ↔ ¬ first.BorrowsTag) ∧
    (Intent.ofJson first.toJson = .ok first ↔ ¬ first.BorrowsTag) ∧
    ∀ text, ¬ (Intent.ofTag text).BorrowsTag :=
  ⟨first.eq_iff_tag_eq second, first.ofTag_tag_eq_self_iff, first.ofJson_toJson_eq_ok_iff,
    Intent.not_borrowsTag_ofTag⟩

/-- An intent made with the tag of registration is not registration, and turns into it when it is
read back. -/
theorem registration_tag_borrowed :
    ¬ (Intent.custom "REGISTRATION" = .registration ↔
        (Intent.custom "REGISTRATION").tag = Intent.registration.tag) ∧
      Intent.ofTag (Intent.custom "REGISTRATION").tag ≠ .custom "REGISTRATION" ∧
      Intent.ofJson (Intent.custom "REGISTRATION").toJson ≠ .ok (.custom "REGISTRATION") := by
  have hborrows : (Intent.custom "REGISTRATION").BorrowsTag := by decide
  refine ⟨by decide, ?_, ?_⟩
  · rw [Ne, Intent.ofTag_tag_eq_self_iff]
    exact not_not_intro hborrows
  · rw [Ne, Intent.ofJson_toJson_eq_ok_iff]
    exact not_not_intro hborrows

end OneTimeCode
