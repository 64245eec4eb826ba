import OneTimeCode.Scheduler
import OneTimeCode.Settings
import Mathlib.Algebra.Group.Nat.Defs

/-!
# Loading settings

A list of variables gives texts to the settings that their names are for, and only these texts
matter: each setting has at most one, which has to spell a value, and takes its default if there
is none.  The names are compared in lower case, of which the ASCII part is enough.
-/

namespace OneTimeCode

namespace Text

/-! ## Lower case -/

/-- Characters whose lower case is in ASCII: those of ASCII and the Kelvin sign. -/
def LowersToAscii (c : Char) : Prop :=
  c.toNat < 128 ∨ c = '\u212a'

/-- What is known of the lower case of texts: it is that of ASCII where it can be, and a text with
any other character stays outside of ASCII. -/
structure IsLowerCasing (lower : String → String) : Prop where
  ascii : ∀ text, (∀ c ∈ text.toList, LowersToAscii c) → lower text = lowerCase text
  other : ∀ text, (∃ c ∈ text.toList, ¬ LowersToAscii c) →
    ∃ c ∈ (lower text).toList, 128 ≤ c.toNat

theorem toLower_of_not_ascii {c : Char} (hcode : 128 ≤ c.toNat) : c.toLower = c := by
  have hupper : ¬ (c.val ≥ 'A'.val ∧ c.val ≤ 'Z'.val) := by
    simp only [ge_iff_le, UInt32.le_iff_toNat_le, Char.toNat_val, not_and]
    have hz : 'Z'.toNat = 90 := rfl
    omega
  exact dif_neg hupper

theorem lowerLetter_of_not_lowersToAscii {c : Char} (hother : ¬ LowersToAscii c) :
    lowerLetter c = c := by
  obtain ⟨hcode, hkelvin⟩ := not_or.1 hother
  rw [lowerLetter, if_neg hkelvin, toLower_of_not_ascii (Nat.le_of_not_lt hcode)]

/-- ASCII letters that differ in case have the same lower case. -/
theorem lowerLetter_toLower (c : Char) : lowerLetter c.toLower = lowerLetter c := by
  rcases Nat.lt_or_ge c.toNat 128 with hascii | hother
  · have hall : ∀ code < 128,
        lowerLetter (Char.ofNat code).toLower = lowerLetter (Char.ofNat code) := by decide
    have hc := hall c.toNat hascii
    rwa [Char.ofNat_toNat] at hc
  · rw [toLower_of_not_ascii hother]

theorem lowerCase_eq_map_toLower (text : String) :
    lowerCase text = String.ofList ((text.toList.map Char.toLower).map lowerLetter) := by
  rw [lowerCase, List.map_map]
  congr 2
  funext c
  exact (lowerLetter_toLower c).symm

theorem isLowerCasing_lowerCase : IsLowerCasing lowerCase where
  ascii _ _ := rfl
  other := by
    rintro text ⟨c, hmem, hother⟩
    refine ⟨c, ?_, Nat.le_of_not_lt (not_or.1 hother).1⟩
    rw [lowerCase, String.toList_ofList, List.mem_map]
    exact ⟨c, hmem, lowerLetter_of_not_lowersToAscii hother⟩

/-- Any two ways to make texts lower case agree on which of them become an ASCII text. -/
theorem IsLowerCasing.eq_iff {lower : String → String} (hlower : IsLowerCasing lower)
    {target : String} (htarget : ∀ c ∈ target.toList, c.toNat < 128) (text : String) :
    lower text = target ↔ lowerCase text = target := by
  have hstays {other : String → String} (hother : IsLowerCasing other)
      (hout : ∃ c ∈ text.toList, ¬ LowersToAscii c) : other text ≠ target := by
    rintro rfl
    obtain ⟨c, hmem, hcode⟩ := hother.other text hout
    exact Nat.not_lt.2 hcode (htarget c hmem)
  by_cases hascii : ∀ c ∈ text.toList, LowersToAscii c
  · rw [hlower.ascii text hascii]
  · simp only [Classical.not_forall, exists_prop] at hascii
    exact iff_of_false (hstays hlower hascii) (hstays isLowerCasing_lowerCase hascii)

end Text

namespace Settings

/-! ## Values -/

/-- A text spells a count: in one or more digits, with a plus sign before them or none. -/
def SpellsCount (text : String) (count : Nat) : Prop :=
  ∃ digits : List Char, digits ≠ [] ∧ (text.toList = digits ∨ text.toList = '+' :: digits) ∧
    (∀ c ∈ digits, c.isDigit) ∧ Text.valueOf digits = count ∧ count < 2 ^ 64

def SpellsSwitch (text : String) (value : Bool) : Prop :=
  text = if value then "true" else "false"

/-- More digits do not make a count smaller. -/
theorem le_foldl_digits (digits : List Char) (value : Nat) :
    value ≤ digits.foldl (fun value c => 10 * value + Text.digitValue c) value := by
  induction digits generalizing value with
  | nil => exact Nat.le_refl value
  | cons c rest ih =>
      have hnext : value ≤ 10 * value + Text.digitValue c := by omega
      exact Nat.le_trans hnext (ih _)

/-- A count that has become too large stays so, and may be given up at once. -/
theorem readDigits_eq_ok_iff {value : Nat} (hvalue : value ≤ largestCount) (digits : List Char)
    (count : Nat) :
    readDigits value digits = .ok count ↔
      (∀ c ∈ digits, c.isDigit) ∧
      digits.foldl (fun value c => 10 * value + Text.digitValue c) value = count ∧
      count ≤ largestCount := by
  induction digits generalizing value with
  | nil =>
      rw [readDigits, Except.ok.injEq]
      constructor
      · rintro rfl
        exact ⟨fun c hmem => (List.not_mem_nil hmem).elim, rfl, hvalue⟩
      · exact fun h => h.2.1
  | cons c rest ih =>
      by_cases hdigit : c.isDigit
      · rw [readDigits, if_pos hdigit, List.forall_mem_cons, List.foldl_cons]
        by_cases hnext : 10 * value + Text.digitValue c ≤ largestCount
        · simp only [hnext, if_true, ih hnext, hdigit, true_and]
        · simp only [hnext, if_false, reduceCtorEq, false_iff]
          rintro ⟨-, rfl, hcount⟩
          exact hnext (Nat.le_trans (le_foldl_digits rest _) hcount)
      · rw [readDigits, if_neg hdigit, List.forall_mem_cons]
        exact iff_of_false (by simp) fun h => hdigit h.1.1

theorem readCount_eq_ok_iff (text : String) (count : Nat) :
    readCount text = .ok count ↔ SpellsCount text count := by
  have hplus : ¬ '+'.isDigit := by decide
  have hlargest : count ≤ largestCount ↔ count < 2 ^ 64 := by
    unfold largestCount
    omega
  have hread (digits : List Char) : readDigits 0 digits = .ok count ↔
      (∀ c ∈ digits, c.isDigit) ∧ Text.valueOf digits = count ∧ count < 2 ^ 64 := by
    rw [readDigits_eq_ok_iff (Nat.zero_le _), hlargest, Text.valueOf]
  unfold readCount SpellsCount
  split
  · next htext =>
    simp only [htext, reduceCtorEq, false_iff]
    rintro ⟨digits, hsome, hdigits | hdigits, -⟩
    · exact hsome hdigits.symm
    · cases hdigits
  · next htext =>
    simp only [htext, reduceCtorEq, false_iff]
    rintro ⟨digits, hsome, hdigits | hdigits, hall, -⟩
    · exact hplus (hall '+' (hdigits ▸ List.mem_singleton_self _))
    · exact hsome (List.cons.inj hdigits).2.symm
  · next digits hsome htext =>
    -- The sign is no digit, so the digits of this text can only be those after it.
    rw [hread]
    constructor
    · exact fun h => ⟨digits, hsome, Or.inr htext, h⟩
    · rintro ⟨others, -, hothers | hothers, hall, hrest⟩
      · exact (hplus (hall '+' (hothers ▸ htext ▸ List.mem_cons_self))).elim
      · obtain rfl := (List.cons.inj (htext.symm.trans hothers)).2
        exact ⟨hall, hrest⟩
  · next hsome hbare hplain =>
    rw [hread]
    constructor
    · exact fun h => ⟨text.toList, hsome, Or.inl rfl, h⟩
    · rintro ⟨digits, -, rfl | hdigits, hrest⟩
      · exact hrest
      · exact (hplain digits hdigits).elim

theorem readSwitch_eq_ok_iff (text : String) (value : Bool) :
    readSwitch text = .ok value ↔ SpellsSwitch text value := by
  unfold readSwitch SpellsSwitch
  by_cases htrue : text = "true"
  · cases value <;> simp [htrue]
  · by_cases hfalse : text = "false" <;> cases value <;> simp [htrue, hfalse]

namespace Field

/-- A text spells a value of a setting. -/
def Spells : (field : Field) → String → field.Value → Prop
  | databaseUrl, text, value => text = value
  | cleanupIntervalSecs, text, value => SpellsCount text value
  | cleanupEnabled, text, value => SpellsSwitch text value
  | codeLength, text, value => SpellsCount text value
  | runMigrations, text, value => SpellsSwitch text value

theorem read_eq_ok_iff (field : Field) (text : String) (value : field.Value) :
    field.read text = .ok value ↔ field.Spells text value := by
  cases field with
  | databaseUrl => simp [read, readText, Spells]
  | cleanupIntervalSecs => exact readCount_eq_ok_iff text value
  | cleanupEnabled => exact readSwitch_eq_ok_iff text value
  | codeLength => exact readCount_eq_ok_iff text value
  | runMigrations => exact readSwitch_eq_ok_iff text value

end Field

/-! ## Variables -/

theorem Field.ofName?_eq_some_iff (name : String) (field : Field) :
    ofName? name = some field ↔ Text.lowerCase name = field.name := by
  constructor
  · intro hfound
    have hname := List.find?_some hfound
    rw [beq_iff_eq] at hname
    exact hname.symm
  · intro hname
    unfold ofName?
    rw [hname]
    cases field <;> decide

namespace Field

/-- The texts that a list of variables gives to a setting, in order. -/
def texts (field : Field) (entries : List Variable) : List String :=
  (entries.filter fun entry => Text.lowerCase entry.1 == field.name).map Prod.snd

theorem texts_cons_of_name {field : Field} {entry : Variable}
    (hname : ofName? entry.1 = some field) (rest : List Variable) :
    field.texts (entry :: rest) = entry.2 :: field.texts rest := by
  have hname := (ofName?_eq_some_iff _ _).1 hname
  simp [texts, hname]

theorem texts_cons_of_ne {field : Field} {entry : Variable}
    (hname : ofName? entry.1 ≠ some field) (rest : List Variable) :
    field.texts (entry :: rest) = field.texts rest := by
  rw [Ne, ofName?_eq_some_iff] at hname
  simp [texts, hname]

/-- What is known of a setting after some more texts for it: as much as before if there are none,
and else its value, if it was not known before and there is one text only. -/
inductive Settles (field : Field) (start : Option field.Value) :
    List String → Option field.Value → Prop
  | kept : Settles field start [] start
  | given {text : String} {value : field.Value} (hnone : start = none)
      (hspells : field.Spells text value) : Settles field start [text] (some value)

theorem settles_nil_iff {field : Field} {start final : Option field.Value} :
    field.Settles start [] final ↔ final = start := by
  constructor
  · rintro ⟨⟩
    rfl
  · rintro rfl
    exact .kept

theorem settles_cons_iff {field : Field} {start final : Option field.Value} {text : String}
    {rest : List String} :
    field.Settles start (text :: rest) final ↔
      start = none ∧ ∃ value, field.Spells text value ∧ field.Settles (some value) rest final := by
  constructor
  · rintro ⟨⟩
    next hnone hspells => exact ⟨hnone, _, hspells, .kept⟩
  · rintro ⟨hnone, value, hspells, hrest⟩
    cases hrest with
    | kept => exact .given hnone hspells
    | given hsome => cases hsome

end Field

theorem bind_eq_ok_iff {α β : Type} (result : Except LoadFault α)
    (next : α → Except LoadFault β) (value : β) :
    result >>= next = .ok value ↔ ∃ found, result = .ok found ∧ next found = .ok value := by
  cases result <;> simp [bind, Except.bind]

@[simp]
theorem Given.set_self (given : Given) (field : Field) (value : field.Value) :
    given.set field value field = some value := by
  simp [Given.set]

theorem Given.set_of_ne (given : Given) {field other : Field} (value : field.Value)
    (hne : field ≠ other) : given.set field value other = given other := by
  simp [Given.set, hne]

theorem Given.add_of_unknown (given : Given) {entry : Variable}
    (hname : Field.ofName? entry.1 = none) : given.add entry = .ok given := by
  simp [add, hname]

theorem Given.add_eq_ok_iff (given next : Given) {entry : Variable} {named : Field}
    (hname : Field.ofName? entry.1 = some named) :
    given.add entry = .ok next ↔
      given named = none ∧
        ∃ value, named.Spells entry.2 value ∧ next = given.set named value := by
  unfold add
  simp only [hname, ← Field.read_eq_ok_iff]
  cases hgiven : given named with
  | some earlier => simp
  | none =>
      cases hread : named.read entry.2 with
      | error fault => simp
      | ok value => simp [eq_comm]

/-- A variable settles its own setting if that was not known before; the others are left to the
variables that follow. -/
theorem forall_settles_cons_iff (given final : Given) {entry : Variable} {named : Field}
    (hname : Field.ofName? entry.1 = some named) (rest : List Variable) :
    (∀ field : Field, field.Settles (given field) (field.texts (entry :: rest)) (final field)) ↔
      given named = none ∧ ∃ value, named.Spells entry.2 value ∧
        ∀ field : Field,
          field.Settles (given.set named value field) (field.texts rest) (final field) := by
  constructor
  · intro hsettles
    have hnamed := hsettles named
    rw [Field.texts_cons_of_name hname, Field.settles_cons_iff] at hnamed
    obtain ⟨hnone, value, hspells, hrest⟩ := hnamed
    refine ⟨hnone, value, hspells, fun field => ?_⟩
    by_cases hfield : named = field
    · subst hfield
      rwa [Given.set_self]
    · have hother := hsettles field
      rw [Field.texts_cons_of_ne (by simp [hname, hfield])] at hother
      rwa [Given.set_of_ne given value hfield]
  · rintro ⟨hnone, value, hspells, hrest⟩ field
    have hlater := hrest field
    by_cases hfield : named = field
    · subst hfield
      rw [Given.set_self] at hlater
      rw [Field.texts_cons_of_name hname, Field.settles_cons_iff]
      exact ⟨hnone, value, hspells, hlater⟩
    · rw [Given.set_of_ne given value hfield] at hlater
      rwa [Field.texts_cons_of_ne (by simp [hname, hfield])]

/-- A list of variables can be added exactly if its texts settle all settings, one by one. -/
theorem foldlM_add_eq_ok_iff (entries : List Variable) (given final : Given) :
    entries.foldlM Given.add given = .ok final ↔
      ∀ field : Field, field.Settles (given field) (field.texts entries) (final field) := by
  induction entries generalizing given with
  | nil =>
      simp only [Field.texts, List.filter_nil, List.map_nil, Field.settles_nil_iff,
        List.foldlM_nil]
      exact ⟨fun h field => congrFun (Except.ok.inj h).symm field,
        fun h => congrArg Except.ok (funext h).symm⟩
  | cons entry rest ih =>
      cases hname : Field.ofName? entry.1 with
      | none =>
          have htexts (field : Field) : field.texts (entry :: rest) = field.texts rest :=
            Field.texts_cons_of_ne (by simp [hname]) rest
          simp only [htexts, ← ih, List.foldlM_cons, given.add_of_unknown hname]
          rfl
      | some named =>
          calc (entry :: rest).foldlM Given.add given = .ok final
            _ ↔ ∃ next, given.add entry = .ok next ∧ rest.foldlM Given.add next = .ok final := by
              rw [List.foldlM_cons, bind_eq_ok_iff]
            _ ↔ given named = none ∧ ∃ value, named.Spells entry.2 value ∧ ∀ field : Field,
                  field.Settles (given.set named value field) (field.texts rest)
                    (final field) := by
              simp only [given.add_eq_ok_iff _ hname, ih]
              constructor
              · rintro ⟨_, ⟨hnone, value, hspells, rfl⟩, hrest⟩
                exact ⟨hnone, value, hspells, hrest⟩
              · rintro ⟨hnone, value, hspells, hrest⟩
                exact ⟨_, ⟨hnone, value, hspells, rfl⟩, hrest⟩
            _ ↔ _ := (forall_settles_cons_iff given final hname rest).symm

/-! ## Settings -/

/-- The value of a setting that is not given. -/
def Field.default? : (field : Field) → Option field.Value
  | databaseUrl => none
  | cleanupIntervalSecs => some 60
  | cleanupEnabled => some true
  | codeLength => some 10
  | runMigrations => some true

def value (settings : Settings) : (field : Field) → field.Value
  | .databaseUrl => settings.databaseUrl
  | .cleanupIntervalSecs => settings.cleanupIntervalSecs
  | .cleanupEnabled => settings.cleanupEnabled
  | .codeLength => settings.codeLength
  | .runMigrations => settings.runMigrations

def ofValues (values : (field : Field) → field.Value) : Settings where
  databaseUrl := values .databaseUrl
  cleanupIntervalSecs := values .cleanupIntervalSecs
  cleanupEnabled := values .cleanupEnabled
  codeLength := values .codeLength
  runMigrations := values .runMigrations

@[simp]
theorem value_ofValues (values : (field : Field) → field.Value) (field : Field) :
    (ofValues values).value field = values field := by
  cases field <;> rfl

theorem Field.forall_iff {p : Field → Prop} : (∀ field, p field) ↔ ∀ field ∈ all, p field :=
  ⟨fun h field _ => h field, fun h field => h field (by cases field <;> decide)⟩

theorem Given.complete_eq_ok_iff (given : Given) (settings : Settings) :
    given.complete = .ok settings ↔
      ∀ field : Field, (given field).or field.default? = some (settings.value field) := by
  rw [Field.forall_iff]
  obtain ⟨databaseUrl, cleanupIntervalSecs, cleanupEnabled, codeLength, runMigrations⟩ := settings
  unfold Given.complete
  cases hurl : given .databaseUrl with
  | none => simp [Field.all, Field.default?, hurl]
  | some url =>
      simp [Field.all, Field.default?, value, hurl, -Option.or_eq_some_iff, Option.or_some]

/-- The texts for a setting resolve it: there is one and it spells the value, or there is none and
the value is the default. -/
def Field.Resolves (field : Field) (texts : List String) (value : field.Value) : Prop :=
  (∃ text, texts = [text] ∧ field.Spells text value) ∨
    (texts = [] ∧ field.default? = some value)

theorem Field.resolves_iff (field : Field) (texts : List String) (value : field.Value) :
    field.Resolves texts value ↔
      ∃ final, field.Settles none texts final ∧ final.or field.default? = some value := by
  constructor
  · rintro (⟨text, rfl, hspells⟩ | ⟨rfl, hdefault⟩)
    · exact ⟨some value, .given rfl hspells, rfl⟩
    · exact ⟨none, .kept, hdefault⟩
  · rintro ⟨final, hsettles, hvalue⟩
    cases hsettles with
    | kept => exact Or.inr ⟨rfl, hvalue⟩
    | given _ hspells =>
        obtain rfl := Option.some.inj hvalue
        exact Or.inl ⟨_, rfl, hspells⟩

/-- The settings of a list of variables are what its texts resolve them to. -/
theorem ofVariables_eq_ok_iff (entries : List Variable) (settings : Settings) :
    ofVariables entries = .ok settings ↔
      ∀ field : Field, field.Resolves (field.texts entries) (settings.value field) := by
  calc ofVariables entries = .ok settings
    _ ↔ ∃ given, entries.foldlM Given.add Given.nothing = .ok given ∧
          given.complete = .ok settings :=
      bind_eq_ok_iff _ _ _
    _ ↔ ∃ given : Given, ∀ field : Field,
          field.Settles none (field.texts entries) (given field) ∧
            (given field).or field.default? = some (settings.value field) := by
      simp only [foldlM_add_eq_ok_iff, Given.complete_eq_ok_iff, Given.nothing, forall_and]
    _ ↔ ∀ field : Field, field.Resolves (field.texts entries) (settings.value field) := by
      simp only [Field.resolves_iff]
      constructor
      · exact fun ⟨given, hgiven⟩ field => ⟨given field, hgiven field⟩
      · exact Classical.axiomOfChoice

theorem Field.exists_resolves_iff (field : Field) (texts : List String) :
    (∃ value, field.Resolves texts value) ↔
      (field = databaseUrl → texts.length = 1) ∧ texts.length ≤ 1 ∧
        ∀ text ∈ texts, ∃ value, field.Spells text value := by
  match texts with
  | [] => cases field <;> simp [Resolves, default?]
  | [text] => simp [Resolves]
  | first :: second :: rest => simp [Resolves]

/-- What it takes to load a list of variables: the database is named once, no setting is given
twice, and every text for a setting spells a value. -/
structure IsLoadable (entries : List Variable) : Prop where
  databaseUrl : (Field.databaseUrl.texts entries).length = 1
  atMostOnce : ∀ field : Field, (field.texts entries).length ≤ 1
  spelled : ∀ field : Field, ∀ text ∈ field.texts entries, ∃ value, field.Spells text value

theorem exists_ofVariables_eq_ok_iff (entries : List Variable) :
    (∃ settings, ofVariables entries = .ok settings) ↔ IsLoadable entries := by
  calc (∃ settings, ofVariables entries = .ok settings)
    _ ↔ ∃ values : (field : Field) → field.Value,
          ∀ field : Field, field.Resolves (field.texts entries) (values field) := by
      simp only [ofVariables_eq_ok_iff]
      constructor
      · exact fun ⟨settings, hresolves⟩ => ⟨settings.value, hresolves⟩
      · exact fun ⟨values, hresolves⟩ => ⟨ofValues values, by simpa using hresolves⟩
    _ ↔ ∀ field : Field, ∃ value, field.Resolves (field.texts entries) value :=
      Classical.skolem.symm
    _ ↔ IsLoadable entries := by
      simp only [Field.exists_resolves_iff, forall_and, forall_eq]
      exact ⟨fun ⟨hurl, honce, hspelled⟩ => ⟨hurl, honce, hspelled⟩,
        fun ⟨hurl, honce, hspelled⟩ => ⟨hurl, honce, hspelled⟩⟩

/-! ## Lists that load alike -/

theorem Field.Resolves.of_perm {field : Field} {texts others : List String} {value : field.Value}
    (hresolves : field.Resolves texts value) (hperm : texts.Perm others) :
    field.Resolves others value := by
  rcases hresolves with ⟨text, rfl, hspells⟩ | ⟨rfl, hdefault⟩
  · exact Or.inl ⟨text, List.perm_singleton.1 hperm.symm, hspells⟩
  · exact Or.inr ⟨hperm.nil_eq.symm, hdefault⟩

theorem ofVariables_eq_ok_of_perm_texts {entries others : List Variable}
    (hperm : ∀ field : Field, (field.texts entries).Perm (field.texts others))
    (settings : Settings) :
    ofVariables entries = .ok settings ↔ ofVariables others = .ok settings := by
  simp only [ofVariables_eq_ok_iff]
  exact ⟨fun h field => (h field).of_perm (hperm field),
    fun h field => (h field).of_perm (hperm field).symm⟩

/-- A variable whatever the case of ASCII letters in its name. -/
def Variable.caseless (entry : Variable) : List Char × String :=
  (entry.1.toList.map Char.toLower, entry.2)

/-- A variable that a setting has a name for. -/
def Variable.isKnown (entry : Variable) : Bool :=
  (Field.ofName? entry.1).isSome

theorem Field.texts_perm (field : Field) {entries others : List Variable}
    (hperm : entries.Perm others) : (field.texts entries).Perm (field.texts others) :=
  (hperm.filter _).map _

theorem Field.texts_eq_of_caseless (field : Field) {entries others : List Variable}
    (hcaseless : entries.map Variable.caseless = others.map Variable.caseless) :
    field.texts entries = field.texts others := by
  have htexts (entries : List Variable) : field.texts entries =
      (((entries.map Variable.caseless).filter fun entry =>
        String.ofList (entry.1.map Text.lowerLetter) == field.name)).map Prod.snd := by
    simp [texts, List.filter_map, Text.lowerCase_eq_map_toLower, Variable.caseless,
      Function.comp_def]
  rw [htexts, htexts, hcaseless]

theorem Field.texts_filter_isKnown (field : Field) (entries : List Variable) :
    field.texts (entries.filter Variable.isKnown) = field.texts entries := by
  unfold texts
  rw [List.filter_filter]
  congr 1
  apply List.filter_congr
  intro entry _
  by_cases hname : Text.lowerCase entry.1 = field.name
  · simp [Variable.isKnown, (ofName?_eq_some_iff entry.1 field).2 hname]
  · simp [hname]

theorem Field.isAscii_name (field : Field) : ∀ c ∈ field.name.toList, c.toNat < 128 := by
  have hall : field.name.toList.all fun c => c.toNat < 128 := by cases field <;> rfl
  simpa using hall

end Settings

theorem Scheduler.runEvery_millis (interval : Interval) (shutdownAt : Nat) (ties : Nat → Signal)
    (sweeps : List Sweep) :
    runEvery interval.millis shutdownAt ties sweeps = .ok (run interval shutdownAt ties sweeps) := by
  simp [runEvery, Interval.ofMillis?, interval.positive]

namespace Settings

/-- Variables can be loaded exactly if they name the database once, give no setting twice and spell
a value whenever they give one.  Each setting then has the value that is spelled, or its default if
none is.  Neither the order of variables, nor the case of ASCII letters in their names, nor those
with other names matter, and any other way to make names lower case finds the same settings.  A
scheduler can run at the interval of any settings. -/
theorem variables_determine_settings (entries : List Variable) :
    ((∃ settings, ofVariables entries = .ok settings) ↔ IsLoadable entries) ∧
    (∀ settings, ofVariables entries = .ok settings ↔
      ∀ field : Field, field.Resolves (field.texts entries) (settings.value field)) ∧
    (∀ others, entries.Perm others ∨
        entries.map Variable.caseless = others.map Variable.caseless ∨
        entries.filter Variable.isKnown = others.filter Variable.isKnown →
      ∀ settings, ofVariables entries = .ok settings ↔ ofVariables others = .ok settings) ∧
    (∀ lower, Text.IsLowerCasing lower → ∀ (name : String) (field : Field),
      lower name = field.name ↔ Text.lowerCase name = field.name) ∧
    ∀ (settings : Settings) (shutdownAt : Nat) (ties : Nat → Scheduler.Signal)
      (sweeps : List Sweep),
      Scheduler.runEvery (max settings.cleanupIntervalSecs 1 * 1000) shutdownAt ties sweeps =
        .ok (Scheduler.run settings.cleanupInterval shutdownAt ties sweeps) := by
  refine ⟨exists_ofVariables_eq_ok_iff entries, ofVariables_eq_ok_iff entries, ?_, ?_, ?_⟩
  · intro others halike
    apply ofVariables_eq_ok_of_perm_texts
    intro field
    rcases halike with hperm | hcaseless | hknown
    · exact field.texts_perm hperm
    · rw [field.texts_eq_of_caseless hcaseless]
    · rw [← field.texts_filter_isKnown entries, ← field.texts_filter_isKnown others, hknown]
  · exact fun lower hlower name field => hlower.eq_iff field.isAscii_name name
  · exact fun settings => Scheduler.runEvery_millis settings.cleanupInterval

/-- Variables are loaded in any order, whatever their case and with others among them, but not if
two names are the same in lower case. -/
theorem variables_determine_settings_in_mixed_case :
    let settings : Settings := ⟨"sqlite::memory:", 0, true, 32, true⟩
    let entries : List Variable := [("DATABASE_URL", "sqlite::memory:"),
      ("Code_Length", "+0032"), ("cleanup_interval_secs", "0"), ("HOME", "/")]
    IsLoadable entries ∧ ofVariables entries.reverse = .ok settings ∧
      ofVariables [("database_url", "sqlite::memory:"), ("CODE_LENGTH", "+0032"),
        ("Cleanup_Interval_Secs", "0"), ("home", "/")] = .ok settings ∧
      ofVariables (entries.take 3) = .ok settings ∧
      Text.IsLowerCasing Text.lowerCase ∧
      ¬ IsLoadable [("DATABASE_URL", "a"), ("database_url", "b")] := by
  intro settings entries
  obtain ⟨hloads, -, halike, -⟩ := variables_determine_settings entries
  have hloaded : ofVariables entries = .ok settings := rfl
  refine ⟨hloads.1 ⟨settings, hloaded⟩, ?_, ?_, ?_, Text.isLowerCasing_lowerCase, ?_⟩
  · exact (halike _ (Or.inl (List.reverse_perm entries).symm) settings).1 hloaded
  · exact (halike _ (Or.inr (Or.inl (by decide))) settings).1 hloaded
  · exact (halike _ (Or.inr (Or.inr (by decide))) settings).1 hloaded
  · intro hloadable
    obtain ⟨other, hother⟩ := (variables_determine_settings _).1.2 hloadable
    cases hother

end Settings

end OneTimeCode
