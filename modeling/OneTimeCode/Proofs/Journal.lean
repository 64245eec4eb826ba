/-!
# What stands of what was added

A journal is a list of entries in the order of time.  An entry can add an item,
and it can end items that earlier entries added.  An item stands from a position
on if it was added there and no later entry has ended it.  What a store holds is
compared with what stands in the journal of its calls.
-/

namespace OneTimeCode

/-- What entries of a journal do to items. -/
structure Effect (ε ι : Type) where
  adds : ε → Option ι
  ends : ε → ι → Prop

/-- The entries of a continued journal are the old ones and the new one. -/
theorem getElem?_append_singleton_iff {ε : Type} {journal : List ε} {entry other : ε}
    {position : Nat} :
    (journal ++ [entry])[position]? = some other ↔
      journal[position]? = some other ∨ position = journal.length ∧ entry = other := by
  rw [List.getElem?_append]
  split
  · next hlt =>
    constructor
    · exact Or.inl
    · rintro (hold | ⟨rfl, -⟩)
      · exact hold
      · exact absurd hlt (Nat.lt_irrefl _)
  · next hge =>
    rw [List.getElem?_singleton, List.getElem?_eq_none (Nat.le_of_not_lt hge)]
    split <;> simp <;> omega

/-- The entries of the first part of a journal are those before its end. -/
theorem getElem?_take_eq_some_iff {ε : Type} {journal : List ε} {entry : ε}
    {count position : Nat} :
    (journal.take count)[position]? = some entry ↔
      position < count ∧ journal[position]? = some entry := by
  rw [List.getElem?_take]
  split
  · next hlt =>
    exact ⟨fun hentry => ⟨hlt, hentry⟩, fun h => h.2⟩
  · next hge =>
    constructor
    · intro hentry
      cases hentry
    · rintro ⟨hlt, -⟩
      exact absurd hlt hge

namespace Effect

variable {ε ι κ : Type} (effect : Effect ε ι)

/-- The item was added at the position and has not been ended since. -/
structure Stands (journal : List ε) (position : Nat) (item : ι) : Prop where
  added : ∃ entry, journal[position]? = some entry ∧ effect.adds entry = some item
  kept : ∀ later entry, position < later → journal[later]? = some entry →
    ¬ effect.ends entry item

/-- The item was added at the position before the moment, and no item with its key
was added between the two. -/
structure LastAdded (key : ι → κ) (journal : List ε) (moment position : Nat) (item : ι) :
    Prop where
  added : ∃ entry, journal[position]? = some entry ∧ effect.adds entry = some item
  position_lt : position < moment
  last : ∀ later entry other, position < later → later < moment →
    journal[later]? = some entry → effect.adds entry = some other → key other ≠ key item

/-- Adding an item ends every other one with its key. -/
def Replaces (key : ι → κ) : Prop :=
  ∀ entry added item, effect.adds entry = some added → key added = key item →
    effect.ends entry item

/-- Exactly the items that stand in a journal are held. -/
def Tracks (journal : List ε) (held : ι → Prop) : Prop :=
  ∀ item, held item ↔ ∃ position, effect.Stands journal position item

variable {effect}

theorem Stands.position_lt {journal : List ε} {position : Nat} {item : ι}
    (hstands : effect.Stands journal position item) : position < journal.length := by
  obtain ⟨entry, hentry, -⟩ := hstands.added
  exact (List.getElem?_eq_some_iff.1 hentry).1

/-- One more entry ends some items and adds at most one. -/
theorem stands_append_singleton_iff (journal : List ε) (entry : ε) (position : Nat)
    (item : ι) :
    effect.Stands (journal ++ [entry]) position item ↔
      effect.Stands journal position item ∧ ¬ effect.ends entry item ∨
        position = journal.length ∧ effect.adds entry = some item := by
  constructor
  · intro hstands
    obtain ⟨added, hadded, hadds⟩ := hstands.added
    rcases getElem?_append_singleton_iff.1 hadded with hold | ⟨rfl, rfl⟩
    · obtain ⟨hlt, -⟩ := List.getElem?_eq_some_iff.1 hold
      refine Or.inl ⟨⟨⟨added, hold, hadds⟩, ?_⟩, ?_⟩
      · intro later other hlater hother
        exact hstands.kept later other hlater
          (getElem?_append_singleton_iff.2 (Or.inl hother))
      · exact hstands.kept journal.length entry hlt
          (getElem?_append_singleton_iff.2 (Or.inr ⟨rfl, rfl⟩))
    · exact Or.inr ⟨rfl, hadds⟩
  · rintro (⟨hstands, hends⟩ | ⟨rfl, hadds⟩)
    · obtain ⟨added, hadded, hadds⟩ := hstands.added
      refine ⟨⟨added, getElem?_append_singleton_iff.2 (Or.inl hadded), hadds⟩, ?_⟩
      intro later other hlater hother
      rcases getElem?_append_singleton_iff.1 hother with hold | ⟨-, rfl⟩
      · exact hstands.kept later other hlater hold
      · exact hends
    · refine ⟨⟨entry, getElem?_append_singleton_iff.2 (Or.inr ⟨rfl, rfl⟩), hadds⟩, ?_⟩
      intro later other hlater hother
      obtain ⟨hbound, -⟩ := List.getElem?_eq_some_iff.1 hother
      rw [List.length_append, List.length_singleton] at hbound
      omega

/-- At a position at most one item was added. -/
theorem item_unique {journal : List ε} {position : Nat} {left right : ι}
    (hleft : ∃ entry, journal[position]? = some entry ∧ effect.adds entry = some left)
    (hright : ∃ entry, journal[position]? = some entry ∧ effect.adds entry = some right) :
    left = right := by
  obtain ⟨leftEntry, hleftEntry, hleftAdds⟩ := hleft
  obtain ⟨rightEntry, hrightEntry, hrightAdds⟩ := hright
  rw [hleftEntry, Option.some.injEq] at hrightEntry
  rw [hrightEntry, hrightAdds, Option.some.injEq] at hleftAdds
  exact hleftAdds.symm

/-- Under one key at most one item was added last. -/
theorem LastAdded.position_unique {key : ι → κ} {journal : List ε} {moment : Nat}
    {first second : Nat} {left right : ι}
    (hfirst : effect.LastAdded key journal moment first left)
    (hsecond : effect.LastAdded key journal moment second right)
    (hkey : key left = key right) : first = second := by
  obtain ⟨firstEntry, hfirstEntry, hfirstAdds⟩ := hfirst.added
  obtain ⟨secondEntry, hsecondEntry, hsecondAdds⟩ := hsecond.added
  rcases Nat.lt_trichotomy first second with hlt | heq | hgt
  · exact absurd hkey.symm (hfirst.last second secondEntry right hlt hsecond.position_lt
      hsecondEntry hsecondAdds)
  · exact heq
  · exact absurd hkey (hsecond.last first firstEntry left hgt hfirst.position_lt
      hfirstEntry hfirstAdds)

/-- What stands at a moment is what was added last under its key. -/
theorem Stands.lastAdded {key : ι → κ} {journal : List ε} {moment position : Nat} {item : ι}
    (hreplaces : effect.Replaces key)
    (hstands : effect.Stands (journal.take moment) position item) :
    effect.LastAdded key journal moment position item := by
  obtain ⟨entry, hentry, hadds⟩ := hstands.added
  obtain ⟨hlt, hentry⟩ := getElem?_take_eq_some_iff.1 hentry
  refine ⟨⟨entry, hentry, hadds⟩, hlt, ?_⟩
  intro later between other hafter hbefore hbetween hother hkey
  apply hstands.kept later between hafter
  · exact getElem?_take_eq_some_iff.2 ⟨hbefore, hbetween⟩
  · exact hreplaces between other item hother hkey

/-- What was added last and still stands at a moment was not ended on the way there. -/
theorem LastAdded.not_ends {key : ι → κ} {journal : List ε} {moment position : Nat} {item : ι}
    (hlast : effect.LastAdded key journal moment position item)
    (hreplaces : effect.Replaces key)
    (hstands : ∃ since, effect.Stands (journal.take moment) since item) {between : Nat}
    {entry : ε} (hafter : position < between) (hbefore : between < moment)
    (hentry : journal[between]? = some entry) : ¬ effect.ends entry item := by
  obtain ⟨since, hstands⟩ := hstands
  have hsince : position = since :=
    hlast.position_unique (hstands.lastAdded hreplaces) rfl
  apply hstands.kept between entry
  · rw [← hsince]
    exact hafter
  · exact getElem?_take_eq_some_iff.2 ⟨hbefore, hentry⟩

/-- What was added stands at a later moment unless an entry before it is the first one
to have ended it. -/
theorem stands_or_ended {journal : List ε} {position : Nat} {item : ι}
    (hadded : ∃ entry, journal[position]? = some entry ∧ effect.adds entry = some item)
    {moment : Nat} (hlt : position < moment) (hle : moment ≤ journal.length) :
    effect.Stands (journal.take moment) position item ∨
      ∃ ending entry, position < ending ∧ ending < moment ∧ journal[ending]? = some entry ∧
        effect.Stands (journal.take ending) position item ∧ effect.ends entry item := by
  induction moment with
  | zero => exact absurd hlt (Nat.not_lt_zero _)
  | succ moment ih =>
      obtain ⟨last, hlast⟩ : ∃ last, journal[moment]? = some last :=
        ⟨journal[moment], List.getElem?_eq_getElem hle⟩
      have htake : journal.take (moment + 1) = journal.take moment ++ [last] := by
        rw [List.take_add_one, hlast, Option.toList_some]
      rw [htake, stands_append_singleton_iff]
      rcases Nat.lt_succ_iff_lt_or_eq.1 hlt with hbefore | rfl
      · rcases ih hbefore (Nat.le_of_succ_le hle) with hstands | hended
        · by_cases hends : effect.ends last item
          · exact Or.inr ⟨moment, last, hbefore, Nat.lt_succ_self _, hlast, hstands, hends⟩
          · exact Or.inl (Or.inl ⟨hstands, hends⟩)
        · obtain ⟨ending, entry, hafter, hending, hrest⟩ := hended
          exact Or.inr ⟨ending, entry, hafter, Nat.lt_succ_of_lt hending, hrest⟩
      · obtain ⟨entry, hentry, hadds⟩ := hadded
        rw [hlast, Option.some.injEq] at hentry
        refine Or.inl (Or.inr ⟨?_, by rw [hentry, hadds]⟩)
        rw [List.length_take, Nat.min_eq_left (Nat.le_of_succ_le hle)]

/-- An effect on images of items is the effect on the items if it adds the images of what
is added and ends an image exactly when the item is ended. -/
theorem stands_image_iff {image : Effect ε κ} {project : ι → κ}
    (hadds : ∀ entry, image.adds entry = (effect.adds entry).map project)
    (hends : ∀ entry item, image.ends entry (project item) ↔ effect.ends entry item)
    (journal : List ε) (position : Nat) (projected : κ) :
    image.Stands journal position projected ↔
      ∃ item, effect.Stands journal position item ∧ project item = projected := by
  constructor
  · intro hstands
    obtain ⟨entry, hentry, hadded⟩ := hstands.added
    rw [hadds, Option.map_eq_some_iff] at hadded
    obtain ⟨item, hitem, rfl⟩ := hadded
    refine ⟨item, ⟨⟨entry, hentry, hitem⟩, ?_⟩, rfl⟩
    intro later other hlater hother
    rw [← hends]
    exact hstands.kept later other hlater hother
  · rintro ⟨item, hstands, rfl⟩
    obtain ⟨entry, hentry, hitem⟩ := hstands.added
    refine ⟨⟨entry, hentry, by rw [hadds, hitem, Option.map_some]⟩, ?_⟩
    intro later other hlater hother
    rw [hends]
    exact hstands.kept later other hlater hother

theorem tracks_nil {held : ι → Prop} (hempty : ∀ item, ¬ held item) :
    effect.Tracks [] held := by
  intro item
  refine ⟨fun hheld => absurd hheld (hempty item), ?_⟩
  rintro ⟨position, hstands⟩
  exact absurd hstands.position_lt (Nat.not_lt_zero _)

/-- What is held follows the journal if each entry changes both alike. -/
theorem Tracks.append_singleton {journal : List ε} {held heldAfter : ι → Prop}
    (htracks : effect.Tracks journal held) {entry : ε}
    (hstep : ∀ item, heldAfter item ↔
      held item ∧ ¬ effect.ends entry item ∨ effect.adds entry = some item) :
    effect.Tracks (journal ++ [entry]) heldAfter := by
  intro item
  rw [hstep, htracks item]
  simp only [stands_append_singleton_iff]
  constructor
  · rintro (⟨⟨position, hstands⟩, hends⟩ | hadds)
    · exact ⟨position, Or.inl ⟨hstands, hends⟩⟩
    · exact ⟨journal.length, Or.inr ⟨rfl, hadds⟩⟩
  · rintro ⟨position, ⟨hstands, hends⟩ | ⟨-, hadds⟩⟩
    · exact Or.inl ⟨⟨position, hstands⟩, hends⟩
    · exact Or.inr hadds

end Effect

end OneTimeCode
