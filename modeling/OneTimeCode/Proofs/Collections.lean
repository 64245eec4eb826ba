import OneTimeCode.Store.Keyed

/-!
# What changes in a collection

Every change of a store's contents is an addition under a free key or the
removal of some items.  These facts say which items are there afterwards and
how the number of items has changed.
-/

namespace OneTimeCode.Keyed

variable {α κ : Type} {key : α → κ}

theorem eq_of_items_eq {left right : Keyed key} (h : left.items = right.items) :
    left = right := by
  cases left
  cases right
  simp_all

/-- The items that are kept and those that are not make up the collection. -/
theorem size_keep_add (collection : Keyed key) (test : α → Bool) :
    (collection.keep test).size + (collection.items.filter fun item => !test item).length =
      collection.size := by
  simp only [size, items_keep]
  induction collection.items with
  | nil => rfl
  | cons item rest ih =>
      cases htest : test item <;> simp [htest] <;> omega

/-- Two tests can be made in either order. -/
theorem keep_comm (collection : Keyed key) (first second : α → Bool) :
    (collection.keep first).keep second = (collection.keep second).keep first := by
  apply eq_of_items_eq
  simp only [items_keep, List.filter_filter]
  exact List.filter_congr fun item _ => Bool.and_comm _ _

/-- A test is of no account before a stricter one. -/
theorem keep_keep_of_imp (collection : Keyed key) {first second : α → Bool}
    (himp : ∀ item, second item = true → first item = true) :
    (collection.keep first).keep second = collection.keep second := by
  apply eq_of_items_eq
  rw [items_keep, items_keep, items_keep, List.filter_filter]
  apply List.filter_congr
  intro item _
  cases hsecond : second item with
  | false => rfl
  | true => exact himp item hsecond

/-- A part that has all the items which fail a test loses as many of them as the whole. -/
theorem size_sub_size_keep_of_imp (collection : Keyed key) {first second : α → Bool}
    (himp : ∀ item, second item = false → first item = true) :
    (collection.keep first).size - ((collection.keep first).keep second).size =
      collection.size - (collection.keep second).size := by
  have hfailing : ((collection.keep first).keep fun item => !second item) =
      collection.keep fun item => !second item := by
    apply keep_keep_of_imp
    intro item hfails
    exact himp item (by simpa using hfails)
  have hpart := (collection.keep first).size_keep_add second
  have hwhole := collection.size_keep_add second
  rw [← items_keep, hfailing, items_keep] at hpart
  omega

theorem nodup_items (collection : Keyed key) : collection.items.Nodup := by
  apply List.Pairwise.of_map key _ collection.distinct
  intro left right hkeys hitems
  exact hkeys (congrArg key hitems)

/-- Items that are all in a part of the collection are the same ones there. -/
theorem filter_eq_of_sublist {part items : List α} (hsublist : part.Sublist items)
    (hnodup : items.Nodup) {test : α → Bool}
    (htest : ∀ item ∈ items, test item = true → item ∈ part) :
    part.filter test = items.filter test := by
  induction hsublist with
  | slnil => rfl
  | cons item hrest ih =>
      rw [List.nodup_cons] at hnodup
      have hfails : ¬ test item = true := by
        intro hpasses
        exact hnodup.1 (hrest.subset (htest item List.mem_cons_self hpasses))
      rw [List.filter_cons_of_neg hfails]
      apply ih hnodup.2
      intro other hother
      exact htest other (List.mem_cons_of_mem _ hother)
  | cons_cons item hrest ih =>
      rw [List.nodup_cons] at hnodup
      rw [List.filter_cons, List.filter_cons, ih hnodup.2]
      intro other hother hpasses
      rcases List.mem_cons.1 (htest other (List.mem_cons_of_mem _ hother) hpasses) with
        rfl | hpart
      · exact absurd hother hnodup.1
      · exact hpart

variable [DecidableEq κ]

/-- What look-up finds in one collection it finds in any other that has it. -/
theorem find?_of_mem_of_find? {collection other : Keyed key} {wanted : κ} {item : α}
    (hfound : other.find? wanted = some item) (hitem : item ∈ collection.items) :
    collection.find? wanted = some item := by
  obtain ⟨-, hkey⟩ := (find?_eq_some_iff _ _ _).1 hfound
  exact (find?_eq_some_iff _ _ _).2 ⟨hitem, hkey⟩

theorem mem_items_erase_iff (collection : Keyed key) (unwanted : κ) (item : α) :
    item ∈ (collection.erase unwanted).items ↔
      item ∈ collection.items ∧ key item ≠ unwanted := by
  simp [erase]

/-- An item is added exactly when its key is free, and then at the end. -/
theorem insert?_eq_some_iff (collection result : Keyed key) (item : α) :
    collection.insert? item = some result ↔
      collection.find? (key item) = none ∧ result.items = collection.items ++ [item] := by
  rw [find?_eq_none_iff, insert?]
  by_cases hfree : ∀ other ∈ collection.items, key other ≠ key item
  · rw [dif_pos hfree, Option.some.injEq]
    constructor
    · rintro rfl
      exact ⟨hfree, rfl⟩
    · rintro ⟨-, hitems⟩
      exact eq_of_items_eq hitems.symm
  · rw [dif_neg hfree]
    constructor
    · intro h
      cases h
    · intro h
      exact absurd h.1 hfree

theorem find?_of_insert? {collection result : Keyed key} {item : α}
    (hinsert : collection.insert? item = some result) (wanted : κ) :
    result.find? wanted =
      if wanted = key item then some item else collection.find? wanted := by
  obtain ⟨hfree, hitems⟩ := (insert?_eq_some_iff _ _ _).1 hinsert
  rw [find?_eq_none_iff] at hfree
  apply Option.ext
  intro other
  rw [find?_eq_some_iff, hitems, List.mem_append, List.mem_singleton]
  by_cases hwanted : wanted = key item
  · rw [if_pos hwanted, Option.some.injEq]
    constructor
    · rintro ⟨hother | rfl, hkey⟩
      · exact absurd (hkey.trans hwanted) (hfree other hother)
      · rfl
    · rintro rfl
      exact ⟨Or.inr rfl, hwanted.symm⟩
  · rw [if_neg hwanted, find?_eq_some_iff]
    constructor
    · rintro ⟨hother | rfl, hkey⟩
      · exact ⟨hother, hkey⟩
      · exact absurd hkey.symm hwanted
    · rintro ⟨hother, hkey⟩
      exact ⟨Or.inl hother, hkey⟩

/-- Keeping all that a key can have does not change what look-up finds under it. -/
theorem find?_keep_of_imp (collection : Keyed key) {test : α → Bool} {wanted : κ}
    (himp : ∀ item, key item = wanted → test item = true) :
    (collection.keep test).find? wanted = collection.find? wanted := by
  rw [find?_keep]
  cases hfound : collection.find? wanted with
  | none => rfl
  | some item =>
      obtain ⟨-, hkey⟩ := (find?_eq_some_iff _ _ _).1 hfound
      rw [Option.filter_some, if_pos (himp item hkey)]

/-- Erasing under a key leaves alone what cannot have it. -/
theorem keep_erase_of_imp (collection : Keyed key) {test : α → Bool} {unwanted : κ}
    (himp : ∀ item, key item = unwanted → test item = false) :
    (collection.erase unwanted).keep test = collection.keep test := by
  apply keep_keep_of_imp
  intro item htest
  rw [decide_eq_true_eq]
  intro hkey
  rw [himp item hkey] at htest
  cases htest

theorem keep_of_insert? {collection result : Keyed key} {item : α} {test : α → Bool}
    (hinsert : collection.insert? item = some result) (htest : test item = false) :
    result.keep test = collection.keep test := by
  obtain ⟨-, hitems⟩ := (insert?_eq_some_iff _ _ _).1 hinsert
  apply eq_of_items_eq
  simp [hitems, htest]

/-- Of all items that can have its key, an item is added to the part as to the whole. -/
theorem insert?_keep {collection : Keyed key} {item : α} {test : α → Bool}
    (himp : ∀ other, key other = key item → test other = true) :
    (collection.keep test).insert? item =
      (collection.insert? item).map fun result => result.keep test := by
  apply Option.ext
  intro part
  rw [insert?_eq_some_iff, find?_keep_of_imp _ himp, Option.map_eq_some_iff]
  have hsingle : [item].filter test = [item] :=
    List.filter_cons_of_pos (himp item rfl)
  constructor
  · rintro ⟨hfree, hitems⟩
    rw [find?_eq_none_iff] at hfree
    refine ⟨collection.add item hfree, dif_pos hfree, eq_of_items_eq ?_⟩
    rw [hitems, items_keep, items_keep, add, List.filter_append, hsingle]
  · rintro ⟨result, hinsert, rfl⟩
    obtain ⟨hfree, hitems⟩ := (insert?_eq_some_iff _ _ _).1 hinsert
    refine ⟨hfree, ?_⟩
    rw [items_keep, items_keep, hitems, List.filter_append, hsingle]

theorem items_replace (collection : Keyed key) (item : α) :
    (collection.replace item).items = (collection.erase (key item)).items ++ [item] := rfl

theorem keep_replace_of_pos (collection : Keyed key) {item : α} {test : α → Bool}
    (htest : test item = true) :
    (collection.replace item).keep test = (collection.keep test).replace item := by
  have herase : (collection.erase (key item)).keep test = (collection.keep test).erase (key item) :=
    collection.keep_comm _ _
  apply eq_of_items_eq
  rw [items_replace, ← herase, items_keep, items_keep, items_replace, List.filter_append,
    List.filter_cons_of_pos htest, List.filter_nil]

theorem keep_replace_of_imp (collection : Keyed key) {item : α} {test : α → Bool}
    (himp : ∀ other, key other = key item → test other = false) :
    (collection.replace item).keep test = collection.keep test := by
  rw [← collection.keep_erase_of_imp himp]
  apply eq_of_items_eq
  simp [items_replace, himp item rfl]

/-- Nothing is erased under a free key. -/
theorem erase_eq_self (collection : Keyed key) {unwanted : κ}
    (hfree : collection.find? unwanted = none) : collection.erase unwanted = collection := by
  apply eq_of_items_eq
  rw [erase, items_keep, List.filter_eq_self]
  intro item hitem
  simpa using (find?_eq_none_iff _ _).1 hfree item hitem

/-- Only the item that look-up finds under a key has that key. -/
theorem filter_key_eq_toList_find? (collection : Keyed key) (wanted : κ) :
    (collection.items.filter fun item => decide (key item = wanted)) =
      (collection.find? wanted).toList := by
  rcases collection with ⟨items, hdistinct⟩
  simp only [find?]
  induction items with
  | nil => rfl
  | cons item rest ih =>
      rw [List.map_cons, List.nodup_cons] at hdistinct
      by_cases hkey : key item = wanted
      · have hrest : ∀ other ∈ rest, ¬ key other = wanted := by
          intro other hother hother_key
          apply hdistinct.1
          rw [hkey, ← hother_key]
          exact List.mem_map_of_mem hother
        have hnone : (rest.filter fun other => decide (key other = wanted)) = [] := by
          rw [List.filter_eq_nil_iff]
          intro other hother
          simpa using hrest other hother
        simp [hkey, hnone]
      · simpa [hkey] using ih hdistinct.2

theorem size_erase_add (collection : Keyed key) (unwanted : κ) :
    (collection.erase unwanted).size + (collection.find? unwanted).toList.length =
      collection.size := by
  rw [← filter_key_eq_toList_find?, erase,
    ← collection.size_keep_add fun item => decide (key item ≠ unwanted)]
  simp

end OneTimeCode.Keyed
