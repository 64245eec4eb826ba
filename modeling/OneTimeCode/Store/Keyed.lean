/-!
# Collections by key

A collection holds at most one item under each key.  Its items keep the order in
which they were added, but what is stored under a key does not depend on it.
-/

namespace OneTimeCode

/-- Items that differ in their keys. -/
structure Keyed {α κ : Type} (key : α → κ) where
  items : List α
  distinct : (items.map key).Nodup

namespace Keyed

variable {α κ : Type} {key : α → κ} [DecidableEq κ]

def empty : Keyed key := ⟨[], List.nodup_nil⟩

def size (collection : Keyed key) : Nat :=
  collection.items.length

/-- The item stored under a key. -/
def find? (collection : Keyed key) (wanted : κ) : Option α :=
  collection.items.find? fun item => decide (key item = wanted)

/-- Only the items that pass a test stay. -/
def keep (collection : Keyed key) (test : α → Bool) : Keyed key :=
  ⟨collection.items.filter test,
    (List.filter_sublist.map key).nodup collection.distinct⟩

def erase (collection : Keyed key) (unwanted : κ) : Keyed key :=
  collection.keep fun item => decide (key item ≠ unwanted)

/-- Adds an item at the end, under a key that is free. -/
def add (collection : Keyed key) (item : α)
    (free : ∀ other ∈ collection.items, key other ≠ key item) : Keyed key where
  items := collection.items ++ [item]
  distinct := by
    rw [List.map_append, List.nodup_append]
    refine ⟨collection.distinct, by simp, ?_⟩
    intro left hleft right hright
    obtain ⟨other, hother, rfl⟩ := List.mem_map.1 hleft
    rw [List.map_singleton, List.mem_singleton] at hright
    exact hright ▸ free other hother

/-- Adds an item unless its key is taken. -/
def insert? (collection : Keyed key) (item : α) : Option (Keyed key) :=
  if free : ∀ other ∈ collection.items, key other ≠ key item then
    some (collection.add item free)
  else
    none

/-- Adds an item in the place of the one under its key, if there is one. -/
def replace (collection : Keyed key) (item : α) : Keyed key :=
  (collection.erase (key item)).add item fun other hother => by
    simpa using (List.mem_filter.1 hother).2

omit [DecidableEq κ] in
/-- Items of a list with distinct keys are equal if their keys are. -/
theorem inj_of_nodup {items : List α} (distinct : (items.map key).Nodup) {left right : α}
    (hleft : left ∈ items) (hright : right ∈ items) (hkey : key left = key right) :
    left = right := by
  induction items with
  | nil => cases hleft
  | cons head rest ih =>
    rw [List.map_cons, List.nodup_cons] at distinct
    rcases List.mem_cons.1 hleft with hleft_eq | hleft_mem
    · rcases List.mem_cons.1 hright with hright_eq | hright_mem
      · rw [hleft_eq, hright_eq]
      · exact absurd (List.mem_map.2 ⟨right, hright_mem, by rw [← hkey, hleft_eq]⟩) distinct.1
    · rcases List.mem_cons.1 hright with hright_eq | hright_mem
      · exact absurd (List.mem_map.2 ⟨left, hleft_mem, by rw [hkey, hright_eq]⟩) distinct.1
      · exact ih distinct.2 hleft_mem hright_mem

omit [DecidableEq κ] in
@[simp]
theorem items_empty : (empty : Keyed key).items = [] := rfl

omit [DecidableEq κ] in
@[simp]
theorem items_keep (collection : Keyed key) (test : α → Bool) :
    (collection.keep test).items = collection.items.filter test := rfl

theorem find?_eq_none_iff (collection : Keyed key) (wanted : κ) :
    collection.find? wanted = none ↔ ∀ item ∈ collection.items, key item ≠ wanted := by
  simp [find?]

/-- Looking up a key finds the one item that has it. -/
theorem find?_eq_some_iff (collection : Keyed key) (wanted : κ) (item : α) :
    collection.find? wanted = some item ↔ item ∈ collection.items ∧ key item = wanted := by
  constructor
  · intro hfound
    exact ⟨List.mem_of_find?_eq_some hfound, by simpa using List.find?_some hfound⟩
  · rintro ⟨hitem, rfl⟩
    cases hfound : collection.find? (key item) with
    | none => exact absurd rfl ((collection.find?_eq_none_iff _).1 hfound item hitem)
    | some other =>
      have hother := List.mem_of_find?_eq_some hfound
      have hkey : key other = key item := by simpa using List.find?_some hfound
      exact congrArg some (inj_of_nodup collection.distinct hother hitem hkey)

/-- Of the items kept, look-up finds those that it found before. -/
theorem find?_keep (collection : Keyed key) (test : α → Bool) (wanted : κ) :
    (collection.keep test).find? wanted = (collection.find? wanted).filter test := by
  apply Option.ext
  intro item
  rw [find?_eq_some_iff, items_keep, List.mem_filter, Option.filter_eq_some_iff,
    find?_eq_some_iff]
  exact ⟨fun h => ⟨⟨h.1.1, h.2⟩, h.1.2⟩, fun h => ⟨⟨h.1.1, h.2⟩, h.1.2⟩⟩

theorem insert?_eq_none_iff (collection : Keyed key) (item : α) :
    collection.insert? item = none ↔ collection.find? (key item) ≠ none := by
  rw [Ne, find?_eq_none_iff]
  unfold insert?
  split <;> simp_all

@[simp]
theorem find?_erase_self (collection : Keyed key) (unwanted : κ) :
    (collection.erase unwanted).find? unwanted = none := by
  rw [find?_eq_none_iff]
  intro item hitem
  simpa using (List.mem_filter.1 hitem).2

theorem find?_erase_of_ne (collection : Keyed key) {unwanted wanted : κ}
    (hne : wanted ≠ unwanted) :
    (collection.erase unwanted).find? wanted = collection.find? wanted := by
  rw [erase, find?_keep]
  cases hfound : collection.find? wanted with
  | none => rfl
  | some item =>
    have hkey := ((collection.find?_eq_some_iff wanted item).1 hfound).2
    simp [hkey, hne]

@[simp]
theorem find?_replace_self (collection : Keyed key) (item : α) :
    (collection.replace item).find? (key item) = some item :=
  (find?_eq_some_iff _ _ _).2 ⟨by simp [replace, add], rfl⟩

theorem find?_replace_of_ne (collection : Keyed key) (item : α) {wanted : κ}
    (hne : wanted ≠ key item) :
    (collection.replace item).find? wanted = collection.find? wanted := by
  apply Option.ext
  intro other
  rw [← find?_erase_of_ne collection hne, find?_eq_some_iff, find?_eq_some_iff]
  simp only [replace, add, List.mem_append, List.mem_singleton]
  constructor
  · rintro ⟨hother | rfl, hkey⟩
    · exact ⟨hother, hkey⟩
    · exact absurd hkey.symm hne
  · rintro ⟨hother, hkey⟩
    exact ⟨.inl hother, hkey⟩

end Keyed

end OneTimeCode
