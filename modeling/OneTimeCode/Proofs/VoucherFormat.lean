import OneTimeCode.Proofs.InstantText
import OneTimeCode.Proofs.JsonText
import OneTimeCode.Store.Keyed
import OneTimeCode.Voucher.Format

/-!
# Vouchers are read back

A voucher is recovered from what it is written as: from the value, from its text, from an
array of the five values and from every object that has the five members among others.  The
one thing that is not recovered is an expiry in a leap second off the end of a minute, which
comes back as the same fraction of the second after it.
-/

namespace OneTimeCode

theorem Json.member?_eq_some {name : String} {value : Json} {members : List (String × Json)}
    (hmember : (name, value) ∈ members)
    (honly : ∀ other ∈ members, other.1 = name → other.2 = value) :
    member? name members = some value := by
  rw [member?, Option.map_eq_some_iff]
  have hsome : (members.reverse.find? fun member => member.1 == name).isSome = true := by
    rw [List.find?_isSome]
    exact ⟨(name, value), List.mem_reverse.2 hmember, beq_self_eq_true name⟩
  obtain ⟨found, hfound⟩ := Option.isSome_iff_exists.1 hsome
  have hname : found.1 = name := by simpa using List.find?_some hfound
  have hmem := List.mem_reverse.1 (List.mem_of_find?_eq_some hfound)
  exact ⟨found, hfound, honly found hmem hname⟩

namespace Voucher

/-- The members of the object that a voucher is written as. -/
def members (voucher : Voucher) : List (String × Json) :=
  [("code", .string voucher.code), ("expires_at", instantToJson voucher.expiresAt),
    ("data", .string voucher.data), ("intent", optionalToJson voucher.intent),
    ("zone_id", voucher.zone.toJson)]

/-- The voucher with its expiry as a text shows it. -/
def asShown (voucher : Voucher) : Voucher :=
  { voucher with expiresAt := voucher.expiresAt.asShown }

theorem asShown_eq_self_iff (voucher : Voucher) :
    voucher.asShown = voucher ↔ ¬ voucher.expiresAt.IsMisplacedLeap := by
  rw [← Instant.asShown_eq_self_iff]
  refine ⟨congrArg expiresAt, fun hsame => ?_⟩
  rw [asShown, hsame]

theorem toJson_eq_object (voucher : Voucher) : voucher.toJson = .object voucher.members := rfl

/-! ## The values of the members -/

theorem instantOfJson_instantToJson (instant : Instant) :
    instantOfJson (instantToJson instant) = .ok instant.asShown := by
  rw [instantToJson, instantOfJson, Rfc3339.read_print]

theorem asOptionalString_optionalToJson (text : Option String) :
    (optionalToJson text).asOptionalString = .ok text := by
  cases text <;> rfl

theorem zoneOfJson_toJson (zone : Zone) : Zone.ofJson zone.toJson = .ok zone := rfl

/-! ## Arrays and objects -/

theorem ofItems_members (voucher : Voucher) :
    ofItems (voucher.members.map Prod.snd) = .ok voucher.asShown := by
  have hinstant := instantOfJson_instantToJson voucher.expiresAt
  have hintent := asOptionalString_optionalToJson voucher.intent
  have hzone := zoneOfJson_toJson voucher.zone
  simp [ofItems, members, asShown, Json.asString, hinstant, hintent, hzone, bind, Except.bind]

/-- The members are those of the voucher, in any order and with unknown ones among them. -/
structure HasMembers (voucher : Voucher) (members : List (String × Json)) : Prop where
  present : ∀ member ∈ voucher.members, member ∈ members
  only : ∀ other ∈ members, other.1 ∈ voucher.members.map Prod.fst → other ∈ voucher.members

theorem nodup_names (voucher : Voucher) : (voucher.members.map Prod.fst).Nodup := by
  change ["code", "expires_at", "data", "intent", "zone_id"].Nodup
  decide

theorem hasMembers_of_perm {voucher : Voucher} {members unknown : List (String × Json)}
    (hperm : members.Perm (voucher.members ++ unknown))
    (hunknown : ∀ other ∈ unknown, other.1 ∉ voucher.members.map Prod.fst) :
    voucher.HasMembers members where
  present member hmember := hperm.mem_iff.2 (List.mem_append_left _ hmember)
  only other hother hname := by
    rcases List.mem_append.1 (hperm.mem_iff.1 hother) with hown | hforeign
    · exact hown
    · exact absurd hname (hunknown other hforeign)

theorem HasMembers.member?_eq_some {voucher : Voucher} {members : List (String × Json)}
    (hmembers : voucher.HasMembers members) {name : String} {value : Json}
    (hmember : (name, value) ∈ voucher.members) : Json.member? name members = some value := by
  apply Json.member?_eq_some (hmembers.present _ hmember)
  intro other hother hname
  have hown := hmembers.only other hother (hname ▸ List.mem_map_of_mem hmember)
  rw [Keyed.inj_of_nodup voucher.nodup_names hown hmember hname]

theorem HasMembers.readMember_eq {voucher : Voucher} {members : List (String × Json)}
    (hmembers : voucher.HasMembers members) {α : Type} {read : Json → Except ReadFault α}
    {name : String} {value : Json} {result : α} (hmember : (name, value) ∈ voucher.members)
    (hread : read value = .ok result) :
    readMember read name members = .ok (some result) := by
  rw [readMember, hmembers.member?_eq_some hmember]
  simp only [hread]
  rfl

theorem HasMembers.ofMembers_eq {voucher : Voucher} {members : List (String × Json)}
    (hmembers : voucher.HasMembers members) : ofMembers members = .ok voucher.asShown := by
  have hcode : readMember Json.asString "code" members = .ok (some voucher.code) :=
    hmembers.readMember_eq (.head _) rfl
  have hdata : readMember Json.asString "data" members = .ok (some voucher.data) :=
    hmembers.readMember_eq (.tail _ (.tail _ (.head _))) rfl
  have hexpiry : readMember instantOfJson "expires_at" members =
      .ok (some voucher.expiresAt.asShown) :=
    hmembers.readMember_eq (.tail _ (.head _)) (instantOfJson_instantToJson _)
  have hintent : readMember Json.asOptionalString "intent" members =
      .ok (some voucher.intent) :=
    hmembers.readMember_eq (.tail _ (.tail _ (.tail _ (.head _))))
      (asOptionalString_optionalToJson _)
  have hzone : readMember Zone.ofJson "zone_id" members = .ok (some voucher.zone) :=
    hmembers.readMember_eq (.tail _ (.tail _ (.tail _ (.tail _ (.head _)))))
      (zoneOfJson_toJson _)
  rw [ofMembers, hcode, hdata, hexpiry, hintent, hzone]
  rfl

theorem ofJson_of_perm {voucher : Voucher} {members unknown : List (String × Json)}
    (hperm : members.Perm (voucher.members ++ unknown))
    (hunknown : ∀ other ∈ unknown, other.1 ∉ voucher.members.map Prod.fst) :
    ofJson (.object members) = .ok voucher.asShown :=
  (hasMembers_of_perm hperm hunknown).ofMembers_eq

theorem ofJson_of_perm_members {voucher : Voucher} {members : List (String × Json)}
    (hperm : members.Perm voucher.members) :
    ofJson (.object members) = .ok voucher.asShown := by
  have hall : members.Perm (voucher.members ++ []) := by rwa [List.append_nil]
  exact ofJson_of_perm hall (by simp)

theorem ofJson_toJson (voucher : Voucher) : ofJson voucher.toJson = .ok voucher.asShown :=
  ofJson_of_perm_members (List.Perm.refl voucher.members)

/-! ## Texts -/

theorem isAtom_of_mem_members {voucher : Voucher} {member : String × Json}
    (hmember : member ∈ voucher.members) : member.2.IsAtom := by
  have hintent : (optionalToJson voucher.intent).IsAtom := by
    cases voucher.intent with
    | none => exact .null
    | some text => exact .string text
  simp only [members, List.mem_cons, List.not_mem_nil, or_false] at hmember
  rcases hmember with rfl | rfl | rfl | rfl | rfl
  · exact .string _
  · exact .string _
  · exact .string _
  · exact hintent
  · exact .string _

theorem ofJson_print_toJson (voucher : Voucher) :
    (Json.ofString? voucher.toJson.print).map ofJson = some (.ok voucher.asShown) := by
  rw [toJson_eq_object, Json.ofString?_print_object (by simp [members])
    (fun member => isAtom_of_mem_members), Option.map_some]
  have hdistinct : (([] ++ voucher.members).map Prod.fst).Nodup := voucher.nodup_names
  rw [ofJson_of_perm_members (Json.foldl_addMember_perm hdistinct)]

theorem ofJson_print_array (voucher : Voucher) :
    (Json.ofString? (Json.array (voucher.members.map Prod.snd)).print).map ofJson =
      some (.ok voucher.asShown) := by
  have hatoms : ∀ item ∈ voucher.members.map Prod.snd, item.IsAtom := by
    intro item hitem
    obtain ⟨member, hmember, rfl⟩ := List.mem_map.1 hitem
    exact isAtom_of_mem_members hmember
  rw [Json.ofString?_print_array (by simp [members]) hatoms, Option.map_some, ofJson,
    ofItems_members]

end Voucher

/-- What a voucher is written as is read as one voucher: the value and its text, the five
values as an array in the order of the members, and any object with the members in any
order and unknown ones among them.  It is the same voucher exactly if it does not expire in a
leap second off the end of a minute; from such an expiry, only the second after it comes
back. -/
theorem vouchers_read_back (voucher : Voucher) :
    Voucher.ofJson voucher.toJson = .ok voucher.asShown ∧
    (Json.ofString? voucher.toJson.print).map Voucher.ofJson = some (.ok voucher.asShown) ∧
    Voucher.ofJson (.array (voucher.members.map Prod.snd)) = .ok voucher.asShown ∧
    (Json.ofString? (Json.array (voucher.members.map Prod.snd)).print).map Voucher.ofJson =
      some (.ok voucher.asShown) ∧
    (∀ members unknown : List (String × Json), members.Perm (voucher.members ++ unknown) →
      (∀ other ∈ unknown, other.1 ∉ voucher.members.map Prod.fst) →
      Voucher.ofJson (.object members) = .ok voucher.asShown) ∧
    (voucher.asShown = voucher ↔ ¬ voucher.expiresAt.IsMisplacedLeap) := by
  refine ⟨voucher.ofJson_toJson, voucher.ofJson_print_toJson, voucher.ofItems_members,
    voucher.ofJson_print_array, ?_, voucher.asShown_eq_self_iff⟩
  intro members unknown hperm hunknown
  exact Voucher.ofJson_of_perm hperm hunknown

/-- A voucher without intent that expires in a leap second. -/
def leapVoucher : Voucher :=
  ⟨"a", Rfc3339.firstLeapSecond, "payload", none, ⟨" "⟩⟩

theorem vouchers_read_back_of_leapVoucher :
    Voucher.ofJson (.object (("color", .array [.integer 1]) :: leapVoucher.members.reverse)) =
      .ok leapVoucher := by
  obtain ⟨-, -, -, -, hobjects, hsame⟩ := vouchers_read_back leapVoucher
  have hreversed := (List.reverse_perm leapVoucher.members).cons ("color", .array [.integer 1])
  rw [← hsame.2 (by decide)]
  exact hobjects _ _ (hreversed.trans (List.perm_append_singleton _ _).symm) (by decide)

/-- A voucher that expires in a leap second in the middle of a minute. -/
def misplacedLeapVoucher : Voucher :=
  { code := "a"
    expiresAt := { Rfc3339.firstLeapSecond with
      second := 30, second_ge := by decide, second_le := by decide }
    data := "x"
    intent := none
    zone := .standard }

/-- It comes back with an expiry half a second into second 31, at whose start it has expired
already. -/
theorem misplaced_leap_second_lost_in_text :
    ∃ back : Voucher, Voucher.ofJson misplacedLeapVoucher.toJson = .ok back ∧
      back ≠ misplacedLeapVoucher ∧ back.expiresAt.second = 31 ∧
      back.expiresAt.nanos = 500000000 ∧
      ∃ now : Instant, misplacedLeapVoucher.isExpiredAt now = true ∧
        back.isExpiredAt now = false := by
  refine ⟨misplacedLeapVoucher.asShown, misplacedLeapVoucher.ofJson_toJson, ?_, rfl, rfl,
    ⟨31, 0, by decide, by decide, by decide⟩, by decide, by decide⟩
  intro hsame
  exact misplacedLeapVoucher.asShown_eq_self_iff.1 hsame (by decide)

end OneTimeCode
