import Mathlib.Algebra.GroupWithZero.Nat
import OneTimeCode.Proofs.RowChanges
import OneTimeCode.Proofs.UnreadableRows

/-!
# Revocations

Memory is scanned for the entries of a zone that have an intent, and a ledger deletes the rows
of which the same is true.  In both the records that stay are those that pass one test, so
revocations commute, and each of them answers how many of the records it hits are left.
-/

namespace OneTimeCode

/-- A voucher that memory keeps under its key, or a row that is written in a ledger. -/
inductive Record
  | kept (entry : MemoryEntry)
  | written (row : Row)
deriving DecidableEq, Repr

namespace Record

/-- The zone that a record belongs to, which can be blank if others have written it. -/
def zone : Record → Zone
  | kept entry => entry.2.zone
  | written row => ⟨row.zone⟩

def intent : Record → Option String
  | kept entry => entry.2.intent
  | written row => row.intent

end Record

/-- A call that forgets all records of a zone with an intent. -/
structure Revocation where
  intent : String
  zone : Zone
deriving DecidableEq, Repr

/-- The records of the zone with exactly this intent are hit, whether they have expired or not,
and never a record without intent. -/
def Revocation.Hits (revocation : Revocation) (record : Record) : Prop :=
  record.zone = revocation.zone ∧ record.intent = some revocation.intent

instance (revocation : Revocation) (record : Record) : Decidable (revocation.Hits record) :=
  inferInstanceAs (Decidable (_ ∧ _))

namespace Revocation

/-- The records that no revocation hits. -/
def spared (records : List Record) (revocations : List Revocation) : List Record :=
  records.filter fun record => ∀ revocation ∈ revocations, ¬ revocation.Hits record

/-- How many records revocations find, one after the other. -/
def counts (records : List Record) : List Revocation → List Nat
  | [] => []
  | revocation :: rest =>
    records.countP (revocation.Hits ·) ::
      counts (records.filter fun record => ¬ revocation.Hits record) rest

end Revocation

namespace Store

/-- All records of a store, those that have expired or cannot be read included. -/
def records : Store → List Record
  | memory kept => kept.entries.items.map .kept
  | ledger kept => kept.contents.map .written

/-- The store after some revocations. -/
def revokeAll (store : Store) (revocations : List Revocation) : Store :=
  revocations.foldl
    (fun current revocation => (current.revoke revocation.intent revocation.zone).store) store

/-- What some revocations answer one after the other. -/
def removals (store : Store) : List Revocation → List (Except Failure Nat)
  | [] => []
  | revocation :: rest =>
    (store.revoke revocation.intent revocation.zone).outcome ::
      (store.revoke revocation.intent revocation.zone).store.removals rest

/-- A store that is new, that has been called, or whose table others have written to. -/
inductive IsReachable : Store → Prop
  | fresh (backend : Log.Backend) : IsReachable (fresh backend)
  | called {store : Store} (hreachable : IsReachable store) (timed : TimedCall) :
      IsReachable (store.next timed)
  | written {table : Table} (hreachable : IsReachable (ledger (.ready table)))
      (changed : Table) : IsReachable (ledger (.ready changed))

/-- Memory has every voucher under its own key, and a ledger has a table, whatever is in it. -/
def IsOpen : Store → Prop
  | memory kept => kept.IsKeyed
  | ledger kept => ∃ table, kept = .ready table

/-! ## What calls preserve -/

theorem isOpen_issue_memory {kept : MemoryStore} (hkeyed : kept.IsKeyed) (now : Instant)
    (request : Request) (code : String) :
    ((memory kept).issue now request code).store.IsOpen := by
  rcases issue_memory_cases kept now request code with
    ⟨failure, draws, hissue⟩ | ⟨draft, hcheck, hfree⟩
  · rw [hissue]
    exact hkeyed
  · rw [issue_memory_of_not_blocks hcheck hfree]
    exact hkeyed.replace _

theorem isOpen_redeem_memory {kept : MemoryStore} (hkeyed : kept.IsKeyed) (now : Instant)
    (code : Option String) (zone : Zone) :
    ((memory kept).redeem now code zone).store.IsOpen := by
  cases code with
  | none => exact hkeyed
  | some code =>
      change (kept.redeem now (some code) zone).store.IsKeyed
      rw [kept.store_redeem]
      exact hkeyed.keep _

/-- A call closes no store, whatever it is. -/
theorem IsOpen.next {store : Store} (hopen : store.IsOpen) (timed : TimedCall) :
    (store.next timed).IsOpen := by
  cases store with
  | memory kept =>
      rcases timed with ⟨now, call⟩
      cases call with
      | issue request code => exact isOpen_issue_memory hopen now request code
      | redeem code zone => exact isOpen_redeem_memory hopen now code zone
      | revoke intent zone => exact hopen.keep _
      | sweep => exact hopen
  | ledger kept =>
      obtain ⟨table, rfl⟩ := hopen
      obtain ⟨result, hfollows⟩ := table.exists_follows timed
      rw [hfollows.next]
      exact ⟨result, rfl⟩

theorem IsReachable.isOpen {store : Store} (hreachable : store.IsReachable) : store.IsOpen := by
  induction hreachable with
  | fresh backend =>
      cases backend with
      | memory => exact isSound_fresh .memory
      | ledger => exact ⟨_, rfl⟩
  | called _ timed ih => exact ih.next timed
  | written _ changed _ => exact ⟨changed, rfl⟩

end Store

/-! ## What revocations hit -/

namespace Revocation

/-- A record is hit by one revocation at most. -/
theorem Hits.unique {first second : Revocation} {record : Record} (hfirst : first.Hits record)
    (hsecond : second.Hits record) : first = second := by
  obtain ⟨hfirstZone, hfirstIntent⟩ := hfirst
  obtain ⟨hsecondZone, hsecondIntent⟩ := hsecond
  rw [hfirstZone] at hsecondZone
  rw [hfirstIntent, Option.some.injEq] at hsecondIntent
  cases first
  cases second
  simp_all

/-- The records that are hit and those that are not make up all records. -/
theorem countP_add_length_filter (records : List Record) (revocation : Revocation) :
    records.countP (revocation.Hits ·) +
        (records.filter fun record => ¬ revocation.Hits record).length = records.length := by
  rw [← List.countP_eq_length_filter,
    List.length_eq_countP_add_countP (fun record => decide (revocation.Hits record))]
  simp only [decide_not, Bool.not_eq_true, decide_eq_false_iff_not]

/-- A revocation hits nothing any more, and another one hits what it would have hit before. -/
theorem countP_filter_not_hits (records : List Record) (first second : Revocation) :
    (records.filter fun record => ¬ first.Hits record).countP (second.Hits ·) =
      if second = first then 0 else records.countP (second.Hits ·) := by
  rw [List.countP_filter]
  split
  · next hsame =>
    subst hsame
    simp
  · next hdiffers =>
    apply List.countP_congr
    intro record _
    have hmissed : second.Hits record → ¬ first.Hits record :=
      fun hsecond hfirst => hdiffers (hsecond.unique hfirst)
    simpa using hmissed

theorem spared_nil (records : List Record) : spared records [] = records := by
  simp [spared]

theorem spared_cons (records : List Record) (first : Revocation) (rest : List Revocation) :
    spared records (first :: rest) =
      spared (records.filter fun record => ¬ first.Hits record) rest := by
  rw [spared, spared, List.filter_filter]
  apply List.filter_congr
  intro record _
  simp only [List.forall_mem_cons, Bool.decide_and, Bool.and_comm]

/-- What is removed and what is left at the end make up all records. -/
theorem sum_counts_add (records : List Record) (revocations : List Revocation) :
    (counts records revocations).sum + (spared records revocations).length =
      records.length := by
  induction revocations generalizing records with
  | nil => rw [counts, spared_nil, List.sum_nil, Nat.zero_add]
  | cons first rest ih =>
      calc
        (counts records (first :: rest)).sum + (spared records (first :: rest)).length =
            records.countP (first.Hits ·) +
              ((counts (records.filter fun record => ¬ first.Hits record) rest).sum +
                (spared (records.filter fun record => ¬ first.Hits record) rest).length) := by
          rw [counts, spared_cons, List.sum_cons, Nat.add_assoc]
        _ = records.countP (first.Hits ·) +
              (records.filter fun record => ¬ first.Hits record).length := by
          rw [ih]
        _ = records.length := countP_add_length_filter records first

/-- The first of some equal revocations removes all that it hits, the others remove nothing. -/
theorem getElem?_counts (records : List Record) (revocations : List Revocation)
    (position : Nat) :
    (counts records revocations)[position]? = revocations[position]?.map fun revocation =>
      if revocation ∈ revocations.take position then 0
      else records.countP (revocation.Hits ·) := by
  induction revocations generalizing records position with
  | nil => rfl
  | cons first rest ih =>
      cases position with
      | zero => rfl
      | succ position =>
          rw [counts, List.getElem?_cons_succ, List.getElem?_cons_succ, ih]
          congr 1
          funext revocation
          rw [countP_filter_not_hits, List.take_succ_cons]
          by_cases hrepeated : revocation ∈ rest.take position <;>
            by_cases hfirst : revocation = first <;> simp [hrepeated, hfirst]

end Revocation

/-! ## One revocation -/

namespace Store

/-- Memory looks at the zone of the key, which is that of the voucher. -/
theorem hits_kept_iff {kept : MemoryStore} (hkeyed : kept.IsKeyed) {entry : MemoryEntry}
    (hentry : entry ∈ kept.entries.items) (revocation : Revocation) :
    revocation.Hits (.kept entry) ↔
      entry.1.zone = revocation.zone ∧ entry.2.intent = some revocation.intent := by
  rw [← hkeyed entry hentry]
  rfl

/-- A ledger looks at the text of the zone. -/
theorem hits_written_iff (row : Row) (revocation : Revocation) :
    revocation.Hits (.written row) ↔
      row.zone = revocation.zone.id ∧ row.intent = some revocation.intent :=
  and_congr Zone.id_inj.symm Iff.rfl

/-- The records that a revocation hits are gone, and the others are as they were. -/
theorem records_revoke {store : Store} (hopen : store.IsOpen) (revocation : Revocation) :
    (store.revoke revocation.intent revocation.zone).store.records =
      store.records.filter fun record => ¬ revocation.Hits record := by
  cases store with
  | memory kept =>
      change (kept.entries.items.filter _).map Record.kept = (kept.entries.items.map _).filter _
      rw [List.filter_map]
      congr 1
      apply List.filter_congr
      intro entry hentry
      simp [hits_kept_iff hopen hentry]
  | ledger kept =>
      obtain ⟨table, rfl⟩ := hopen
      change (table.items.filter _).map Record.written = (table.items.map _).filter _
      rw [List.filter_map]
      congr 1
      apply List.filter_congr
      intro row _
      simp [hits_written_iff]

/-- A revocation answers how many records it hits. -/
theorem outcome_revoke {store : Store} (hopen : store.IsOpen) (revocation : Revocation) :
    (store.revoke revocation.intent revocation.zone).outcome =
      .ok (store.records.countP (revocation.Hits ·)) := by
  have hrecords := records_revoke hopen revocation
  have hlength := Revocation.countP_add_length_filter store.records revocation
  rw [← hrecords] at hlength
  cases store with
  | memory kept =>
      have hbefore : (memory kept).records.length = kept.entries.size := List.length_map _
      have hafter : ((memory kept).revoke revocation.intent revocation.zone).store.records.length =
          Keyed.size _ := List.length_map _
      rw [hafter, hbefore] at hlength
      exact congrArg Except.ok (Nat.sub_eq_of_eq_add hlength.symm)
  | ledger kept =>
      obtain ⟨table, rfl⟩ := hopen
      change Except.ok (table.items.filter _).length = .ok ((table.items.map _).countP _)
      rw [List.countP_map, ← List.countP_eq_length_filter]
      congr 1
      apply List.countP_congr
      intro row _
      simp [hits_written_iff]

/-! ## Many revocations -/

theorem IsOpen.revoke {store : Store} (hopen : store.IsOpen) (revocation : Revocation) :
    (store.revoke revocation.intent revocation.zone).store.IsOpen :=
  hopen.next ⟨.epoch, .revoke revocation.intent revocation.zone⟩

theorem revokeAll_cons (store : Store) (first : Revocation) (rest : List Revocation) :
    store.revokeAll (first :: rest) =
      (store.revoke first.intent first.zone).store.revokeAll rest := rfl

theorem records_revokeAll {store : Store} (hopen : store.IsOpen)
    (revocations : List Revocation) :
    (store.revokeAll revocations).records = Revocation.spared store.records revocations := by
  induction revocations generalizing store with
  | nil => exact (Revocation.spared_nil store.records).symm
  | cons first rest ih =>
      rw [revokeAll_cons, ih (hopen.revoke first), records_revoke hopen, Revocation.spared_cons]

theorem removals_eq {store : Store} (hopen : store.IsOpen) (revocations : List Revocation) :
    store.removals revocations = (Revocation.counts store.records revocations).map .ok := by
  induction revocations generalizing store with
  | nil => rfl
  | cons first rest ih =>
      rw [removals, Revocation.counts, List.map_cons, outcome_revoke hopen,
        ih (hopen.revoke first), records_revoke hopen]

/-- Two revocations can be made in either order, also of a ledger that cannot be reached. -/
theorem revoke_comm (store : Store) (first second : Revocation) :
    ((store.revoke first.intent first.zone).store.revoke second.intent second.zone).store =
      ((store.revoke second.intent second.zone).store.revoke first.intent first.zone).store := by
  cases store with
  | memory kept => exact congrArg (fun entries => memory ⟨entries⟩) (kept.entries.keep_comm _ _)
  | ledger kept =>
      cases kept with
      | ready table => exact congrArg (fun rows => ledger (.ready rows)) (table.keep_comm _ _)
      | _ => rfl

theorem revokeAll_perm {revocations others : List Revocation} (hperm : revocations.Perm others)
    (store : Store) : store.revokeAll revocations = store.revokeAll others :=
  hperm.foldl_eq' (fun first _ second _ current => revoke_comm current first second) store

end Store

/-- Revocations of any store that can be reached remove exactly the records that they hit and
leave the others as they are.  What a revocation answers is the number of the records it hits,
once, and from then on zero.  In every order of the revocations the same store is left. -/
theorem revocations_exact {store : Store} (hreachable : store.IsReachable)
    (revocations : List Revocation) :
    (∀ revocation : Revocation,
      (store.revoke revocation.intent revocation.zone).outcome =
        .ok (store.records.countP (revocation.Hits ·)) ∧
      (store.revoke revocation.intent revocation.zone).store.records =
        store.records.filter (fun record => ¬ revocation.Hits record) ∧
      store.records.countP (revocation.Hits ·) +
          (store.revoke revocation.intent revocation.zone).store.records.length =
        store.records.length) ∧
    (∃ counts : List Nat, store.removals revocations = counts.map .ok ∧
      counts.sum + (store.revokeAll revocations).records.length = store.records.length ∧
      ∀ position : Nat, counts[position]? = revocations[position]?.map fun revocation =>
        if revocation ∈ revocations.take position then 0
        else store.records.countP (revocation.Hits ·)) ∧
    (store.revokeAll revocations).records = Revocation.spared store.records revocations ∧
    ∀ others, revocations.Perm others → store.revokeAll others = store.revokeAll revocations := by
  have hopen := hreachable.isOpen
  have hspared := Store.records_revokeAll hopen revocations
  refine ⟨?single, ⟨Revocation.counts store.records revocations, ?answers, ?sum, ?positions⟩,
    hspared, ?orders⟩
  case single =>
    intro revocation
    have hrecords := Store.records_revoke hopen revocation
    refine ⟨Store.outcome_revoke hopen revocation, hrecords, ?_⟩
    rw [hrecords]
    exact Revocation.countP_add_length_filter store.records revocation
  case answers => exact Store.removals_eq hopen revocations
  case sum =>
    rw [hspared]
    exact Revocation.sum_counts_add store.records revocations
  case positions => exact Revocation.getElem?_counts store.records revocations
  case orders =>
    intro others hperm
    exact Store.revokeAll_perm hperm.symm store

/-- Rows of two zones.  One has expired long ago, one cannot be read and one has no intent. -/
def Table.ofTwoZones : Table where
  items := [⟨"east", "a", 0, "payload", some "login"⟩,
    ⟨"east", "b", 9223372036854775807, "payload", some "login"⟩,
    ⟨"east", "c", 1000, "payload", none⟩,
    ⟨"west", "a", 1000, "payload", some "login"⟩]
  distinct := by decide

/-- Of equal revocations the one that is made first removes the records, and a row without
intent is left in any order. -/
theorem revocations_exact_of_twoZones :
    (Store.ledger (.ready .ofTwoZones)).IsReachable ∧
      (Store.ledger (.ready .ofTwoZones)).removals
        [⟨"login", ⟨"east"⟩⟩, ⟨"login", ⟨"west"⟩⟩, ⟨"login", ⟨"east"⟩⟩] = [.ok 2, .ok 1, .ok 0] ∧
      ((Store.ledger (.ready .ofTwoZones)).revokeAll
        [⟨"login", ⟨"west"⟩⟩, ⟨"login", ⟨"east"⟩⟩, ⟨"login", ⟨"east"⟩⟩]).records =
          [.written ⟨"east", "c", 1000, "payload", none⟩] := by
  have hreachable : (Store.ledger (.ready .ofTwoZones)).IsReachable :=
    .written (.fresh .ledger) .ofTwoZones
  obtain ⟨-, ⟨counts, hremovals, -, hpositions⟩, hspared, horders⟩ :=
    revocations_exact hreachable
      [⟨"login", ⟨"east"⟩⟩, ⟨"login", ⟨"west"⟩⟩, ⟨"login", ⟨"east"⟩⟩]
  refine ⟨hreachable, ?_, ?_⟩
  · have hcounts : counts = [2, 1, 0] := by
      apply List.ext_getElem?
      intro position
      rw [hpositions]
      match position with
      | 0 | 1 | 2 => decide
      | position + 3 => rfl
    rw [hremovals, hcounts]
    rfl
  · rw [horders _ (.swap _ _ _), hspared]
    decide

end OneTimeCode
