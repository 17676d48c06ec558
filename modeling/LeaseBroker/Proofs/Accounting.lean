import LeaseBroker.Bench
import LeaseBroker.Proofs.Run
import Mathlib.Algebra.BigOperators.Group.Finset.Piecewise
import Mathlib.Algebra.Order.BigOperators.Group.Finset

/-!
# The two counts of leases agree

The entry of a device says how many leases it has, and the ledger says whose they are. In every
reachable pool the first number is the sum of the second ones, the ledger speaks of registered
devices only, and it keeps neither an empty row nor an acquirer without a lease.
-/

set_option autoImplicit false

namespace LeaseBroker

namespace Broker
variable {W K H : Type} {cls : DeviceClasses W K H}

/-- The entries and the ledger tell of the same leases. The sum runs over any finite set of
acquirers that has all who hold a lease of the device. -/
structure Accounted (entries : SortedMap DeviceId (Entry K H)) (ledger : Ledger) : Prop where
  balanced : ∀ {id : DeviceId} {e : Entry K H}, entries.get? id = some e →
    ∀ {s : Finset Acquirer}, (∀ a, 0 < ledger.count a id → a ∈ s) →
      e.leases = ∑ a ∈ s, ledger.count a id
  registered : ∀ {a : Acquirer} {id : DeviceId}, 0 < ledger.count a id →
    ∃ e, entries.get? id = some e
  pruned : ledger.Pruned

theorem sum_count_add_one (count : Acquirer → Nat) {s : Finset Acquirer} {a : Acquirer}
    (h : a ∈ s) :
    (∑ b ∈ s, (count b + if b = a then 1 else 0)) = (∑ b ∈ s, count b) + 1 := by
  rw [Finset.sum_add_distrib, Finset.sum_ite_eq', if_pos h]

namespace Accounted
variable {entries : SortedMap DeviceId (Entry K H)} {ledger : Ledger}

theorem empty : Accounted (∅ : SortedMap DeviceId (Entry K H)) {} where
  balanced := by
    intro id e he
    rw [SortedMap.get?_empty] at he
    cases he
  registered := by
    intro a id hpos
    rw [Ledger.count_empty] at hpos
    exact absurd hpos (Nat.lt_irrefl 0)
  pruned := Ledger.pruned_empty

theorem registered_of_row (h : Accounted entries ledger) {row : Holding × List Moment}
    (hrow : row ∈ ledger.acquisitions) : ∃ e, entries.get? row.1.device = some e := by
  obtain ⟨hne, hsince⟩ := h.pruned.mem_acquisitions_iff_since.mp hrow
  refine h.registered (a := row.1.acquirer) ?_
  rw [Ledger.count, hsince]
  exact List.length_pos_iff.mpr hne

theorem balanced_acquirers (h : Accounted entries ledger) {id : DeviceId} {e : Entry K H}
    (he : entries.get? id = some e) :
    e.leases = ∑ a ∈ ledger.acquirers.toFinset, ledger.count a id :=
  h.balanced he fun _ hpos => List.mem_toFinset.mpr (h.pruned.mem_acquirers_iff.mpr ⟨id, hpos⟩)

theorem count_le (h : Accounted entries ledger) {id : DeviceId} {e : Entry K H}
    (he : entries.get? id = some e) (a : Acquirer) : ledger.count a id ≤ e.leases := by
  by_cases hpos : 0 < ledger.count a id
  · rw [h.balanced_acquirers he]
    have ha : a ∈ ledger.acquirers.toFinset :=
      List.mem_toFinset.mpr (h.pruned.mem_acquirers_iff.mpr ⟨id, hpos⟩)
    exact Finset.single_le_sum (f := fun b => ledger.count b id) (fun _ _ => Nat.zero_le _) ha
  · omega

theorem exists_holder (h : Accounted entries ledger) {id : DeviceId} {e : Entry K H}
    (he : entries.get? id = some e) (hl : e.leases ≠ 0) : ∃ a, 0 < ledger.count a id := by
  rw [h.balanced_acquirers he] at hl
  obtain ⟨a, _, ha⟩ := Finset.exists_ne_zero_of_sum_ne_zero hl
  exact ⟨a, Nat.pos_of_ne_zero ha⟩

theorem lease (h : Accounted entries ledger) {id : DeviceId} {e : Entry K H}
    (he : entries.get? id = some e) (a : Acquirer) (now : Moment) :
    Accounted (entries.insert id { e with leases := e.leases + 1 }) (ledger.record a id now) where
  balanced := by
    intro d e' he' s hs
    rw [SortedMap.get?_insert] at he'
    simp only [Ledger.count_record] at hs ⊢
    split at he'
    · rename_i hd
      subst d
      cases he'
      have ha : a ∈ s := hs a (by simp)
      have hbefore := h.balanced he fun b hb => hs b (by omega)
      simp only [and_true]
      rw [sum_count_add_one _ ha, hbefore]
    · rename_i hd
      simp only [hd, and_false, if_false, Nat.add_zero] at hs ⊢
      exact h.balanced he' hs
  registered := by
    intro b d hpos
    rw [SortedMap.get?_insert]
    split
    · exact ⟨_, rfl⟩
    · rename_i hd
      rw [Ledger.count_record, if_neg (fun hbd => hd hbd.2)] at hpos
      exact h.registered hpos
  pruned := h.pruned.record a id now

theorem endLease (h : Accounted entries ledger) {id : DeviceId} {e : Entry K H}
    (he : entries.get? id = some e) {a : Acquirer} {since : Moment} {after : Ledger}
    (hp : ledger.pop a id = (some since, after)) :
    Accounted (entries.insert id { e with leases := e.leases - 1 }) after where
  balanced := by
    intro d e' he' s hs
    rw [SortedMap.get?_insert] at he'
    split at he'
    · rename_i hd
      subst d
      cases he'
      -- The holder may have lost its last lease and be missing from `s`.
      have hbefore := h.balanced he (s := insert a s) fun b hb => by
        rw [Ledger.count_of_pop hp] at hb
        by_cases hba : b = a
        · exact hba ▸ Finset.mem_insert_self a s
        · rw [if_neg (fun hbd => hba hbd.1)] at hb
          exact Finset.mem_insert_of_mem (hs b hb)
      simp only [Ledger.count_of_pop hp, and_true] at hbefore
      rw [sum_count_add_one _ (Finset.mem_insert_self a s),
        Finset.sum_insert_of_eq_zero_if_notMem] at hbefore
      · simp only [hbefore, Nat.add_sub_cancel]
      · intro ha
        exact Nat.eq_zero_of_not_pos fun hpos => ha (hs a hpos)
    · rename_i hd
      have hsame : ∀ b, ledger.count b d = after.count b d := by
        intro b
        rw [Ledger.count_of_pop hp, if_neg (fun hbd => hd hbd.2), Nat.add_zero]
      simp only [← hsame] at hs ⊢
      exact h.balanced he' hs
  registered := by
    intro b d hpos
    rw [SortedMap.get?_insert]
    split
    · exact ⟨_, rfl⟩
    · apply h.registered
      rw [Ledger.count_of_pop hp]
      exact Nat.add_pos_left hpos _
  pruned := h.pruned.pop hp

theorem adopt (h : Accounted entries ledger) {id : DeviceId} (fresh : entries.get? id = none)
    {e : Entry K H} (hl : e.leases = 0) : Accounted (entries.insert id e) ledger where
  balanced := by
    intro d e' he' s hs
    rw [SortedMap.get?_insert] at he'
    split at he'
    · rename_i hd
      subst d
      cases he'
      rw [hl, eq_comm]
      refine Finset.sum_eq_zero fun a _ => Nat.eq_zero_of_not_pos fun hpos => ?_
      obtain ⟨_, he⟩ := h.registered hpos
      rw [fresh] at he
      cases he
    · exact h.balanced he' hs
  registered := by
    intro a d hpos
    rw [SortedMap.get?_insert]
    split
    · exact ⟨_, rfl⟩
    · exact h.registered hpos
  pruned := h.pruned

theorem forget (h : Accounted entries ledger) {id : DeviceId} {e : Entry K H}
    (he : entries.get? id = some e) (hl : e.leases = 0) :
    Accounted (entries.erase id) ledger where
  balanced := by
    intro d e' he' s hs
    rw [SortedMap.get?_erase] at he'
    split at he'
    · cases he'
    · exact h.balanced he' hs
  registered := by
    intro a d hpos
    rw [SortedMap.get?_erase]
    split
    · rename_i hd
      subst d
      have hle := h.count_le he a
      omega
    · exact h.registered hpos
  pruned := h.pruned

/-- No step in the life of a broker lets the two counts drift apart. -/
theorem change {b c : Broker W K H} (hc : Change cls b c) (h : Accounted b.entries b.ledger) :
    Accounted c.entries c.ledger := by
  cases hc with
  | lease acquirer started registered free => exact h.lease registered acquirer b.now
  | endLease registered busy popped => exact h.endLease registered popped
  | popInVain popped => exact h.pruned.eq_of_pop_none popped ▸ h
  | adopt handle fresh unknown owned permitted => exact h.adopt fresh rfl
  | forget registered idle => exact h.forget registered idle
  | clear => exact empty
  | classes | owners | access | accept | note | world | clock => exact h

theorem changes {b c : Broker W K H} (h : Accounted b.entries b.ledger) (hc : Changes cls b c) :
    Accounted c.entries c.ledger :=
  hc.preserve (P := fun b => Accounted b.entries b.ledger) (fun hc hb => hb.change hc) h

end Accounted

end Broker

namespace Pool
variable {W K H : Type} {cls : DeviceClasses W K H}

theorem Reachable.accounted {p : Pool W K H} (hp : Reachable cls p) :
    Broker.Accounted p.broker.entries p.broker.ledger :=
  hp.preserve (P := fun b => Broker.Accounted b.entries b.ledger) (fun _ _ => .empty)
    (fun hc h => h.change hc)

theorem exists_acquired_iff (b : Broker W K H) (id : DeviceId) :
    (∃ info, b.acquired id = .ok info) ↔ ∃ e, b.entries.get? id = some e ∧ e.leases ≠ 0 := by
  unfold Broker.acquired Broker.entry
  cases b.entries.get? id with
  | none => simp
  | some e => by_cases h0 : e.leases = 0 <;> simp [h0]

/-- The number of leases of a device is the sum of what the ledger has for it. The ledger has no
leases of other devices, no empty stack and no idle acquirer. -/
theorem leases_accounted {p : Pool W K H} (hp : Reachable cls p) :
    (∀ id ∈ p.broker.devices, p.broker.leaseCount id =
      .ok (∑ a ∈ p.broker.ledger.acquirers.toFinset, p.broker.ledger.count a id)) ∧
    (∀ row ∈ p.broker.ledger.acquisitions, row.1.device ∈ p.broker.devices ∧ row.2 ≠ []) ∧
    (p.broker.ledger.acquirers.Nodup ∧
      ∀ a, a ∈ p.broker.ledger.acquirers ↔ ∃ id, 0 < p.broker.ledger.count a id) ∧
    (∀ id, (∃ info, p.broker.acquired id = .ok info) ↔
      ∃ row ∈ p.broker.ledger.acquisitions, row.1.device = id) := by
  have h := hp.accounted
  have hrow : ∀ row ∈ p.broker.ledger.acquisitions,
      0 < p.broker.ledger.count row.1.acquirer row.1.device :=
    fun row hm => h.pruned.count_pos_iff.mpr ⟨row.2, Ledger.mem_acquisitions_iff.mp hm⟩
  refine ⟨?_, ?_, ⟨Ledger.acquirers_nodup _, fun a => h.pruned.mem_acquirers_iff⟩, ?_⟩
  · intro id hid
    obtain ⟨e, he⟩ := SortedMap.mem_keys_iff.mp hid
    simp only [Broker.leaseCount, Broker.entry, he, Except.map, h.balanced_acquirers he]
  · intro row hm
    refine ⟨SortedMap.mem_keys_iff.mpr (h.registered (hrow row hm)), fun hnil => ?_⟩
    exact h.pruned.stack (hnil ▸ Ledger.mem_acquisitions_iff.mp hm)
  · intro id
    rw [exists_acquired_iff]
    constructor
    · rintro ⟨e, he, hl⟩
      obtain ⟨a, ha⟩ := h.exists_holder he hl
      obtain ⟨stack, hs⟩ := h.pruned.count_pos_iff.mp ha
      exact ⟨(⟨a, id⟩, stack), Ledger.mem_acquisitions_iff.mpr hs, rfl⟩
    · rintro ⟨row, hm, rfl⟩
      obtain ⟨e, he⟩ := h.registered (hrow row hm)
      have hle := h.count_le he row.1.acquirer
      have hpos := hrow row hm
      exact ⟨e, he, by omega⟩

end Pool

/-- Two simulated devices that take two leases each. -/
def sharedPhones : DeviceClass := ⟨"phones", .limited 2, .simulated 0 0⟩

/-- A pool in which one of two devices is shared by two acquirers and a third one waits for it. -/
def sharedPool : Pool Bench DeviceClass Handle :=
  let phones := SimulatedFamily.ofDevices [{ id := "A" }, { id := "B" }]
  let world := ({} : Bench).setSimulated 0 0 phones {}
  Pool.run Bench.classes ⟨.start world {}, []⟩
    [.register sharedPhones, .rescan, .tryAcquire {} "ann" 0, .tryAcquire {} "bob" 0,
      .tryAcquire {} "bob" 1, .park "first" { busy := some true } "cid" .endless 0 false]

theorem sharedPool_reachable : Pool.Reachable Bench.classes sharedPool :=
  (Pool.Reachable.start _ _).run _

namespace Pool

theorem leases_accounted_shared :
    "A" ∈ sharedPool.broker.devices ∧ sharedPool.broker.leaseCount "A" =
      .ok (∑ a ∈ sharedPool.broker.ledger.acquirers.toFinset,
        sharedPool.broker.ledger.count a "A") ∧
    sharedPool.broker.ledger.acquirers = ["ann", "bob"] := by
  have hid : "A" ∈ sharedPool.broker.devices := by decide +kernel
  exact ⟨hid, (leases_accounted sharedPool_reachable).1 "A" hid, by decide +kernel⟩

end Pool

end LeaseBroker
