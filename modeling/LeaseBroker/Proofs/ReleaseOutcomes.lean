import LeaseBroker.Proofs.ByteOrder
import LeaseBroker.Proofs.Releases

/-!
# What a release comes to

A release for an acquirer is refused for one of three reasons, each of which can be read off the
counts of leases. A release for whoever comes first ends the lease of the holder whose name has the
smallest encoding. Releasing what has just been leased restores the registry, since a pop takes back
what recording has done.
-/

set_option autoImplicit false

namespace LeaseBroker

namespace Broker
variable {W K H : Type} {b : Broker W K H} {a : Acquirer} {id : DeviceId} {e : Entry K H}

/-! ### Refusals -/

theorem endLease_of_unknown (he : b.entries.get? id = none) (acquirer : Option Acquirer) :
    b.endLease id acquirer = (.error (.unknownDevice id), b) := by
  simp only [endLease, he]

theorem endLease_of_idle (he : b.entries.get? id = some e) (idle : e.leases = 0)
    (acquirer : Option Acquirer) :
    b.endLease id acquirer = (.error (.notLeased id none), b) := by
  simp only [endLease, he, if_pos idle]

theorem endLease_of_foreign (hb : b.ledger.Pruned) (he : b.entries.get? id = some e)
    (leased : e.leases ≠ 0) (foreign : b.ledger.count a id = 0) :
    b.endLease id (some a) = (.error (.notLeased id (some a)), b) := by
  have hpop : b.ledger.pop a id = (none, b.ledger) := by
    rcases b.ledger.pop_cases a id with ⟨_, hnone, hsame⟩ | ⟨older, t, hs, _⟩
    · exact Prod.ext hnone (hsame hb)
    · rw [Ledger.count, hs, List.length_append, List.length_singleton] at foreign
      cases foreign
  simp only [endLease, he, if_neg leased, Option.orElse_eq_orElse, Option.orElse_some, hpop]

/-- The four outcomes of ending a lease. Only a release that names an acquirer can name the wrong
one. -/
theorem Accounted.endLease_cases (h : Accounted b.entries b.ledger) (id : DeviceId)
    (acquirer : Option Acquirer) :
    (b.entries.get? id = none ∧ b.endLease id acquirer = (.error (.unknownDevice id), b)) ∨
    (∃ e, b.entries.get? id = some e ∧ e.leases = 0 ∧
      b.endLease id acquirer = (.error (.notLeased id none), b)) ∨
    (∃ e a, b.entries.get? id = some e ∧ 0 < e.leases ∧ acquirer = some a ∧
      b.ledger.count a id = 0 ∧ b.endLease id acquirer = (.error (.notLeased id (some a)), b)) ∨
    (∃ e holder c, b.entries.get? id = some e ∧ 0 < e.leases ∧
      (acquirer <|> b.ledger.holderOf? id) = some holder ∧ 0 < b.ledger.count holder id ∧
      b.endLease id acquirer = (.ok holder, c) ∧ Released b [⟨holder, id⟩] c) := by
  cases he : b.entries.get? id with
  | none => exact Or.inl ⟨rfl, endLease_of_unknown he acquirer⟩
  | some e =>
    by_cases idle : e.leases = 0
    · exact Or.inr (Or.inl ⟨e, rfl, idle, endLease_of_idle he idle acquirer⟩)
    have leased : 0 < e.leases := Nat.pos_of_ne_zero idle
    right
    right
    cases acquirer with
    | none =>
      obtain ⟨a, ha⟩ := h.exists_holder he idle
      obtain ⟨holder, hholder⟩ := h.pruned.exists_holderOf? ha
      have hpos := h.pruned.count_pos_of_holderOf? hholder
      obtain ⟨c, hend, hreleased, _⟩ := h.endLease_released none hholder hpos
      exact Or.inr ⟨e, holder, c, rfl, leased, hholder, hpos, hend, hreleased⟩
    | some a =>
      rcases Nat.eq_zero_or_pos (b.ledger.count a id) with foreign | hpos
      · exact Or.inl ⟨e, a, rfl, leased, rfl, foreign, endLease_of_foreign h.pruned he idle foreign⟩
      · obtain ⟨c, hend, hreleased, _⟩ := h.endLease_released (some a) rfl hpos
        exact Or.inr ⟨e, a, c, rfl, leased, rfl, hpos, hend, hreleased⟩

/-! ### Taking back -/

theorem Accounted.release_leased (h : Accounted b.entries b.ledger)
    (he : b.entries.get? id = some e) (a : Acquirer) (started : Moment) :
    ∃ c, (b.leased id e a started).release id a = (.ok (), c) ∧ c.toRegistry = b.toRegistry := by
  have hentry : (b.leased id e a started).entries.get? id =
      some { e with leases := e.leases + 1 } := SortedMap.get?_insert_self _ _ _
  have hpop : (b.leased id e a started).ledger.pop a id = (some b.now, b.ledger) :=
    h.pruned.pop_record a id b.now
  have hend : (b.leased id e a started).endLease id (some a) = _ :=
    endLease_of_popped hentry (Nat.succ_ne_zero _) rfl hpop
  have hentries : (b.entries.insert id { e with leases := e.leases + 1 }).insert id e =
      b.entries := by
    apply SortedMap.ext_get?
    intro i
    rw [SortedMap.get?_insert, SortedMap.get?_insert]
    split
    · rename_i hi
      rw [hi, he]
    · rfl
  refine ⟨_, by simp only [release, hend]; rfl, ?_⟩
  change { b.toRegistry with
    entries := (b.entries.insert id { e with leases := e.leases + 1 }).insert id e } = b.toRegistry
  rw [hentries]

/-! ### What is told -/

/-- Which of the four outcomes a release for an acquirer has, by what the counts of leases say. -/
structure ReleaseTold (b : Broker W K H) (id : DeviceId) (a : Acquirer)
    (result : Except Refusal Unit) : Prop where
  unknown : result = .error (.unknownDevice id) ↔ id ∉ b.devices
  idle : result = .error (.notLeased id none) ↔ b.leaseCount id = .ok 0
  foreign : result = .error (.notLeased id (some a)) ↔
    (∃ n, 0 < n ∧ b.leaseCount id = .ok n) ∧ b.ledger.count a id = 0
  ended : result = .ok () ↔
    id ∈ b.devices ∧ b.leaseCount id ≠ .ok 0 ∧ b.ledger.count a id ≠ 0

theorem Accounted.releaseTold (h : Accounted b.entries b.ledger) (id : DeviceId) (a : Acquirer) :
    ReleaseTold b id a (b.release id a).1 := by
  rw [release_fst]
  rcases h.endLease_cases id (some a) with
    ⟨he, hr⟩ | ⟨e, he, idle, hr⟩ | ⟨e, _, he, leased, hasked, foreign, hr⟩ |
    ⟨e, holder, c, he, leased, hasked, hpos, hr, _⟩
  · constructor <;> simp [hr, Except.map, mem_devices_iff, leaseCount_eq_ok_iff, he]
  · constructor <;> simp [hr, Except.map, mem_devices_iff, leaseCount_eq_ok_iff, he, idle]
  · cases hasked
    have hne := Nat.ne_of_gt leased
    constructor <;>
      simp [hr, Except.map, mem_devices_iff, leaseCount_eq_ok_iff, he, leased, hne, foreign]
  · cases hasked
    have hne := Nat.ne_of_gt leased
    have hcount := Nat.ne_of_gt hpos
    constructor <;>
      simp [hr, Except.map, mem_devices_iff, leaseCount_eq_ok_iff, he, leased, hne, hcount]

structure ReleaseAnyTold (b : Broker W K H) (id : DeviceId) (result : Except Refusal Acquirer)
    (c : Broker W K H) : Prop where
  ok_iff : (∃ holder, result = .ok holder) ↔ ∃ n, 0 < n ∧ b.leaseCount id = .ok n
  held : ∀ {holder}, result = .ok holder → 0 < b.ledger.count holder id
  first : ∀ {holder}, result = .ok holder → ∀ a, 0 < b.ledger.count a id →
    a = holder ∨ Text.bytes holder < Text.bytes a
  released : ∀ {holder}, result = .ok holder → Released b [⟨holder, id⟩] c

theorem Accounted.releaseAnyTold (h : Accounted b.entries b.ledger) (id : DeviceId) :
    ReleaseAnyTold b id (b.releaseAny id).1 (b.releaseAny id).2 := by
  rw [releaseAny]
  rcases h.endLease_cases id none with
    ⟨he, hr⟩ | ⟨e, he, idle, hr⟩ | ⟨_, _, _, _, hasked, _⟩ |
    ⟨e, holder, c, he, leased, hholder, hpos, hr, hreleased⟩
  · rw [hr]
    constructor <;> simp [leaseCount_eq_ok_iff, he]
  · rw [hr]
    constructor <;> simp [leaseCount_eq_ok_iff, he, idle]
  · cases hasked
  · rw [hr]
    refine ⟨?_, ?_, ?_, ?_⟩
    · simp [leaseCount_eq_ok_iff, he, leased]
    · rintro _ ⟨⟩
      exact hpos
    · rintro _ ⟨⟩ a ha
      exact (h.pruned.holderOf?_le hholder ha).imp_right Text.bytes_lt
    · rintro _ ⟨⟩
      exact hreleased

end Broker

namespace Pool
variable {W K H : Type} {cls : DeviceClasses W K H} {p : Pool W K H}

/-- A release for an acquirer says that the device is unknown, that nobody has leased it or that
somebody else has, and ends a lease otherwise. A release for whoever comes first ends a lease of the
holder whose name comes first in the order of bytes, if there is one. Whoever has been handed a
lease, at once or after waiting, can release it, and the registry is what it was before the lease was
asked for. -/
theorem release_outcomes (hp : Reachable cls p) :
    (∀ id a, p.broker.ReleaseTold id a (p.release id a).1) ∧
    (∀ id, p.broker.ReleaseAnyTold id (p.releaseAny id).1 (p.releaseAny id).2.broker) ∧
    (∀ actions, p.InVain cls actions → ∀ action a id,
      (p.run cls actions).requester action = some a →
      ((p.run cls actions).step cls action).1 = .leased id →
      ∃ after, ((p.run cls actions).step cls action).2.release id a = (.ok (), after) ∧
        after.broker.toRegistry = p.broker.toRegistry) := by
  refine ⟨?_, ?_, ?_⟩
  · intro id a
    rw [release, notifying_fst]
    exact hp.accounted.releaseTold id a
  · intro id
    rw [releaseAny, notifying_fst, notifying_broker]
    exact hp.accounted.releaseAnyTold id
  · intro actions hvain action a id hasks hleased
    obtain ⟨acquirer, started, e, hrequester, he, hbroker⟩ := leased_of_step hleased
    obtain rfl := Option.some.inj (hrequester.symm.trans hasks)
    obtain ⟨c, hc, hsame⟩ := (hp.run actions).accounted.release_leased he acquirer started
    rw [← hbroker] at hc
    exact ⟨_, notifying_of_ok hc, hsame.trans (run_registry hp hvain)⟩

theorem release_outcomes_shared :
    (sharedPool.release "C" "ann").1 = .error (.unknownDevice "C") ∧
    (sharedPool.release "B" "ann").1 = .error (.notLeased "B" (some "ann")) ∧
    (sharedPool.releaseAny "A").1 = .ok "ann" ∧ Text.bytes "ann" < Text.bytes "bob" ∧
    "dan" ∉ sharedPool.broker.ledger.acquirers ∧
    ∃ after, ((sharedPool.run Bench.classes [.advance 5]).step Bench.classes
        (.tryAcquire {} "dan" 0)).2.release "B" "dan" = (.ok (), after) ∧
      after.broker.toRegistry = sharedPool.broker.toRegistry := by
  obtain ⟨hrelease, hany, hback⟩ := release_outcomes sharedPool_reachable
  have hfirst : (sharedPool.releaseAny "A").1 = .ok "ann" := rfl
  refine ⟨(hrelease "C" "ann").unknown.mpr ?_, (hrelease "B" "ann").foreign.mpr ?_, hfirst,
    ((hany "A").first hfirst "bob" ?_).resolve_left ?_, ?_, ?_⟩
  · decide +kernel
  · exact ⟨⟨1, Nat.one_pos, rfl⟩, by decide +kernel⟩
  · decide +kernel
  · decide
  · decide +kernel
  · exact hback [.advance 5] ⟨Or.inl trivial, trivial⟩ (.tryAcquire {} "dan" 0) "dan" "B" rfl rfl

end Pool

end LeaseBroker
