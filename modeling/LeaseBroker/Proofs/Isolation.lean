import LeaseBroker.Proofs.AuditLog
import LeaseBroker.Proofs.Reconciliation

/-!
# Acquirers are isolated

The leases of all acquirers share the counters of the devices and one ledger, in which what is
empty is dropped. Still an acquirer only ever sees the leases of its own name: what is done under
another name leaves all that the ledger has for it alone, and its leases end by what is done under
its own name or by what is meant to end leases of others.
-/

set_option autoImplicit false

namespace LeaseBroker

/-! ### The ledger -/

namespace Ledger
variable {ledger after : Ledger} {a b : Acquirer} {d e : DeviceId}

theorem since_congr (h : after.held.get? a = ledger.held.get? a) (d : DeviceId) :
    after.since a d = ledger.since a d := by
  rw [since, since, heldBy, heldBy, h]

theorem setStack_held_of_ne (ledger : Ledger) (h : a ≠ b) (d : DeviceId) (stack : List Moment) :
    (ledger.setStack b d stack).held.get? a = ledger.held.get? a := by
  simp only [setStack, SortedMap.get?_set]
  exact if_neg h

theorem record_held_of_ne (ledger : Ledger) (h : a ≠ b) (d : DeviceId) (now : Moment) :
    (ledger.record b d now).held.get? a = ledger.held.get? a := by
  rw [record_eq_setStack]
  exact setStack_held_of_ne ledger h d _

theorem pop_held_of_ne (h : a ≠ b) {t : Moment} (hp : ledger.pop b d = (some t, after)) :
    after.held.get? a = ledger.held.get? a := by
  obtain ⟨older, _, rfl⟩ := pop_eq_some hp
  exact setStack_held_of_ne ledger h d older

theorem since_record_grows (ledger : Ledger) (a b : Acquirer) (d e : DeviceId) (now : Moment) :
    ledger.since a d <+: (ledger.record b e now).since a d := by
  rw [record_eq_setStack, since_setStack]
  split
  · rename_i hsame
    rw [hsame.1, hsame.2]
    exact List.prefix_append _ _
  · exact List.prefix_refl _

end Ledger

namespace Broker
variable {W K H : Type} {cls : DeviceClasses W K H} {b c : Broker W K H} {a other : Acquirer}
  {id d : DeviceId}

/-! ### What is done under another name -/

theorem lease_held_of_ne (h : a ≠ other) (criteria : Criteria) (started : Moment) (pick : Nat) :
    (b.lease cls criteria other started pick).2.ledger.held.get? a = b.ledger.held.get? a := by
  rcases lease_cases cls b criteria other started pick with
    ⟨_, hl⟩ | ⟨_, _, hl⟩ | ⟨id, e, _, _, _, hl⟩ <;> rw [hl]
  exact Ledger.record_held_of_ne b.ledger h id b.now

theorem poll_held_of_ne {w : Waiter} (h : a ≠ w.acquirer) (pick : Nat) (giveUpFirst : Bool) :
    (w.poll cls b pick giveUpFirst).2.2.ledger.held.get? a = b.ledger.held.get? a := by
  rcases w.poll_cases cls b pick giveUpFirst with
    ⟨_, hp, _⟩ | ⟨_, _, _, _, hp⟩ | ⟨id, e, _, _, _, hp⟩ <;> rw [hp]
  exact Ledger.record_held_of_ne b.ledger h id b.now

theorem endLease_pruned (hb : b.ledger.Pruned) (id : DeviceId) (acquirer : Option Acquirer) :
    (b.endLease id acquirer).2.ledger.Pruned := by
  rcases endLease_cases b id acquirer with
    ⟨_, hr⟩ | ⟨_, _, _, hp, hr⟩ | ⟨_, _, _, _, _, _, _, hp, hr⟩ <;> rw [hr]
  · exact hb
  · rw [hb.eq_of_pop_none hp]
    exact hb
  · exact hb.pop hp

theorem endLease_held_of_ne (hb : b.ledger.Pruned) (h : a ≠ other) (id : DeviceId) :
    (b.endLease id (some other)).2.ledger.held.get? a = b.ledger.held.get? a := by
  rcases endLease_cases b id (some other) with
    ⟨_, hr⟩ | ⟨_, _, _, hp, hr⟩ | ⟨_, holder, _, _, _, _, hholder, hp, hr⟩ <;> rw [hr]
  · rw [hb.eq_of_pop_none hp]
  · obtain rfl : other = holder := Option.some.inj hholder
    exact Ledger.pop_held_of_ne h hp

theorem releaseAll_held_of_ne (hb : b.ledger.Pruned) (h : a ≠ other) :
    (b.releaseAll other).2.ledger.held.get? a = b.ledger.held.get? a := by
  -- The ledger stays pruned on the way, so that a pop in vain changes nothing.
  have hboth := releaseAll_preserve other (b := b)
    (P := fun c => c.ledger.Pruned ∧ c.ledger.held.get? a = b.ledger.held.get? a)
    (fun c id hc => ⟨endLease_pruned hc.1 id (some other),
      (endLease_held_of_ne hc.1 h id).trans hc.2⟩) ⟨hb, rfl⟩
  exact hboth.2

/-! ### Releasing a lease of one's own -/

/-- Whether two brokers differ in the newest lease of an acquirer on a device, which has ended, and
in nothing else that concerns leases. -/
structure OneReleased (b : Broker W K H) (a : Acquirer) (d : DeviceId) (c : Broker W K H) :
    Prop where
  newest : ∃ t, b.ledger.since a d = c.ledger.since a d ++ [t]
  others : ∀ {x : Acquirer} {i : DeviceId}, ¬ (x = a ∧ i = d) →
    c.ledger.since x i = b.ledger.since x i
  counted : ∃ n, b.leaseCount d = .ok (n + 1) ∧ c.leaseCount d = .ok n
  elsewhere : ∀ {i : DeviceId}, i ≠ d → c.entries.get? i = b.entries.get? i

theorem unleased_oneReleased {e : Entry K H} {since : Moment} {ledger : Ledger}
    (he : b.entries.get? d = some e) (busy : e.leases ≠ 0)
    (hp : b.ledger.pop a d = (some since, ledger)) :
    b.OneReleased a d (b.unleased d e a since ledger) := by
  obtain ⟨older, hsince, rfl⟩ := Ledger.pop_eq_some hp
  have hstacks : ∀ x i, (b.ledger.setStack a d older).since x i =
      if x = a ∧ i = d then older else b.ledger.since x i :=
    fun x i => b.ledger.since_setStack a x d i older
  refine ⟨⟨since, ?_⟩, ?_, ⟨e.leases - 1, ?_, ?_⟩, ?_⟩
  · exact hsince.trans (congrArg (· ++ [since]) ((hstacks a d).trans (if_pos ⟨rfl, rfl⟩)).symm)
  · exact fun hne => (hstacks _ _).trans (if_neg hne)
  · have hleases : e.leases = e.leases - 1 + 1 := by omega
    simp only [leaseCount, entry, he, Except.map]
    rw [← hleases]
  · have hentry : (b.unleased d e a since (b.ledger.setStack a d older)).entries.get? d =
        some { e with leases := e.leases - 1 } := SortedMap.get?_insert_self _ _ _
    simp only [leaseCount, entry, hentry, Except.map]
  · exact fun hi => SortedMap.get?_insert_of_ne _ _ hi

theorem holder_of_endLease (h : (b.endLease id (some other)).1 = .ok a) : other = a := by
  rcases endLease_cases b id (some other) with
    ⟨_, hr⟩ | ⟨_, _, _, _, hr⟩ | ⟨_, holder, _, _, _, _, hholder, _, hr⟩ <;>
    rw [hr] at h <;> cases h
  exact Option.some.inj hholder

theorem release_fst (b : Broker W K H) (id : DeviceId) (acquirer : Acquirer) :
    (b.release id acquirer).1 = (b.endLease id (some acquirer)).1.map fun _ => () := by
  unfold release
  split <;> rename_i h <;> rw [h] <;> rfl

theorem release_oneReleased (h : (b.release d a).1 = .ok ()) :
    b.OneReleased a d (b.release d a).2 := by
  rw [release_fst] at h
  rw [release_snd]
  rcases endLease_cases b d (some a) with
    ⟨_, hr⟩ | ⟨_, _, _, _, hr⟩ | ⟨e, holder, since, ledger, he, busy, hholder, hp, hr⟩ <;>
    rw [hr] at h ⊢
  · cases h
  · cases h
  · obtain rfl : a = holder := Option.some.inj hholder
    exact unleased_oneReleased he busy hp

/-- Nobody can release the lease of somebody else, and everybody can release their own. -/
theorem Accounted.release_ok_iff (hb : Accounted b.entries b.ledger) :
    (b.release d a).1 = .ok () ↔ d ∈ b.devices ∧ 0 < b.ledger.count a d := by
  constructor
  · intro h
    obtain ⟨⟨t, hsince⟩, _, ⟨n, hcount, _⟩, _⟩ := release_oneReleased h
    have hpos : 0 < b.ledger.count a d := by
      rw [Ledger.count, hsince, List.length_append, List.length_singleton]
      omega
    exact ⟨mem_devices_iff.mpr (hb.registered hpos), hpos⟩
  · rintro ⟨_, hpos⟩
    obtain ⟨c, hc, _⟩ := hb.endLease_ok (some a) rfl hpos
    rw [release_fst, hc]
    rfl

/-! ### Leases that go on -/

theorem endLease_since_grows (hb : b.ledger.Pruned) {acquirer : Option Acquirer}
    (h : ¬ (id = d ∧ (b.endLease id acquirer).1 = .ok a)) :
    b.ledger.since a d <+: (b.endLease id acquirer).2.ledger.since a d := by
  rcases endLease_cases b id acquirer with
    ⟨_, hr⟩ | ⟨_, _, _, hp, hr⟩ | ⟨_, holder, _, ledger, _, _, _, hp, hr⟩ <;> rw [hr] at h ⊢
  · rw [hb.eq_of_pop_none hp]
  · obtain ⟨older, _, rfl⟩ := Ledger.pop_eq_some hp
    have hother : ¬ (a = holder ∧ d = id) := by
      rintro ⟨rfl, rfl⟩
      exact h ⟨rfl, rfl⟩
    have hsame : (b.ledger.setStack holder id older).since a d = b.ledger.since a d :=
      (b.ledger.since_setStack _ _ _ _ _).trans (if_neg hother)
    exact hsame ▸ List.prefix_refl _

theorem lease_since_grows (criteria : Criteria) (acquirer : Acquirer) (started : Moment)
    (pick : Nat) :
    b.ledger.since a d <+: (b.lease cls criteria acquirer started pick).2.ledger.since a d := by
  rcases lease_cases cls b criteria acquirer started pick with
    ⟨_, hl⟩ | ⟨_, _, hl⟩ | ⟨id, e, _, _, _, hl⟩ <;> rw [hl]
  exact b.ledger.since_record_grows a acquirer d id b.now

theorem poll_since_grows (w : Waiter) (pick : Nat) (giveUpFirst : Bool) :
    b.ledger.since a d <+: (w.poll cls b pick giveUpFirst).2.2.ledger.since a d := by
  rcases w.poll_cases cls b pick giveUpFirst with
    ⟨_, hp, _⟩ | ⟨_, _, _, _, hp⟩ | ⟨id, e, _, _, _, hp⟩ <;> rw [hp]
  exact b.ledger.since_record_grows a w.acquirer d id b.now

namespace Accounted
variable (hb : Accounted b.entries b.ledger)
include hb

theorem since_eq_nil {e : Entry K H} (he : b.entries.get? d = some e) (idle : e.leases = 0) :
    b.ledger.since a d = [] := by
  have hle := hb.count_le he a
  rw [idle, Nat.le_zero, Ledger.count, List.length_eq_zero_iff] at hle
  exact hle

theorem remove_since_grows {force : Bool} (h : ¬ (id = d ∧ force = true)) :
    b.ledger.since a d <+: (b.remove cls id force).2.ledger.since a d := by
  rcases hb.remove_spec cls id force with
    ⟨r, hr⟩ | ⟨e, c, he, hforce, hr, _, hsame, _⟩ <;> rw [hr]
  by_cases hid : d = id
  · -- Without force the device is idle, so there is no lease of it that could end.
    subst hid
    have hidle : e.leases = 0 := hforce.resolve_right fun hforced => h ⟨rfl, hforced⟩
    rw [hb.since_eq_nil he hidle]
    exact List.nil_prefix
  · have hsince : c.ledger.since a d = b.ledger.since a d := hsame.since hid
    exact hsince ▸ List.prefix_refl _

theorem rescan_since_grows (h : d ∉ (b.rescan cls).1.forgot) :
    b.ledger.since a d <+: (b.rescan cls).2.ledger.since a d := by
  by_cases hnil : b.ledger.since a d = []
  · rw [hnil]
    exact List.nil_prefix
  · have hr := hb.reconciled cls
    have hafter := hb.changes ((b.scan_changes cls).trans (b.rescan_deeds cls).changes)
    have hrow : (⟨⟨a, d⟩, b.ledger.since a d⟩ : Holding × List Moment) ∈
        (b.rescan cls).2.ledger.acquisitions :=
      (hr.rows _).mpr ⟨hb.pruned.mem_acquisitions_iff_since.mpr ⟨hnil, rfl⟩, h⟩
    have hsince : (b.rescan cls).2.ledger.since a d = b.ledger.since a d :=
      (hafter.pruned.mem_acquisitions_iff_since.mp hrow).2
    rw [hsince]

end Accounted

end Broker

namespace Pool
variable {W K H : Type} {cls : DeviceClasses W K H} {p : Pool W K H}

/-- Whether an action is an acquire, a release or a release of everything under a name. -/
def MadeUnder (p : Pool W K H) (name : Acquirer) (action : Action W K) : Prop :=
  p.requester action = some name ∨ (∃ id, action = .release id name) ∨ action = .releaseAll name

theorem step_held_of_ne (hp : Reachable cls p) {a name : Acquirer} (hne : a ≠ name)
    {action : Action W K} (h : p.MadeUnder name action) :
    (p.step cls action).2.broker.ledger.held.get? a = p.broker.ledger.held.get? a := by
  have hpruned := hp.accounted.pruned
  rcases h with hasks | ⟨id, rfl⟩ | rfl
  · cases action with
    | tryAcquire criteria acquirer pick =>
      obtain rfl : acquirer = name := Option.some.inj hasks
      exact Broker.lease_held_of_ne hne criteria _ pick
    | park waiter criteria acquirer patience pick giveUpFirst =>
      obtain rfl : acquirer = name := Option.some.inj hasks
      change (p.park cls _ pick giveUpFirst).2.broker.ledger.held.get? a = _
      rw [park_broker]
      exact Broker.poll_held_of_ne hne pick giveUpFirst
    | poll place pick giveUpFirst =>
      change (p.pollAt cls place pick giveUpFirst).2.broker.ledger.held.get? a = _
      rcases p.pollAt_cases cls place pick giveUpFirst with hnone | ⟨w, hw, _, hbroker⟩
      · rw [hnone]
      · simp only [requester, hw, Option.map_some, Option.some.injEq] at hasks
        rw [hbroker]
        exact Broker.poll_held_of_ne (hasks ▸ hne) pick giveUpFirst
    | _ => cases hasks
  · change (p.notifying _).2.broker.ledger.held.get? a = _
    rw [notifying_broker, Broker.release_snd]
    exact Broker.endLease_held_of_ne hpruned hne id
  · change (p.notifying _).2.broker.ledger.held.get? a = _
    rw [notifying_broker]
    exact Broker.releaseAll_held_of_ne hpruned hne

/-- Whether an action is one of those that may end leases of an acquirer on a device. -/
def MayEnd (cls : DeviceClasses W K H) (a : Acquirer) (d : DeviceId) (p : Pool W K H) :
    Action W K → Prop
  | .release id acquirer => id = d ∧ acquirer = a
  | .releaseAll acquirer => acquirer = a
  | .releaseAny id => id = d ∧ (p.releaseAny id).1 = .ok a
  | .remove id force => id = d ∧ force = true
  | .rescan => d ∈ (p.rescan cls).1.forgot
  | .reset => True
  | _ => False

theorem step_since_grows (hp : Reachable cls p) {a : Acquirer} {d : DeviceId} {action : Action W K}
    (h : ¬ p.MayEnd cls a d action) :
    p.broker.ledger.since a d <+: (p.step cls action).2.broker.ledger.since a d := by
  have hb := hp.accounted
  cases action with
  | register | advance | world => exact List.prefix_refl _
  | cancel name =>
    change _ <+: (p.cancel name).2.broker.ledger.since a d
    rw [cancel_broker]
  | drop name =>
    change _ <+: (p.drop name).2.broker.ledger.since a d
    rw [drop_broker]
  | reset => exact absurd trivial h
  | rescan => exact hb.rescan_since_grows h
  | add id =>
    change _ <+: (p.notifying _).2.broker.ledger.since a d
    rw [notifying_broker, Broker.add_ledger]
  | remove id force =>
    change _ <+: (p.notifying _).2.broker.ledger.since a d
    rw [notifying_broker]
    exact hb.remove_since_grows h
  | enlist list id =>
    change _ <+: (p.broker.enlist list id).2.ledger.since a d
    rw [Broker.enlist_ledger]
  | delist list id =>
    change _ <+: (p.broker.delist list id).2.ledger.since a d
    rw [Broker.delist_ledger]
  | tryAcquire criteria acquirer pick => exact Broker.lease_since_grows criteria acquirer _ pick
  | park name criteria acquirer patience pick giveUpFirst =>
    change _ <+: (p.park cls _ pick giveUpFirst).2.broker.ledger.since a d
    rw [park_broker]
    exact Broker.poll_since_grows _ pick giveUpFirst
  | poll place pick giveUpFirst =>
    change _ <+: (p.pollAt cls place pick giveUpFirst).2.broker.ledger.since a d
    rcases p.pollAt_cases cls place pick giveUpFirst with hnone | ⟨w, _, _, hbroker⟩
    · rw [hnone]
    · rw [hbroker]
      exact Broker.poll_since_grows w pick giveUpFirst
  | release id acquirer =>
    change _ <+: (p.notifying _).2.broker.ledger.since a d
    rw [notifying_broker, Broker.release_snd]
    refine Broker.endLease_since_grows hb.pruned ?_
    rintro ⟨hid, hok⟩
    exact h ⟨hid, Broker.holder_of_endLease hok⟩
  | releaseAny id =>
    change _ <+: (p.notifying _).2.broker.ledger.since a d
    rw [notifying_broker]
    refine Broker.endLease_since_grows hb.pruned ?_
    rintro ⟨hid, hok⟩
    exact h ⟨hid, (p.notifying_fst _).trans hok⟩
  | releaseAll acquirer =>
    change _ <+: (p.notifying _).2.broker.ledger.since a d
    rw [notifying_broker, Ledger.since_congr (Broker.releaseAll_held_of_ne hb.pruned (Ne.symm h))]

/-- Whether no action of a run is one that may end leases of an acquirer on a device. -/
def Spares (cls : DeviceClasses W K H) (a : Acquirer) (d : DeviceId) (p : Pool W K H) :
    List (Action W K) → Prop
  | [] => True
  | action :: rest => ¬ p.MayEnd cls a d action ∧ (p.step cls action).2.Spares cls a d rest

theorem run_since_grows (hp : Reachable cls p) {a : Acquirer} {d : DeviceId}
    {actions : List (Action W K)} (h : p.Spares cls a d actions) :
    p.broker.ledger.since a d <+: (p.run cls actions).broker.ledger.since a d := by
  induction actions generalizing p with
  | nil => exact List.prefix_refl _
  | cons action rest ih =>
    obtain ⟨hfirst, hrest⟩ := h
    exact (step_since_grows hp hfirst).trans (ih (hp.step action) hrest)

/-- What is asked for, released or released as a whole under one name changes nothing that the
ledger has for another. A release is carried out exactly if the device is registered and leased
under that very name, and it ends the newest of these leases and no other. Over any run the leases
of an acquirer on a device go on, with those begun later on top of them, unless the run releases
some under that name or for whoever holds them, removes the device by force, forgets it in a rescan
or resets the broker. -/
theorem acquirers_isolated (hp : Reachable cls p) :
    (∀ {a name : Acquirer} {action : Action W K}, a ≠ name → p.MadeUnder name action →
      (p.step cls action).2.broker.ledger.held.get? a = p.broker.ledger.held.get? a) ∧
    (∀ a d, (p.release d a).1 = .ok () ↔ d ∈ p.broker.devices ∧ 0 < p.broker.ledger.count a d) ∧
    (∀ a d, (p.release d a).1 = .ok () → p.broker.OneReleased a d (p.release d a).2.broker) ∧
    (∀ {a d} {actions : List (Action W K)}, p.Spares cls a d actions →
      p.broker.ledger.since a d <+: (p.run cls actions).broker.ledger.since a d) := by
  refine ⟨fun hne h => step_held_of_ne hp hne h, ?_, ?_, fun h => run_since_grows hp h⟩
  · intro a d
    have hfst : (p.release d a).1 = (p.broker.release d a).1 := p.notifying_fst _
    rw [hfst]
    exact hp.accounted.release_ok_iff
  · intro a d h
    have hfst : (p.release d a).1 = (p.broker.release d a).1 := p.notifying_fst _
    have hsnd : (p.release d a).2.broker = (p.broker.release d a).2 := p.notifying_broker _
    rw [hsnd]
    exact Broker.release_oneReleased (hfst.symm.trans h)

/-- What happens to a shared pool behind the back of one of its two acquirers. -/
def elsewhere : List (Action Bench DeviceClass) :=
  [.releaseAll "bob", .poll 0 0 false, .remove "B" true, .rescan]

theorem acquirers_isolated_shared :
    (sharedPool.step Bench.classes (.releaseAll "bob")).2.broker.ledger.held.get? "ann" =
      sharedPool.broker.ledger.held.get? "ann" ∧
    (sharedPool.release "B" "ann").1 ≠ .ok () ∧
    sharedPool.broker.OneReleased "ann" "A" (sharedPool.release "A" "ann").2.broker ∧
    [0] <+: (sharedPool.run Bench.classes elsewhere).broker.ledger.since "ann" "A" := by
  obtain ⟨hunder, hreleasable, hreleased, hrun⟩ := acquirers_isolated sharedPool_reachable
  have hspares : sharedPool.Spares Bench.classes "ann" "A" elsewhere := by
    have hall : ¬ sharedPool.MayEnd Bench.classes "ann" "A" (.releaseAll "bob") := by
      simp [MayEnd]
    refine ⟨hall, not_false, fun h => ?_, ?_, trivial⟩
    · exact absurd h.1 (by decide)
    · change "A" ∉ _
      decide +kernel
  have hown : (sharedPool.release "A" "ann").1 = .ok () := by
    refine (hreleasable "ann" "A").mpr ⟨?_, ?_⟩ <;> decide +kernel
  have hsince : sharedPool.broker.ledger.since "ann" "A" = [0] := by decide +kernel
  refine ⟨hunder (by decide) (Or.inr (Or.inr rfl)), ?_, hreleased _ _ hown, ?_⟩
  · intro hforeign
    obtain ⟨_, hpos⟩ := (hreleasable "ann" "B").mp hforeign
    exact absurd hpos (by decide +kernel)
  · rw [← hsince]
    exact hrun hspares

end Pool

end LeaseBroker
