import LeaseBroker.Proofs.Accounting
import LeaseBroker.Proofs.Adoptions

/-!
# The log balances

Every lease is opened by one event of the log and closed by at most one other, both of which name
its device and its acquirer. So for every pair of these the events since the last reset tell how
many leases are outstanding. Classes write to the same log, and nothing of this holds if one of
them writes events about leases.
-/

set_option autoImplicit false

namespace LeaseBroker

namespace Notice

def opens (holding : Holding) : Notice → Bool
  | .acquired device acquirer _ => holding.acquirer = acquirer ∧ holding.device = device
  | _ => false

def closes (holding : Holding) : Notice → Bool
  | .released device acquirer _ => holding.acquirer = acquirer ∧ holding.device = device
  | _ => false

variable {notice : Notice} (quiet : ¬ notice.AboutLease) (holding : Holding)
include quiet

theorem opens_of_quiet : notice.opens holding = false := by
  cases notice with
  | acquired => exact absurd trivial quiet
  | _ => rfl

theorem closes_of_quiet : notice.closes holding = false := by
  cases notice with
  | released => exact absurd trivial quiet
  | _ => rfl

end Notice

/-- How many leases of an acquirer on a device the rows of the ledger show. -/
def Ledger.listed (ledger : Ledger) (holding : Holding) : Nat :=
  (ledger.acquisitions.map fun row => if row.1 = holding then row.2.length else 0).sum

theorem Ledger.listed_eq_count (ledger : Ledger) (holding : Holding) :
    ledger.listed holding = ledger.count holding.acquirer holding.device := by
  obtain ⟨a, d⟩ := holding
  -- Only the acquirer's own stacks count, and of these only the one of the device.
  have hrows : ∀ row : Acquirer × Stacks,
      ((row.2.toList.map fun stack => ((⟨row.1, stack.1⟩ : Holding), stack.2)).map fun row =>
        if row.1 = ⟨a, d⟩ then row.2.length else 0).sum =
      if row.1 = a then ((row.2.get? d).getD []).length else 0 := by
    intro row
    simp only [List.map_map, Function.comp_def, Holding.mk.injEq]
    by_cases ha : row.1 = a
    · simp only [ha, true_and, if_true]
      rw [SortedMap.sum_at_key row.2 d List.length]
      cases row.2.get? d <;> rfl
    · simp [ha]
  rw [listed, acquisitions, List.map_flatMap, List.flatMap_def, List.sum_flatten, List.map_map]
  simp only [Function.comp_def, hrows]
  rw [SortedMap.sum_at_key ledger.held a fun devices => ((devices.get? d).getD []).length, count,
    since, heldBy]
  cases ledger.held.get? a <;> rfl

structure DeviceClasses.Discreet {W K H : Type} (cls : DeviceClasses W K H) : Prop where
  rescan : ∀ k w, ∀ notice ∈ (cls.rescan k w).notices, ¬ notice.AboutLease
  adopt : ∀ k id w, ∀ notice ∈ (cls.adopt k id w).notices, ¬ notice.AboutLease
  abandon : ∀ k info handle w, ∀ notice ∈ (cls.abandon k info handle w).notices,
    ¬ notice.AboutLease

/-! ### The built-in families are discreet -/

namespace SerialFamily

theorem quiet_of_notices {s : SerialFamily} {name : String} {notice : Notice}
    (h : notice ∈ s.notices name) : ¬ notice.AboutLease := by
  unfold notices at h
  split at h
  · rw [List.mem_singleton.mp h]
    exact not_false
  · cases h

end SerialFamily

namespace ScriptedFamily
variable (s : ScriptedFamily) {notice : Notice}

theorem rescan_notices : s.rescan.notices = [] := by
  unfold rescan
  split <;> rfl

theorem adopt_notices (id : DeviceId) : (s.adopt id).notices = [] := by
  unfold adopt
  dsimp only
  split <;> rfl

theorem abandon_notices (info : DeviceInfo) (handle : Handle) :
    (s.abandon info handle).notices = [] := by
  unfold abandon
  dsimp only
  split <;> rfl

end ScriptedFamily

namespace Bench

theorem quiet_of_serialNotices {k : DeviceClass} {id : DeviceId}
    {answer : Except SerialFault (Handle × DeviceInfo)} {notice : Notice}
    (h : notice ∈ serialNotices k id answer) : ¬ notice.AboutLease := by
  unfold serialNotices at h
  split at h
  · rw [List.mem_singleton.mp h]
    exact not_false
  · cases h

theorem classes_discreet : classes.Discreet where
  rescan := by
    rintro ⟨name, capacity, family⟩ w notice h
    cases family with
    | simulated slot plan =>
      obtain ⟨_, _, _, hr⟩ := (w.simulatedAt slot).rescan_cases (w.planAt plan)
      simp only [classes, rescan, hr] at h
      cases h
    | serial slot directory => exact SerialFamily.quiet_of_notices h
    | scripted slot =>
      simp only [classes, rescan, ScriptedFamily.rescan_notices] at h
      cases h
  adopt := by
    rintro ⟨name, capacity, family⟩ id w notice h
    cases family with
    | simulated slot plan =>
      rcases (w.simulatedAt slot).adopt_cases (w.planAt plan) name id with
        ⟨_, _, _, hr⟩ | ⟨_, _, _, hr⟩ <;> simp only [classes, adopt, hr] at h
      · cases h
      · rw [List.mem_singleton.mp h]
        exact not_false
    | serial slot directory =>
      rcases List.mem_append.mp h with h | h
      · exact SerialFamily.quiet_of_notices h
      · exact quiet_of_serialNotices h
    | scripted slot =>
      simp only [classes, adopt, ScriptedFamily.adopt_notices] at h
      cases h
  abandon := by
    rintro ⟨name, capacity, family⟩ info handle w notice h
    cases family with
    | simulated slot plan =>
      rcases (w.simulatedAt slot).abandon_cases (w.planAt plan) name info handle with
        ⟨_, _, _, _, _, _, _, hnotices, hr⟩ | ⟨_, _, hr⟩ <;> simp only [classes, abandon, hr] at h
      · rw [List.mem_singleton.mp (hnotices h)]
        exact not_false
      · cases h
    | serial slot directory => cases h
    | scripted slot =>
      simp only [classes, abandon, ScriptedFamily.abandon_notices] at h
      cases h

end Bench

/-! ### Balance -/

namespace Broker
variable {W K H : Type} {cls : DeviceClasses W K H} {b c : Broker W K H} {base : List Notice}

/-- For every acquirer and every device, as many leases have been opened since the log was `base`
as have been closed since then or are outstanding. -/
structure Balanced (base : List Notice) (b : Broker W K H) : Prop where
  balanced : ∃ recent, b.log = recent ++ base ∧ ∀ holding : Holding,
    recent.countP (·.opens holding) = recent.countP (·.closes holding) +
      b.ledger.count holding.acquirer holding.device

namespace Balanced

theorem start (h : ∀ a id, b.ledger.count a id = 0) : Balanced b.log b :=
  ⟨[], rfl, fun _ => by simp [h]⟩

theorem quiet (h : Balanced base b) {events : List Notice} (hlog : c.log = events ++ b.log)
    (hledger : c.ledger = b.ledger) (hquiet : ∀ notice ∈ events, ¬ notice.AboutLease) :
    Balanced base c := by
  obtain ⟨recent, hrecent, hbalance⟩ := h.balanced
  refine ⟨events ++ recent, by rw [hlog, hrecent, List.append_assoc], fun holding => ?_⟩
  have hopens : events.countP (·.opens holding) = 0 := List.countP_eq_zero.mpr fun notice hn => by
    simp [Notice.opens_of_quiet (hquiet notice hn)]
  have hcloses : events.countP (·.closes holding) = 0 :=
    List.countP_eq_zero.mpr fun notice hn => by simp [Notice.closes_of_quiet (hquiet notice hn)]
  rw [List.countP_append, List.countP_append, hopens, hcloses, hledger]
  simpa using hbalance holding

theorem note (h : Balanced base b) {notice : Notice} (hquiet : ¬ notice.AboutLease) :
    Balanced base (b.note notice) := by
  have hlog : (b.note notice).log = [notice] ++ b.log := rfl
  exact h.quiet hlog rfl (by simpa using hquiet)

theorem accept {α : Type} (h : Balanced base b) {reply : Reply W α}
    (hquiet : ∀ notice ∈ reply.notices, ¬ notice.AboutLease) : Balanced base (b.accept reply) :=
  h.quiet rfl rfl fun notice hn => hquiet notice (List.mem_reverse.mp hn)

theorem abandon (h : Balanced base b) (hcls : cls.Discreet) (id : DeviceId) (k : K)
    (info : DeviceInfo) (handle : H) : Balanced base (b.abandon cls id k info handle) := by
  have hreply := h.accept (hcls.abandon k info handle b.world)
  rcases abandon_cases cls b id k info handle with ha | ⟨_, _, ha⟩ <;> rw [ha]
  · exact hreply
  · exact hreply.note not_false

theorem lease (h : Balanced base b) (id : DeviceId) (e : Entry K H) (acquirer : Acquirer)
    (started : Moment) : Balanced base (b.leased id e acquirer started) := by
  obtain ⟨recent, hrecent, hbalance⟩ := h.balanced
  refine ⟨.acquired id acquirer (b.now - started) :: recent, ?_, fun holding => ?_⟩
  · rw [List.cons_append, ← hrecent]
    rfl
  · have hcount : (b.leased id e acquirer started).ledger.count holding.acquirer holding.device =
        b.ledger.count holding.acquirer holding.device +
          if holding.acquirer = acquirer ∧ holding.device = id then 1 else 0 :=
      Ledger.count_record _ _ _ _ _ _
    have hopens : (Notice.acquired id acquirer (b.now - started)).opens holding =
        decide (holding.acquirer = acquirer ∧ holding.device = id) := rfl
    have hcloses : (Notice.acquired id acquirer (b.now - started)).closes holding = false := rfl
    have hbefore := hbalance holding
    rw [List.countP_cons, List.countP_cons, hopens, hcloses, hcount]
    simp only [decide_eq_true_eq, Bool.false_eq_true, if_false]
    omega

theorem endLease (h : Balanced base b) {id : DeviceId} {holder : Acquirer} {since : Moment}
    {ledger : Ledger} (popped : b.ledger.pop holder id = (some since, ledger)) (e : Entry K H) :
    Balanced base (b.unleased id e holder since ledger) := by
  obtain ⟨recent, hrecent, hbalance⟩ := h.balanced
  refine ⟨.released id holder (b.now - since) :: recent, ?_, fun holding => ?_⟩
  · rw [List.cons_append, ← hrecent]
    rfl
  · have hcount := Ledger.count_of_pop popped holding.acquirer holding.device
    have hopens : (Notice.released id holder (b.now - since)).opens holding = false := rfl
    have hcloses : (Notice.released id holder (b.now - since)).closes holding =
        decide (holding.acquirer = holder ∧ holding.device = id) := rfl
    have hbefore := hbalance holding
    rw [List.countP_cons, List.countP_cons, hopens, hcloses]
    simp only [decide_eq_true_eq, Bool.false_eq_true, if_false]
    change _ = _ + ledger.count holding.acquirer holding.device
    omega

theorem deed (hcls : cls.Discreet) (hd : Deed cls b c) (hpruned : b.ledger.Pruned)
    (h : Balanced base b) : Balanced base c := by
  cases hd with
  | lease acquirer started registered free => exact h.lease _ _ _ _
  | endLease registered busy popped => exact h.endLease popped _
  | popInVain popped => exact hpruned.eq_of_pop_none popped ▸ h
  | @adopt id k _ _ adoptable given unknown =>
    have hreply := h.accept (hcls.adopt k id b.world)
    exact ⟨hreply.balanced⟩
  | decline => exact h.accept (hcls.adopt _ _ _)
  | reject => exact (h.accept (hcls.adopt _ _ _)).abandon hcls _ _ _ _
  | @forget id e registered idle =>
    have hstruck : Balanced base (b.struckOff id e) := ⟨h.balanced⟩
    exact hstruck.abandon hcls _ _ _ _
  | note quiet => exact h.note quiet
  | access | clock => exact ⟨h.balanced⟩

theorem deeds (hcls : cls.Discreet) (hd : Deeds cls b c) (hb : Accounted b.entries b.ledger)
    (h : Balanced base b) : Balanced base c := by
  -- The accounts come along: a pop in vain leaves a ledger as it is only if that is pruned.
  have hboth := hd.preserve
    (P := fun b => Accounted b.entries b.ledger ∧ Balanced base b)
    (fun hd hb => ⟨hb.1.changes hd.changes, hb.2.deed hcls hd hb.1.pruned⟩) ⟨hb, h⟩
  exact hboth.2

theorem scan (hcls : cls.Discreet) (h : Balanced base b) : Balanced base (b.scan cls) :=
  scan_preserve (P := Balanced base) ⟨h.balanced⟩ (fun _ _ _ h => h.accept (hcls.rescan _ _))
    (fun _ _ _ _ h => ⟨h.balanced⟩) (fun _ _ hquiet h => h.note hquiet)

end Balanced

end Broker

namespace Pool
variable {W K H : Type} {cls : DeviceClasses W K H} {p : Pool W K H}

theorem Reachable.step_balanced (hcls : cls.Discreet) (hp : Reachable cls p) {base : List Notice}
    (h : p.broker.Balanced base) {action : Action W K} (hreset : action ≠ .reset) :
    (p.step cls action).2.broker.Balanced base := by
  have heffect := step_effect cls p action
  generalize (p.step cls action).2.broker = c at heffect ⊢
  cases heffect with
  | register k =>
    have hclasses : Broker.Balanced base { p.broker with classes := p.broker.classes ++ [k] } :=
      ⟨h.balanced⟩
    exact hclasses.note not_false
  | rescan =>
    have hscanned := hp.accounted.changes (p.broker.scan_changes cls)
    exact (h.scan hcls).deeds hcls (p.broker.rescan_deeds cls) hscanned
  | reset => exact absurd rfl hreset
  | world => exact ⟨h.balanced⟩
  | deeds deeds => exact h.deeds hcls deeds hp.accounted

theorem Reachable.run_balanced (hcls : cls.Discreet) (hp : Reachable cls p) {base : List Notice}
    (h : p.broker.Balanced base) {actions : List (Action W K)}
    (hreset : ∀ action ∈ actions, action ≠ .reset) :
    (p.run cls actions).broker.Balanced base := by
  induction actions generalizing p with
  | nil => exact h
  | cons action rest ih =>
    exact ih (hp.step action) (hp.step_balanced hcls h (hreset action List.mem_cons_self))
      fun later hlater => hreset later (List.mem_cons_of_mem action hlater)

variable (cls) in
/-- The pools that no lease has been taken from: those of a new broker and those that have just
been reset. -/
inductive Anew : Pool W K H → Prop where
  | start (world : W) (access : AccessLists) : Anew ⟨.start world access, []⟩
  | reset {p : Pool W K H} (hp : Reachable cls p) : Anew (p.step cls .reset).2

theorem Anew.reachable (hp : Anew cls p) : Reachable cls p := by
  cases hp with
  | start world access => exact .start world access
  | reset hp => exact hp.step .reset

theorem Anew.balanced (hp : Anew cls p) : p.broker.Balanced p.broker.log := by
  cases hp with
  | start | reset => exact .start fun _ _ => rfl

/-! ### Leases handed out -/

def requester (p : Pool W K H) : Action W K → Option Acquirer
  | .tryAcquire _ acquirer _ => some acquirer
  | .park _ _ acquirer _ _ _ => some acquirer
  | .poll place _ _ => p.waiting[place]?.map (·.acquirer)
  | _ => none

theorem ok_of_leased {α : Type} {f : α → Answer} {result : Except Refusal α} {id : DeviceId}
    (h : Answer.ofResult f result = .leased id) : ∃ a, result = .ok a ∧ f a = .leased id := by
  cases result with
  | ok a => exact ⟨a, rfl, h⟩
  | error r => cases h

theorem leased_of_poll {w : Waiter} {b : Broker W K H} {pick : Nat} {giveUpFirst : Bool}
    {id : DeviceId} (h : Answer.ofPoll (w.poll cls b pick giveUpFirst).1 = .leased id) :
    ∃ e, b.entries.get? id = some e ∧
      (w.poll cls b pick giveUpFirst).2.2 = b.leased id e w.acquirer w.started := by
  rcases w.poll_cases cls b pick giveUpFirst with
    ⟨_, hp, _⟩ | ⟨_, _, _, _, hp⟩ | ⟨_, _, _, he, _, hp⟩ <;> rw [hp] at h ⊢ <;> cases h
  exact ⟨_, he, rfl⟩

/-- A lease that is handed out is all that has happened, and it is that of whoever asked for it. -/
theorem leased_of_step {action : Action W K} {id : DeviceId}
    (h : (p.step cls action).1 = .leased id) :
    ∃ acquirer started e, p.requester action = some acquirer ∧
      p.broker.entries.get? id = some e ∧
      (p.step cls action).2.broker = p.broker.leased id e acquirer started := by
  cases action with
  | register | rescan | reset | cancel | drop | advance | world => cases h
  | add | remove | enlist | delist | release | releaseAny | releaseAll =>
    obtain ⟨_, _, hanswer⟩ := ok_of_leased h
    cases hanswer
  | tryAcquire criteria acquirer pick =>
    obtain ⟨_, hok, hanswer⟩ := ok_of_leased h
    cases hanswer
    change (p.broker.lease cls criteria acquirer p.broker.now pick).1 = .ok id at hok
    rcases p.broker.lease_cases cls criteria acquirer p.broker.now pick with
      ⟨_, hl⟩ | ⟨_, _, hl⟩ | ⟨_, e, _, he, _, hl⟩
    · rw [hl] at hok
      cases hok
    · rw [hl] at hok
      cases hok
    · rw [hl] at hok
      cases hok
      exact ⟨acquirer, p.broker.now, e, rfl, he, congrArg Prod.snd hl⟩
  | park name criteria acquirer patience pick giveUpFirst =>
    change Answer.ofPoll (p.park cls _ pick giveUpFirst).1 = _ at h
    rw [park_fst] at h
    obtain ⟨e, he, hp⟩ := leased_of_poll h
    exact ⟨acquirer, p.broker.now, e, rfl, he, (p.park_broker cls _ pick giveUpFirst).trans hp⟩
  | poll place pick giveUpFirst =>
    change (p.pollAt cls place pick giveUpFirst).1 = _ at h
    rcases p.pollAt_cases cls place pick giveUpFirst with hnone | ⟨w, hw, hanswer, hbroker⟩
    · rw [hnone] at h
      cases h
    · obtain ⟨e, he, hp⟩ := leased_of_poll (hanswer.symm.trans h)
      exact ⟨w.acquirer, w.started, e, congrArg (Option.map _) hw, he, hbroker.trans hp⟩

theorem step_leased {action : Action W K} {id : DeviceId}
    (h : (p.step cls action).1 = .leased id) :
    ∃ acquirer waited, p.requester action = some acquirer ∧
      (p.step cls action).2.broker.log = .acquired id acquirer waited :: p.broker.log := by
  obtain ⟨acquirer, started, e, hasks, _, hleased⟩ := leased_of_step h
  refine ⟨acquirer, p.broker.now - started, hasks, ?_⟩
  rw [hleased]
  rfl

/-- After any actions without a reset, the leases that the events since then have opened for an
acquirer and a device are those that they have closed and those that the ledger lists. Every lease
that is handed out, at once or to a waiter, is opened by one event. -/
theorem log_balances (hcls : cls.Discreet) (hp : Anew cls p) {actions : List (Action W K)}
    (hreset : ∀ action ∈ actions, action ≠ .reset) :
    (∃ recent, (p.run cls actions).broker.log = recent ++ p.broker.log ∧ ∀ holding : Holding,
      (recent.countP (·.opens holding) : Int) - recent.countP (·.closes holding) =
        (p.run cls actions).broker.ledger.listed holding) ∧
    (∀ action id, ((p.run cls actions).step cls action).1 = .leased id →
      ∃ acquirer waited, (p.run cls actions).requester action = some acquirer ∧
        ((p.run cls actions).step cls action).2.broker.log =
          .acquired id acquirer waited :: (p.run cls actions).broker.log) := by
  refine ⟨?_, fun action id h => step_leased h⟩
  obtain ⟨recent, hlog, hbalance⟩ :=
    (hp.reachable.run_balanced hcls hp.balanced hreset).balanced
  refine ⟨recent, hlog, fun holding => ?_⟩
  have hcount := hbalance holding
  rw [Ledger.listed_eq_count]
  omega

/-- A broker that knows nothing of the two devices that are plugged in. -/
def unscanned : Pool Bench DeviceClass Handle :=
  let phones := SimulatedFamily.ofDevices [{ id := "A" }, { id := "B" }]
  ⟨.start (({} : Bench).setSimulated 0 0 phones {}) {}, []⟩

theorem unscanned_anew : Anew Bench.classes unscanned := .start _ _

/-- What clients do with two shared devices. A waiter is served, and the leases of the first device
end by a release for whoever holds it and by force. -/
def handovers : List (Action Bench DeviceClass) :=
  [.register sharedPhones, .rescan, .tryAcquire {} "ann" 0, .tryAcquire {} "bob" 0,
    .tryAcquire {} "bob" 0, .tryAcquire {} "bob" 0, .park "first" {} "cid" .endless 0 false,
    .releaseAny "A", .poll 0 0 false, .remove "A" true]

theorem log_balances_handovers :
    (∃ recent, (unscanned.run Bench.classes handovers).broker.log =
        recent ++ unscanned.broker.log ∧ ∀ holding : Holding,
      (recent.countP (·.opens holding) : Int) - recent.countP (·.closes holding) =
        (unscanned.run Bench.classes handovers).broker.ledger.listed holding) ∧
    (∀ acquirer ∈ ["ann", "bob", "cid"],
      (unscanned.run Bench.classes handovers).broker.log.countP (·.closes ⟨acquirer, "A"⟩) = 1) ∧
    (unscanned.run Bench.classes handovers).broker.ledger.listed ⟨"bob", "B"⟩ = 2 := by
  have hreset : ∀ action ∈ handovers, action ≠ .reset := by simp [handovers]
  refine ⟨(log_balances Bench.classes_discreet unscanned_anew hreset).1, ?_, ?_⟩
  · decide +kernel
  · decide +kernel

end Pool

end LeaseBroker
