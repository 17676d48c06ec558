import LeaseBroker.Proofs.Accounting

/-!
# Refused operations change nothing

Releasing all leases of an acquirer and forgetting a device end leases one at a time, and each of
these steps could be refused for itself. While the two counts of leases agree none of them is, so
an operation is either refused before it has changed anything or carried out as a whole.
-/

set_option autoImplicit false

namespace LeaseBroker

namespace Broker
variable {W K H : Type} {cls : DeviceClasses W K H} {b : Broker W K H}

/-! ### Loops that end leases run to their end -/

theorem endLease_of_popped {id : DeviceId} {acquirer : Option Acquirer} {e : Entry K H}
    {holder : Acquirer} {since : Moment} {ledger : Ledger} (he : b.entries.get? id = some e)
    (busy : e.leases ≠ 0) (hholder : (acquirer <|> b.ledger.holderOf? id) = some holder)
    (hp : b.ledger.pop holder id = (some since, ledger)) :
    b.endLease id acquirer = (.ok holder, b.unleased id e holder since ledger) := by
  simp only [endLease, he, if_neg busy, hholder, hp]
  rfl

namespace Accounted

theorem endLease_ok (h : Accounted b.entries b.ledger) (acquirer : Option Acquirer)
    {id : DeviceId} {holder : Acquirer}
    (hholder : (acquirer <|> b.ledger.holderOf? id) = some holder)
    (hpos : 0 < b.ledger.count holder id) :
    ∃ c, b.endLease id acquirer = (.ok holder, c) ∧ Accounted c.entries c.ledger ∧
      ∀ a d, b.ledger.count a d = c.ledger.count a d + if a = holder ∧ d = id then 1 else 0 := by
  obtain ⟨e, he⟩ := h.registered hpos
  have hle := h.count_le he holder
  obtain ⟨since, ledger, hp⟩ := Ledger.exists_pop_of_count_pos hpos
  exact ⟨_, endLease_of_popped he (by omega) hholder hp, h.endLease he hp,
    Ledger.count_of_pop hp⟩

theorem endLease_none_ok (h : Accounted b.entries b.ledger) {id : DeviceId} {e : Entry K H}
    (he : b.entries.get? id = some e) (leased : e.leases ≠ 0) :
    ∃ holder c, b.endLease id none = (.ok holder, c) ∧ Accounted c.entries c.ledger := by
  obtain ⟨a, ha⟩ := h.exists_holder he leased
  obtain ⟨holder, hholder⟩ := h.pruned.exists_holderOf? ha
  obtain ⟨c, hc, hacc, _⟩ := h.endLease_ok none hholder
    (h.pruned.count_pos_of_holderOf? hholder)
  exact ⟨holder, c, hc, hacc⟩

theorem releaseEach_ok (h : Accounted b.entries b.ledger) {acquirer : Acquirer}
    {ids : List DeviceId} (hids : ∀ d, ids.count d ≤ b.ledger.count acquirer d) :
    ∃ c, b.releaseEach acquirer ids = (.ok (), c) := by
  -- What is left of the list never asks for more leases than the acquirer still has.
  induction ids generalizing b with
  | nil => exact ⟨b, rfl⟩
  | cons id rest ih =>
    have hfirst := hids id
    rw [List.count_cons_self] at hfirst
    obtain ⟨c, hc, hacc, hcount⟩ := h.endLease_ok (some acquirer) rfl
      (Nat.lt_of_lt_of_le (Nat.succ_pos _) hfirst)
    have hrest : ∀ d, rest.count d ≤ c.ledger.count acquirer d := by
      intro d
      have hd := hids d
      rw [List.count_cons, hcount] at hd
      simp only [true_and, beq_iff_eq, eq_comm (a := id)] at hd
      split at hd <;> omega
    obtain ⟨c', hc'⟩ := ih hacc hrest
    exact ⟨c', by simp only [releaseEach, hc, hc']⟩

theorem releaseAll_ok (h : Accounted b.entries b.ledger) (acquirer : Acquirer) :
    ∃ c, b.releaseEach acquirer (b.ledger.holdings acquirer) = (.ok (), c) :=
  h.releaseEach_ok fun d => (b.ledger.count_holdings acquirer d).le

theorem releaseTimes_ok (h : Accounted b.entries b.ledger) {id : DeviceId} {e : Entry K H}
    (he : b.entries.get? id = some e) {n : Nat} (hn : n ≤ e.leases) :
    ∃ c, b.releaseTimes id n = (.ok (), c) := by
  induction n generalizing b e with
  | zero => exact ⟨b, rfl⟩
  | succ n ih =>
    obtain ⟨holder, c, hc, hacc⟩ := h.endLease_none_ok he (by omega)
    have hone : b.releaseTimes id 1 = (.ok (), c) := by simp only [releaseTimes, hc]
    obtain ⟨_, hnext⟩ := releaseTimes_entry he hone
    obtain ⟨c', hc'⟩ := ih hacc hnext (by simp only; omega)
    exact ⟨c', by simp only [releaseTimes, hc, hc']⟩

variable (cls) in
theorem forget_ok (h : Accounted b.entries b.ledger) {id : DeviceId} {e : Entry K H}
    (he : b.entries.get? id = some e) : ∃ c, b.forget cls id = (.ok (), c) := by
  obtain ⟨c, hc⟩ := h.releaseTimes_ok he (Nat.le_refl _)
  exact ⟨_, forget_of_released he hc⟩

variable (cls) in
theorem remove_ok (h : Accounted b.entries b.ledger) {id : DeviceId} {e : Entry K H}
    (he : b.entries.get? id = some e) : ∃ c, b.remove cls id true = (.ok (), c) := by
  obtain ⟨c, hc⟩ := h.forget_ok cls he
  exact ⟨c.note (.removed id true), remove_of_forget he (Or.inr rfl) hc⟩

end Accounted

/-! ### Refusals of single operations -/

/-- A pop in vain would drop what is empty in the ledger, if anything were. -/
theorem endLease_refused (hb : b.ledger.Pruned) {c : Broker W K H} {id : DeviceId}
    {acquirer : Option Acquirer} {r : Refusal} (h : b.endLease id acquirer = (.error r, c)) :
    c = b := by
  rcases endLease_cases b id acquirer with
    ⟨_, hr⟩ | ⟨_, _, _, hp, hr⟩ | ⟨_, _, _, _, _, _, _, _, hr⟩
  · rw [hr] at h
    cases h
    rfl
  · rw [hr, hb.eq_of_pop_none hp] at h
    cases h
    rfl
  · rw [hr] at h
    cases h

theorem release_refused (hb : b.ledger.Pruned) {c : Broker W K H} {id : DeviceId}
    {acquirer : Acquirer} {r : Refusal} (h : b.release id acquirer = (.error r, c)) : c = b := by
  unfold release at h
  split at h
  · cases h
  · rename_i hend
    cases h
    exact endLease_refused hb hend

theorem releaseAll_refused (hb : Accounted b.entries b.ledger) {c : Broker W K H}
    {acquirer : Acquirer} {r : Refusal} (h : b.releaseAll acquirer = (.error r, c)) : c = b := by
  obtain ⟨c', hc'⟩ := hb.releaseAll_ok acquirer
  unfold releaseAll at h
  split at h
  · cases h
    rfl
  · rename_i hholdings
    rw [hholdings] at hc'
    rw [hc'] at h
    cases h

theorem lease_refused {c : Broker W K H} {criteria : Criteria} {acquirer : Acquirer}
    {started : Moment} {pick : Nat} {r : Refusal}
    (h : b.lease cls criteria acquirer started pick = (.error r, c)) : c = b := by
  rcases lease_cases cls b criteria acquirer started pick with
    ⟨_, hr⟩ | ⟨_, _, hr⟩ | ⟨_, _, _, _, _, hr⟩
  · rw [hr] at h
    cases h
    rfl
  · rw [hr] at h
    cases h
    rfl
  · rw [hr] at h
    cases h

theorem adopt_refused {c : Broker W K H} {id : DeviceId} {k : K} {r : Refusal}
    (h : b.adopt cls id k = (.error r, c)) : c.toRegistry = b.toRegistry := by
  rcases adopt_cases cls b id k with
    ⟨_, _, ha⟩ | ⟨_, _, _, _, _, ha⟩ | ⟨_, _, _, _, ha⟩ <;> rw [ha] at h <;> cases h
  · rfl
  · exact abandon_toRegistry cls _ id k _ _

theorem add_refused {c : Broker W K H} {id : DeviceId} {r : Refusal}
    (h : b.add cls id = (.error r, c)) : c.toRegistry = b.toRegistry := by
  rcases add_decided cls b id with
    ⟨_, ha⟩ | ⟨_, _, _, ha⟩ | ⟨_, _, _, _, _, ha⟩ |
      ⟨k, _, ⟨_, _, hadopt, ha⟩ | ⟨_, _, ha⟩⟩ <;> rw [ha] at h <;> cases h
  · rfl
  · rfl
  · rfl
  · exact adopt_refused hadopt

theorem remove_refused (hb : Accounted b.entries b.ledger) {c : Broker W K H} {id : DeviceId}
    {force : Bool} {r : Refusal} (h : b.remove cls id force = (.error r, c)) : c = b := by
  rcases remove_decided cls b id force with
    ⟨_, ha⟩ | ⟨_, _, _, _, ha⟩ | ⟨e, he, _, ⟨_, _, hforget, _⟩ | ⟨_, _, ha⟩⟩
  · rw [ha] at h
    cases h
    rfl
  · rw [ha] at h
    cases h
    rfl
  · obtain ⟨c', hc'⟩ := hb.forget_ok cls he
    rw [hc'] at hforget
    cases hforget
  · rw [ha] at h
    cases h

theorem enlist_refused {c : Broker W K H} {list : Listing} {id : DeviceId} {r : Refusal}
    (h : b.enlist list id = (.error r, c)) : c = b := by
  unfold enlist at h
  split at h <;> cases h
  rfl

theorem delist_refused {c : Broker W K H} {list : Listing} {id : DeviceId} {r : Refusal}
    (h : b.delist list id = (.error r, c)) : c = b := by
  unfold delist at h
  split at h <;> cases h
  rfl

end Broker

/-- Whether an action came to nothing: it was refused, or a waiter goes on waiting. -/
def Answer.Vain : Answer → Prop
  | .waits | .refused _ => True
  | _ => False

/-- Whether an action is none of the broker's business: time passes, the world turns, or a waiter
is told to give up or is let go. -/
def Action.Outside {W K : Type} : Action W K → Prop
  | .cancel _ | .drop _ | .advance _ | .world _ => True
  | _ => False

namespace Pool
variable {W K H : Type} {cls : DeviceClasses W K H} {p : Pool W K H}

/-! ### Actions that come to nothing -/

section Results
variable {α : Type} {op : Broker W K H → Except Refusal α × Broker W K H} {f : α → Answer}

theorem error_of_vain {result : Except Refusal α} (hf : ∀ a, ¬ (f a).Vain)
    (h : (Answer.ofResult f result).Vain) : ∃ r, result = .error r := by
  cases result with
  | ok a => exact absurd h (hf a)
  | error r => exact ⟨r, rfl⟩

theorem quietly_vain (h : (answering (.ofResult f) (p.quietly op)).1.Vain)
    (hf : ∀ a, ¬ (f a).Vain) :
    ∃ r, op p.broker = (.error r, (p.quietly op).2.broker) := by
  obtain ⟨r, hr⟩ := error_of_vain hf h
  exact ⟨r, Prod.ext hr rfl⟩

theorem notifying_vain (h : (answering (.ofResult f) (p.notifying op)).1.Vain)
    (hf : ∀ a, ¬ (f a).Vain) :
    ∃ r, op p.broker = (.error r, (p.notifying op).2.broker) := by
  rcases p.notifying_cases op with ⟨r, c, hop, hn⟩ | ⟨a, c, _, hn⟩
  · exact ⟨r, by rw [hop, hn]⟩
  · rw [hn] at h
    exact absurd h (hf a)

end Results

theorem poll_registry {w : Waiter} {b : Broker W K H} {pick : Nat} {giveUpFirst : Bool}
    (h : (Answer.ofPoll (w.poll cls b pick giveUpFirst).1).Vain) :
    (w.poll cls b pick giveUpFirst).2.2.toRegistry = b.toRegistry := by
  rcases w.poll_cases cls b pick giveUpFirst with
    ⟨_, hp, _⟩ | ⟨_, _, _, _, hp⟩ | ⟨id, _, _, _, _, hp⟩ <;> rw [hp] at h ⊢
  cases h

theorem pollAt_registry {place pick : Nat} {giveUpFirst : Bool}
    (h : (p.pollAt cls place pick giveUpFirst).1.Vain) :
    (p.pollAt cls place pick giveUpFirst).2.broker.toRegistry = p.broker.toRegistry := by
  rcases p.pollAt_cases cls place pick giveUpFirst with hnone | ⟨w, _, hanswer, hbroker⟩
  · rw [hnone]
  · rw [hanswer] at h
    rw [hbroker]
    exact poll_registry h

theorem park_registry {w : Waiter} {pick : Nat} {giveUpFirst : Bool}
    (h : (Answer.ofPoll (p.park cls w pick giveUpFirst).1).Vain) :
    (p.park cls w pick giveUpFirst).2.broker.toRegistry = p.broker.toRegistry := by
  rw [park_fst] at h
  rw [park_broker]
  exact poll_registry h

theorem step_registry (hb : Broker.Accounted p.broker.entries p.broker.ledger)
    {action : Action W K} (h : (p.step cls action).1.Vain) :
    (p.step cls action).2.broker.toRegistry = p.broker.toRegistry := by
  cases action with
  | register | rescan | reset | cancel | drop | advance | world => cases h
  | add id =>
    obtain ⟨r, hr⟩ := notifying_vain h fun _ => not_false
    exact Broker.add_refused hr
  | remove id force =>
    obtain ⟨r, hr⟩ := notifying_vain h fun _ => not_false
    exact congrArg _ (Broker.remove_refused hb hr)
  | enlist list id =>
    obtain ⟨r, hr⟩ := quietly_vain h fun _ => not_false
    exact congrArg _ (Broker.enlist_refused hr)
  | delist list id =>
    obtain ⟨r, hr⟩ := quietly_vain h fun _ => not_false
    exact congrArg _ (Broker.delist_refused hr)
  | tryAcquire criteria acquirer pick =>
    obtain ⟨r, hr⟩ := quietly_vain h fun _ => not_false
    exact congrArg _ (Broker.lease_refused hr)
  | release id acquirer =>
    obtain ⟨r, hr⟩ := notifying_vain h fun _ => not_false
    exact congrArg _ (Broker.release_refused hb.pruned hr)
  | releaseAny id =>
    obtain ⟨r, hr⟩ := notifying_vain h fun _ => not_false
    exact congrArg _ (Broker.endLease_refused hb.pruned hr)
  | releaseAll acquirer =>
    obtain ⟨r, hr⟩ := notifying_vain h fun _ => not_false
    exact congrArg _ (Broker.releaseAll_refused hb hr)
  | park name criteria acquirer patience pick giveUpFirst => exact park_registry h
  | poll place pick giveUpFirst => exact pollAt_registry h

theorem outside_registry {action : Action W K} (h : action.Outside) :
    (p.step cls action).2.broker.toRegistry = p.broker.toRegistry := by
  cases action with
  | cancel name => exact congrArg _ (cancel_broker p name)
  | drop name => exact congrArg _ (drop_broker p name)
  | advance | world => rfl
  | _ => cases h

/-- Whether every action of a run that is the broker's business comes to nothing. -/
def InVain (cls : DeviceClasses W K H) (p : Pool W K H) : List (Action W K) → Prop
  | [] => True
  | action :: rest =>
    (action.Outside ∨ (p.step cls action).1.Vain) ∧ (p.step cls action).2.InVain cls rest

theorem run_registry (hp : Reachable cls p) {actions : List (Action W K)}
    (h : p.InVain cls actions) : (p.run cls actions).broker.toRegistry = p.broker.toRegistry := by
  induction actions generalizing p with
  | nil => rfl
  | cons action rest ih =>
    obtain ⟨hfirst, hrest⟩ := h
    have hstep : (p.step cls action).2.broker.toRegistry = p.broker.toRegistry :=
      hfirst.elim outside_registry (step_registry hp.accounted)
    exact (ih (hp.step action) hrest).trans hstep

/-- An operation that is refused, and each poll of a waiter that gets no device, leaves the
registry as it was. The same holds for a call that waits and then fails, if nobody else does
anything. The loops that end several leases are never cut short. -/
theorem refused_changes_nothing (hp : Reachable cls p) :
    (∀ action : Action W K, (p.step cls action).1.Vain →
      (p.step cls action).2.broker.toRegistry = p.broker.toRegistry) ∧
    (∀ actions, p.InVain cls actions →
      (p.run cls actions).broker.toRegistry = p.broker.toRegistry) ∧
    (∀ acquirer,
      (p.broker.releaseEach acquirer (p.broker.ledger.holdings acquirer)).1 = .ok ()) ∧
    (∀ id e, p.broker.entries.get? id = some e →
      (p.broker.releaseTimes id e.leases).1 = .ok () ∧
      (p.broker.remove cls id true).1 = .ok ()) := by
  have h := hp.accounted
  refine ⟨fun _ => step_registry h, fun _ => run_registry hp, ?_, ?_⟩
  · intro acquirer
    obtain ⟨c, hc⟩ := h.releaseAll_ok acquirer
    rw [hc]
  · intro id e he
    obtain ⟨c, hc⟩ := h.releaseTimes_ok he (Nat.le_refl _)
    obtain ⟨c', hc'⟩ := h.remove_ok cls he
    rw [hc, hc']
    exact ⟨rfl, rfl⟩

theorem refused_changes_nothing_shared :
    (sharedPool.step Bench.classes (.remove "A" false)).1 = .refused (.busy "A") ∧
    (sharedPool.step Bench.classes (.remove "A" false)).2.broker.toRegistry =
      sharedPool.broker.toRegistry ∧
    (sharedPool.run Bench.classes [.advance 5, .poll 0 0 false]).broker.toRegistry =
      sharedPool.broker.toRegistry ∧
    (sharedPool.broker.releaseEach "bob" ["A", "B"]).1 = .ok () ∧
    (sharedPool.broker.remove Bench.classes "A" true).1 = .ok () := by
  have hbusy : (sharedPool.step Bench.classes (.remove "A" false)).1 = .refused (.busy "A") := rfl
  have hvain : sharedPool.InVain Bench.classes [.advance 5, .poll 0 0 false] :=
    ⟨Or.inl trivial, Or.inr trivial, trivial⟩
  have hheld : sharedPool.broker.ledger.holdings "bob" = ["A", "B"] := by decide +kernel
  have hsome : (sharedPool.broker.entries.get? "A").isSome = true := by decide +kernel
  obtain ⟨e, he⟩ := Option.isSome_iff_exists.mp hsome
  obtain ⟨hstep, hrun, heach, hremove⟩ := refused_changes_nothing sharedPool_reachable
  refine ⟨hbusy, hstep _ ?_, hrun _ hvain, ?_, (hremove "A" e he).2⟩
  · rw [hbusy]
    trivial
  · rw [← hheld]
    exact heach "bob"

end Pool

end LeaseBroker
