import LeaseBroker.Proofs.CapacityBound
import LeaseBroker.Proofs.Refusals

/-!
# No wake-up is lost

A parked acquirer that has not been notified since it last asked would be told the same again:
some device matches, and every match is at capacity. An operation that brings a device or ends a
lease notifies everybody. The other ones can only take leases, and a lease takes no device away
from those that match an acquirer who found all its matches full.
-/

set_option autoImplicit false

namespace LeaseBroker

namespace Broker
variable {W K H : Type} {cls : DeviceClasses W K H} {b c : Broker W K H} {criteria : Criteria}

structure AtCapacity (cls : DeviceClasses W K H) (b : Broker W K H) (criteria : Criteria) :
    Prop where
  matched : b.matching cls criteria ≠ []
  noneFree : b.matchingFree cls criteria = []

namespace AtCapacity

theorem full (h : AtCapacity cls b criteria) {id : DeviceId} {e : Entry K H}
    (he : b.entries.get? id = some e) (hinfo : criteria.matchesInfo e.info = true)
    (hfree : criteria.matchesAvailability true = true) : b.isFree cls e = false := by
  apply Bool.eq_false_iff.mpr
  intro hf
  have hm : id ∈ b.matchingFree cls criteria :=
    (mem_matchingFree_iff cls b).mpr ⟨e, he, hinfo, hfree, hf⟩
  rw [h.noneFree] at hm
  cases hm

theorem exists_full (h : AtCapacity cls b criteria) :
    ∃ id e, b.entries.get? id = some e ∧ criteria.matchesInfo e.info = true ∧
      criteria.matchesAvailability false = true ∧ b.isFree cls e = false := by
  obtain ⟨id, hid⟩ := List.exists_mem_of_ne_nil _ h.matched
  obtain ⟨e, he, hinfo, hav⟩ := (mem_matching_iff cls b).mp hid
  cases hf : b.isFree cls e with
  | false => exact ⟨id, e, he, hinfo, hf ▸ hav, hf⟩
  | true =>
    rw [h.full he hinfo (hf ▸ hav)] at hf
    cases hf

theorem of_full
    (hfull : ∀ id e, b.entries.get? id = some e → criteria.matchesInfo e.info = true →
      criteria.matchesAvailability true = true → b.isFree cls e = false)
    (hsome : ∃ id e, b.entries.get? id = some e ∧ criteria.matchesInfo e.info = true ∧
      criteria.matchesAvailability false = true ∧ b.isFree cls e = false) :
    AtCapacity cls b criteria where
  matched := by
    obtain ⟨id, e, he, hinfo, hav, hf⟩ := hsome
    exact List.ne_nil_of_mem ((mem_matching_iff cls b).mpr ⟨e, he, hinfo, hf ▸ hav⟩)
  noneFree := by
    apply List.eq_nil_iff_forall_not_mem.mpr
    intro id hid
    obtain ⟨e, he, hinfo, hav, hf⟩ := (mem_matchingFree_iff cls b).mp hid
    rw [hfull id e he hinfo hav] at hf
    cases hf

theorem congr (hconst : cls.ConstantCapacity) (hentries : c.entries = b.entries)
    (h : AtCapacity cls b criteria) : AtCapacity cls c criteria := by
  have hfree : ∀ e, c.isFree cls e = b.isFree cls e := fun e => by
    rw [isFree, isFree, hconst c.world b.world]
  apply of_full
  · intro id e he hinfo hav
    rw [hfree]
    exact h.full (hentries ▸ he) hinfo hav
  · obtain ⟨id, e, he, hinfo, hav, hf⟩ := h.exists_full
    exact ⟨id, e, hentries ▸ he, hinfo, hav, (hfree e).trans hf⟩

/-- Whoever found every match full still does when a device that was free has been leased. The
device was no match, and may only have become a full one. -/
theorem leased (h : AtCapacity cls b criteria) {id : DeviceId} {e : Entry K H}
    (he : b.entries.get? id = some e) (free : b.isFree cls e = true) (acquirer : Acquirer)
    (started : Moment) : AtCapacity cls (b.leased id e acquirer started) criteria := by
  have hget : ∀ d, (b.leased id e acquirer started).entries.get? d =
      if d = id then some { e with leases := e.leases + 1 } else b.entries.get? d :=
    fun d => SortedMap.get?_insert b.entries id d _
  apply of_full
  · intro d e' he' hinfo hav
    rw [hget] at he'
    split at he'
    · cases he'
      have hfull := h.full he hinfo hav
      rw [free] at hfull
      cases hfull
    · exact h.full he' hinfo hav
  · obtain ⟨d, f, hd, hinfo, hav, hf⟩ := h.exists_full
    have hne : d ≠ id := by
      rintro rfl
      have hfe : f = e := Option.some.inj (hd.symm.trans he)
      rw [hfe, free] at hf
      cases hf
    exact ⟨d, f, by rw [hget, if_neg hne, hd], hinfo, hav, hf⟩

theorem lease (h : AtCapacity cls b criteria) (wanted : Criteria) (acquirer : Acquirer)
    (started : Moment) (pick : Nat) :
    AtCapacity cls (b.lease cls wanted acquirer started pick).2 criteria := by
  rcases lease_cases cls b wanted acquirer started pick with
    ⟨_, hl⟩ | ⟨_, _, hl⟩ | ⟨id, e, _, he, free, hl⟩ <;> rw [hl]
  · exact h
  · exact h
  · exact h.leased he free acquirer started

theorem poll (h : AtCapacity cls b criteria) (w : Waiter) (pick : Nat) (giveUpFirst : Bool) :
    AtCapacity cls (w.poll cls b pick giveUpFirst).2.2 criteria := by
  rcases w.poll_cases cls b pick giveUpFirst with
    ⟨_, hp, _⟩ | ⟨_, _, _, _, hp⟩ | ⟨id, e, _, he, free, hp⟩ <;> rw [hp]
  · exact ⟨h.matched, h.noneFree⟩
  · exact ⟨h.matched, h.noneFree⟩
  · exact h.leased he free w.acquirer w.started

end AtCapacity

theorem silent_of_poll {w w' : Waiter} {pick : Nat} {giveUpFirst : Bool}
    (h : w.poll cls b pick giveUpFirst = (none, w', c)) :
    w' = { w with notified := false } ∧ (w.notified = true → AtCapacity cls c w.criteria) := by
  rcases w.poll_cases cls b pick giveUpFirst with
    ⟨_, hp, hfull⟩ | ⟨_, _, _, _, hp⟩ | ⟨_, _, _, _, _, hp⟩ <;> rw [hp] at h <;> cases h
  exact ⟨rfl, fun hn => ⟨(hfull hn).1, (hfull hn).2⟩⟩

end Broker

structure Waiter.Unserved {W K H : Type} (cls : DeviceClasses W K H) (w : Waiter)
    (b : Broker W K H) : Prop where
  unavailable : ∀ pick,
    (b.lease cls w.criteria w.acquirer w.started pick).1 = .error .unavailable
  matched : b.matching cls w.criteria ≠ []
  full : ∀ id ∈ b.matching cls w.criteria, b.available cls id = .ok false

namespace Waiter
variable {W K H : Type} {cls : DeviceClasses W K H} {w : Waiter} {b : Broker W K H}

theorem unserved_iff : w.Unserved cls b ↔ b.AtCapacity cls w.criteria := by
  constructor
  · intro h
    refine .of_full ?_ ?_
    · intro id e he hinfo hav
      cases hf : b.isFree cls e with
      | false => rfl
      | true =>
        have hm := (Broker.mem_matching_iff cls b).mpr ⟨e, he, hinfo, hf.symm ▸ hav⟩
        have hfull := h.full id hm
        simp [Broker.available, Broker.entry, he, Except.map, hf] at hfull
    · obtain ⟨id, hid⟩ := List.exists_mem_of_ne_nil _ h.matched
      obtain ⟨e, he, hinfo, hav⟩ := (Broker.mem_matching_iff cls b).mp hid
      have hfull := h.full id hid
      simp only [Broker.available, Broker.entry, he, Except.map, Except.ok.injEq] at hfull
      exact ⟨id, e, he, hinfo, hfull ▸ hav, hfull⟩
  · intro h
    refine ⟨fun pick => ?_, h.matched, ?_⟩
    · rcases b.lease_cases cls w.criteria w.acquirer w.started pick with
        ⟨hm, _⟩ | ⟨_, _, hl⟩ | ⟨id, _, hid, _, _, _⟩
      · exact absurd hm h.matched
      · rw [hl]
      · rw [h.noneFree] at hid
        cases hid
    · intro id hid
      obtain ⟨e, he, hinfo, hav⟩ := (Broker.mem_matching_iff cls b).mp hid
      have hfull : b.isFree cls e = false := by
        cases hf : b.isFree cls e with
        | false => rfl
        | true => exact hf ▸ h.full he hinfo (hf ▸ hav)
      simp only [Broker.available, Broker.entry, he, Except.map, hfull]

end Waiter

namespace Pool
variable {W K H : Type} {cls : DeviceClasses W K H} {p : Pool W K H} {criteria : Criteria}

/-! ### Actions that notify nobody -/

theorem vain_of_refused {answer : Answer} (h : ¬ ∀ r, answer ≠ .refused r) :
    answer.Vain := by
  cases answer with
  | refused r => trivial
  | _ => exact absurd (fun _ => nofun) h

theorem pollAt_atCapacity (h : p.broker.AtCapacity cls criteria) (place pick : Nat)
    (giveUpFirst : Bool) :
    (p.pollAt cls place pick giveUpFirst).2.broker.AtCapacity cls criteria := by
  rcases p.pollAt_cases cls place pick giveUpFirst with hnone | ⟨w, _, _, hbroker⟩
  · rw [hnone]
    exact h
  · rw [hbroker]
    exact h.poll w pick giveUpFirst

theorem park_atCapacity (h : p.broker.AtCapacity cls criteria) (w : Waiter) (pick : Nat)
    (giveUpFirst : Bool) : (p.park cls w pick giveUpFirst).2.broker.AtCapacity cls criteria := by
  rw [park_broker]
  exact h.poll w pick giveUpFirst

theorem step_atCapacity (hconst : cls.ConstantCapacity)
    (hb : Broker.Accounted p.broker.entries p.broker.ledger) {action : Action W K}
    (hquiet : ¬ action.notifies (p.step cls action).1) (h : p.broker.AtCapacity cls criteria) :
    (p.step cls action).2.broker.AtCapacity cls criteria := by
  have hvain : (p.step cls action).1.Vain →
      (p.step cls action).2.broker.AtCapacity cls criteria := fun hv =>
    h.congr hconst (congrArg Registry.entries (step_registry hb hv))
  have houtside : action.Outside →
      (p.step cls action).2.broker.AtCapacity cls criteria := fun ho =>
    h.congr hconst (congrArg Registry.entries (outside_registry ho))
  cases action with
  | rescan | reset => exact absurd trivial hquiet
  | add | remove | release | releaseAny | releaseAll => exact hvain (vain_of_refused hquiet)
  | cancel | drop | advance | world => exact houtside trivial
  | register k =>
    refine h.congr hconst ?_
    rfl
  | enlist list id => exact h.congr hconst (p.broker.enlist_entries list id)
  | delist list id => exact h.congr hconst (p.broker.delist_entries list id)
  | tryAcquire criteria acquirer pick => exact h.lease criteria acquirer p.broker.now pick
  | park name criteria acquirer patience pick giveUpFirst => exact park_atCapacity h _ pick _
  | poll place pick giveUpFirst => exact pollAt_atCapacity h place pick giveUpFirst

/-! ### Waiters without news -/

/-- Every waiter that has not been notified since it last asked would ask in vain. -/
def Heard (cls : DeviceClasses W K H) (p : Pool W K H) : Prop :=
  ∀ w ∈ p.waiting, w.notified = false → p.broker.AtCapacity cls w.criteria

theorem notified_of_mem_notify {w : Waiter} (h : w ∈ p.notify.waiting) : w.notified = true := by
  obtain ⟨v, _, rfl⟩ := List.mem_map.mp h
  rfl

theorem notified_of_notifying {α : Type} {op : Broker W K H → Except Refusal α × Broker W K H}
    {f : α → Answer} (h : ∀ r, (answering (.ofResult f) (p.notifying op)).1 ≠ .refused r)
    {w : Waiter} (hw : w ∈ (p.notifying op).2.waiting) : w.notified = true := by
  rcases p.notifying_cases op with ⟨r, c, _, hn⟩ | ⟨a, c, _, hn⟩
  · rw [hn] at h
    exact absurd rfl (h r)
  · rw [hn] at hw
    exact notified_of_mem_notify hw

theorem notified_of_notifies {action : Action W K} (h : action.notifies (p.step cls action).1)
    {w : Waiter} (hw : w ∈ (p.step cls action).2.waiting) : w.notified = true := by
  cases action with
  | rescan | reset => exact notified_of_mem_notify hw
  | add | remove | release | releaseAny | releaseAll => exact notified_of_notifying h hw
  | _ => cases h

theorem silent_of_notifying {α : Type} {op : Broker W K H → Except Refusal α × Broker W K H}
    {w : Waiter} (hw : w ∈ (p.notifying op).2.waiting) (hn : w.notified = false) :
    w ∈ p.waiting := by
  rcases p.notifying_cases op with ⟨r, c, _, h⟩ | ⟨a, c, _, h⟩ <;> rw [h] at hw
  · exact hw
  · rw [notified_of_mem_notify hw] at hn
    cases hn

theorem silent_of_cancel {name : String} {w : Waiter} (hw : w ∈ (p.cancel name).2.waiting) :
    ∃ v ∈ p.waiting, v.notified = w.notified ∧ v.criteria = w.criteria := by
  unfold cancel at hw
  split at hw
  · exact ⟨w, hw, rfl, rfl⟩
  · split at hw
    · obtain ⟨i, hi⟩ := List.getElem?_of_mem hw
      rw [List.getElem?_modify] at hi
      obtain ⟨v, hv, rfl⟩ := Option.map_eq_some_iff.mp hi
      refine ⟨v, List.mem_of_getElem? hv, ?_⟩
      split <;> exact ⟨rfl, rfl⟩
    · exact ⟨w, hw, rfl, rfl⟩

theorem mem_of_drop {name : String} {w : Waiter} (hw : w ∈ (p.drop name).2.waiting) :
    w ∈ p.waiting := by
  unfold drop at hw
  split at hw
  · exact hw
  · exact List.mem_of_mem_eraseIdx hw

theorem silent_of_park {v w : Waiter} {pick : Nat} {giveUpFirst : Bool} (hv : v.notified = true)
    (hw : w ∈ (p.park cls v pick giveUpFirst).2.waiting) :
    w ∈ p.waiting ∨ (p.park cls v pick giveUpFirst).2.broker.AtCapacity cls w.criteria := by
  unfold park at hw ⊢
  split <;> rename_i hpoll <;> simp only [hpoll] at hw
  · exact Or.inl hw
  · obtain ⟨hw', hfull⟩ := Broker.silent_of_poll hpoll
    rcases List.mem_append.mp hw with hold | hnew
    · exact Or.inl hold
    · rw [List.mem_singleton.mp hnew, hw']
      exact Or.inr (hfull hv)

theorem silent_of_pollAt {place pick : Nat} {giveUpFirst : Bool} {w : Waiter}
    (hw : w ∈ (p.pollAt cls place pick giveUpFirst).2.waiting) (hn : w.notified = false) :
    (∃ v ∈ p.waiting, v.notified = false ∧ v.criteria = w.criteria) ∨
    (p.pollAt cls place pick giveUpFirst).2.broker.AtCapacity cls w.criteria := by
  unfold pollAt at hw ⊢
  split
  · rename_i hnone
    simp only [hnone] at hw
    exact Or.inl ⟨w, hw, hn, rfl⟩
  · rename_i v hv
    simp only [hv] at hw
    split <;> rename_i hpoll <;> simp only [hpoll] at hw
    · obtain ⟨hw', hfull⟩ := Broker.silent_of_poll hpoll
      rcases List.mem_or_eq_of_mem_set hw with hold | rfl
      · exact Or.inl ⟨w, hold, hn, rfl⟩
      · rw [hw']
        cases hvn : v.notified with
        | true => exact Or.inr (hfull hvn)
        | false => exact Or.inl ⟨v, List.mem_of_getElem? hv, hvn, rfl⟩
    · exact Or.inl ⟨w, List.mem_of_mem_eraseIdx hw, hn, rfl⟩

/-- Whoever has no news after an action had none before, or has just asked in vain. -/
theorem silent_of_step {action : Action W K} {w : Waiter}
    (hw : w ∈ (p.step cls action).2.waiting) (hn : w.notified = false) :
    (∃ v ∈ p.waiting, v.notified = false ∧ v.criteria = w.criteria) ∨
    (p.step cls action).2.broker.AtCapacity cls w.criteria := by
  cases action with
  | register | enlist | delist | tryAcquire | advance | world => exact Or.inl ⟨w, hw, hn, rfl⟩
  | rescan | reset =>
    rw [notified_of_mem_notify hw] at hn
    cases hn
  | add | remove | release | releaseAny | releaseAll =>
    exact Or.inl ⟨w, silent_of_notifying hw hn, hn, rfl⟩
  | park name criteria acquirer patience pick giveUpFirst =>
    rcases silent_of_park rfl hw with hold | hfull
    · exact Or.inl ⟨w, hold, hn, rfl⟩
    · exact Or.inr hfull
  | poll place pick giveUpFirst => exact silent_of_pollAt hw hn
  | cancel name =>
    obtain ⟨v, hv, hvn, hcriteria⟩ := silent_of_cancel hw
    exact Or.inl ⟨v, hv, hvn.trans hn, hcriteria⟩
  | drop name => exact Or.inl ⟨w, mem_of_drop hw, hn, rfl⟩

theorem Heard.step (hconst : cls.ConstantCapacity)
    (hb : Broker.Accounted p.broker.entries p.broker.ledger) (h : p.Heard cls)
    (action : Action W K) : (p.step cls action).2.Heard cls := by
  intro w hw hn
  have hquiet : ¬ action.notifies (p.step cls action).1 := by
    intro hnotifies
    rw [notified_of_notifies hnotifies hw] at hn
    cases hn
  rcases silent_of_step hw hn with ⟨v, hv, hvn, hcriteria⟩ | hfull
  · exact hcriteria ▸ step_atCapacity hconst hb hquiet (h v hv hvn)
  · exact hfull

theorem Reachable.heard (hconst : cls.ConstantCapacity) (hp : Reachable cls p) : p.Heard cls := by
  induction hp with
  | start => exact nofun
  | step action hp ih => exact ih.step hconst hp.accounted action

/-! ### Taking turns -/

def takeTurns (cls : DeviceClasses W K H) (b : Broker W K H) :
    List (Waiter × Nat × Bool) → Pool W K H
  | [] => ⟨b, []⟩
  | (w, pick, giveUpFirst) :: rest =>
    match w.poll cls b pick giveUpFirst with
    | (none, w, b) => { takeTurns cls b rest with waiting := w :: (takeTurns cls b rest).waiting }
    | (some _, _, b) => takeTurns cls b rest

variable {b : Broker W K H} {turns : List (Waiter × Nat × Bool)}

/-- What one poll does to the state of the broker, the polls that follow do not undo. -/
theorem takeTurns_atCapacity (h : b.AtCapacity cls criteria) :
    (takeTurns cls b turns).broker.AtCapacity cls criteria := by
  induction turns generalizing b with
  | nil => exact h
  | cons turn rest ih =>
    obtain ⟨v, pick, giveUpFirst⟩ := turn
    have hpoll := h.poll v pick giveUpFirst
    unfold takeTurns
    split <;> rename_i hp <;> rw [hp] at hpoll <;> exact ih hpoll

theorem takeTurns_heard
    (h : ∀ turn ∈ turns, turn.1.notified = false → b.AtCapacity cls turn.1.criteria) :
    ∀ w ∈ (takeTurns cls b turns).waiting,
      w.notified = false ∧ (takeTurns cls b turns).broker.AtCapacity cls w.criteria := by
  induction turns generalizing b with
  | nil => exact nofun
  | cons turn rest ih =>
    obtain ⟨v, pick, giveUpFirst⟩ := turn
    have hrest : ∀ turn ∈ rest, turn.1.notified = false →
        (v.poll cls b pick giveUpFirst).2.2.AtCapacity cls turn.1.criteria :=
      fun turn ht hn => (h turn (List.mem_cons_of_mem _ ht) hn).poll v pick giveUpFirst
    unfold takeTurns
    split <;> rename_i hp <;> rw [hp] at hrest
    · obtain ⟨rfl, hfull⟩ := Broker.silent_of_poll hp
      intro w hw
      rcases List.mem_cons.mp hw with rfl | hw
      · refine ⟨rfl, takeTurns_atCapacity ?_⟩
        cases hvn : v.notified with
        | true => exact hfull hvn
        | false =>
          have hbefore := (h _ List.mem_cons_self hvn).poll v pick giveUpFirst
          rwa [hp] at hbefore
      · exact ih hrest w hw
    · exact ih hrest

/-- Those who are polled and those who are not, once every notified waiter has had its turn. -/
theorem Heard.takeTurns (h : p.Heard cls) {others : List Waiter}
    (hall : (turns.map Prod.fst ++ others).Perm p.waiting)
    (hothers : ∀ w ∈ others, w.notified = false) :
    ∀ w ∈ (Pool.takeTurns cls p.broker turns).waiting ++ others, w.notified = false ∧
      (Pool.takeTurns cls p.broker turns).broker.AtCapacity cls w.criteria := by
  intro w hw
  rcases List.mem_append.mp hw with hw | hw
  · refine takeTurns_heard (fun turn ht => h turn.1 (hall.mem_iff.mp ?_)) w hw
    exact List.mem_append_left _ (List.mem_map_of_mem ht)
  · have hold : w ∈ p.waiting := hall.mem_iff.mp (List.mem_append_right _ hw)
    exact ⟨hothers w hw, takeTurns_atCapacity (h w hold (hothers w hw))⟩

def turnsOf (picks : Nat → Nat) (giveUpFirst : Bool) : List Waiter → List (Waiter × Nat × Bool)
  | [] => []
  | w :: rest => (w, picks rest.length, giveUpFirst) :: turnsOf picks giveUpFirst rest

theorem map_turnsOf (picks : Nat → Nat) (giveUpFirst : Bool) (waiting : List Waiter) :
    (turnsOf picks giveUpFirst waiting).map Prod.fst = waiting := by
  induction waiting with
  | nil => rfl
  | cons w rest ih => simp only [turnsOf, List.map_cons, ih]

/-- Those whom `pollEach` passes over would not notice a turn. -/
theorem pollEach_snd (picks : Nat → Nat) (giveUpFirst : Bool) (waiting : List Waiter) :
    (pollEach cls picks giveUpFirst b waiting).2 =
      takeTurns cls b (turnsOf picks giveUpFirst waiting) := by
  induction waiting generalizing b with
  | nil => rfl
  | cons w rest ih =>
    unfold pollEach turnsOf takeTurns
    split
    · rcases hp : w.poll cls b (picks rest.length) giveUpFirst with ⟨_ | _, w', c⟩
      · simp only [ih]
      · simp only [ih]
    · rename_i hready
      rw [Bool.not_eq_true] at hready
      simp only [w.poll_of_not_ready cls b hready, ih]

theorem settle_unserved (hconst : cls.ConstantCapacity) (hp : Reachable cls p) (picks : Nat → Nat)
    (giveUpFirst : Bool) : ∀ w ∈ (p.settle cls picks giveUpFirst).2.waiting,
      w.notified = false ∧ w.Unserved cls (p.settle cls picks giveUpFirst).2.broker := by
  have hall : ((turnsOf picks giveUpFirst p.waiting).map Prod.fst ++ []).Perm p.waiting := by
    rw [map_turnsOf, List.append_nil]
  intro w hw
  rw [settle, pollEach_snd] at hw ⊢
  have hend := (hp.heard hconst).takeTurns hall (fun _ h => absurd h List.not_mem_nil) w
    (List.mem_append_left _ hw)
  exact ⟨hend.1, Waiter.unserved_iff.mpr hend.2⟩

/-- Whoever has not been notified since it last asked would be told to wait. So once all those who
have been notified have had their turn, in any order, everybody who is left would be told so. What
notifies nobody does not change that. -/
theorem no_wakeup_lost (hconst : cls.ConstantCapacity) (hp : Reachable cls p) :
    (∀ w ∈ p.waiting, w.notified = false → w.Unserved cls p.broker) ∧
    (∀ (turns : List (Waiter × Nat × Bool)) (others : List Waiter),
      (turns.map Prod.fst ++ others).Perm p.waiting → (∀ w ∈ others, w.notified = false) →
      ∀ w ∈ (takeTurns cls p.broker turns).waiting ++ others,
        w.notified = false ∧ w.Unserved cls (takeTurns cls p.broker turns).broker) ∧
    (∀ action : Action W K, ¬ action.notifies (p.step cls action).1 →
      ∀ w : Waiter, w.Unserved cls p.broker → w.Unserved cls (p.step cls action).2.broker) := by
  have h := hp.heard hconst
  refine ⟨fun w hw hn => Waiter.unserved_iff.mpr (h w hw hn), ?_, ?_⟩
  · intro turns others hall hothers w hw
    have hend := h.takeTurns hall hothers w hw
    exact ⟨hend.1, Waiter.unserved_iff.mpr hend.2⟩
  · intro action hquiet w hw
    have hfull := step_atCapacity hconst hp.accounted hquiet (Waiter.unserved_iff.mp hw)
    exact Waiter.unserved_iff.mpr hfull

def releasedPool : Pool Bench DeviceClass Handle :=
  (sharedPool.step Bench.classes (.release "B" "bob")).2

theorem no_wakeup_lost_shared :
    (∃ w ∈ sharedPool.waiting, w.Unserved Bench.classes sharedPool.broker ∧
      w.Unserved Bench.classes
        (sharedPool.step Bench.classes (.tryAcquire {} "dan" 0)).2.broker) ∧
    (∃ w ∈ releasedPool.waiting, w.notified = true) ∧
    (∃ turns : List (Waiter × Nat × Bool), turns.map Prod.fst = releasedPool.waiting ∧
      ∃ w ∈ (takeTurns Bench.classes releasedPool.broker turns).waiting,
        w.Unserved Bench.classes (takeTurns Bench.classes releasedPool.broker turns).broker) := by
  have hconst : Bench.classes.ConstantCapacity := fun _ _ _ => rfl
  refine ⟨?_, ?_, turnsOf (fun _ => 0) false releasedPool.waiting, map_turnsOf _ _ _, ?_⟩
  · have hwaits : sharedPool.waiting.map (·.notified) = [false] := by decide +kernel
    obtain ⟨w, hw, hn⟩ := List.mem_map.mp (hwaits ▸ List.mem_singleton_self false)
    obtain ⟨silent, _, quiet⟩ := no_wakeup_lost hconst sharedPool_reachable
    exact ⟨w, hw, silent w hw hn, quiet (.tryAcquire {} "dan" 0) not_false w (silent w hw hn)⟩
  · have hnews : releasedPool.waiting.map (·.notified) = [true] := by decide +kernel
    exact List.mem_map.mp (hnews ▸ List.mem_singleton_self true)
  · have hleft : (takeTurns Bench.classes releasedPool.broker
        (turnsOf (fun _ => 0) false releasedPool.waiting)).waiting.map (·.name) = ["first"] := by
      decide +kernel
    obtain ⟨w, hw, _⟩ := List.mem_map.mp (hleft ▸ List.mem_singleton_self "first")
    have hp : Reachable Bench.classes releasedPool := sharedPool_reachable.step _
    obtain ⟨_, polled, _⟩ := no_wakeup_lost hconst hp
    refine ⟨w, hw, (polled _ [] ?_ (fun _ h => absurd h List.not_mem_nil) w ?_).2⟩
    · rw [map_turnsOf, List.append_nil]
    · rwa [List.append_nil]

end Pool

end LeaseBroker
