import LeaseBroker.Proofs.Isolation

/-!
# Acquires are all or nothing

An acquire is a loop that asks for a device in every round, and one that may wait is polled any
number of times, loses its place to none but may have others leave before it, races with its
deadline or its cancellation in each poll, and may be let go in between. Its lease is recorded in
the turn in which it returns the device, and in no other turn anything is recorded.
-/

set_option autoImplicit false

namespace LeaseBroker

/-! ### One round -/

namespace Broker
variable {W K H : Type} {cls : DeviceClasses W K H} {b c : Broker W K H}

/-- One round of an acquire: asks for a device. Only one that blocks goes on if every match is at
capacity. -/
def round (cls : DeviceClasses W K H) (b : Broker W K H) (criteria : Criteria)
    (acquirer : Acquirer) (started : Moment) (blocking : Bool) (pick : Nat) :
    Option (Except Refusal DeviceId) × Broker W K H :=
  match b.lease cls criteria acquirer started pick with
  | (.error .unavailable, b) =>
    if blocking then (none, b.note (.blocked acquirer)) else (some (.error .unavailable), b)
  | (outcome, b) => (some outcome, b)

theorem round_prompt (criteria : Criteria) (acquirer : Acquirer) (started : Moment) (pick : Nat) :
    b.round cls criteria acquirer started false pick =
      (some (b.lease cls criteria acquirer started pick).1,
        (b.lease cls criteria acquirer started pick).2) := by
  unfold round
  split <;> rename_i h
  · rw [h]
    rfl
  · rw [h]

theorem ask_eq_round {w : Waiter} (hw : w.notified = true) (pick : Nat) :
    (w.ask cls b pick).1 = (b.round cls w.criteria w.acquirer w.started true pick).1 ∧
    (w.ask cls b pick).2.2 = (b.round cls w.criteria w.acquirer w.started true pick).2 := by
  unfold Waiter.ask round
  rw [if_pos hw]
  rcases b.lease_cases cls w.criteria w.acquirer w.started pick with
    ⟨_, hl⟩ | ⟨_, _, hl⟩ | ⟨_, _, _, _, _, hl⟩ <;> rw [hl]
  · exact ⟨rfl, rfl⟩
  · exact ⟨rfl, rfl⟩
  · exact ⟨rfl, rfl⟩

/-- Whether two brokers differ in one new lease of an acquirer on a device, its newest there, and in
nothing else that a registry has. -/
structure OneLeased (b : Broker W K H) (a : Acquirer) (d : DeviceId) (c : Broker W K H) :
    Prop where
  newest : c.ledger.since a d = b.ledger.since a d ++ [b.now]
  others : ∀ {x : Acquirer} {i : DeviceId}, ¬ (x = a ∧ i = d) →
    c.ledger.since x i = b.ledger.since x i
  counted : ∃ n, b.leaseCount d = .ok n ∧ c.leaseCount d = .ok (n + 1)
  elsewhere : ∀ {i : DeviceId}, i ≠ d → c.entries.get? i = b.entries.get? i
  rest : c.toRegistry = { b.toRegistry with entries := c.entries, ledger := c.ledger }

theorem leased_oneLeased {a : Acquirer} {d : DeviceId} {e : Entry K H}
    (he : b.entries.get? d = some e) (started : Moment) :
    b.OneLeased a d (b.leased d e a started) := by
  have hstacks : ∀ x i, (b.leased d e a started).ledger.since x i =
      if x = a ∧ i = d then b.ledger.since a d ++ [b.now] else b.ledger.since x i := by
    intro x i
    change (b.ledger.record a d b.now).since x i = _
    rw [Ledger.record_eq_setStack, Ledger.since_setStack]
  have hentry : (b.leased d e a started).entries.get? d =
      some { e with leases := e.leases + 1 } := SortedMap.get?_insert_self _ _ _
  constructor
  · exact (hstacks a d).trans (if_pos ⟨rfl, rfl⟩)
  · intro x i hne
    exact (hstacks x i).trans (if_neg hne)
  · refine ⟨e.leases, ?_, ?_⟩
    · simp only [leaseCount, entry, he, Except.map]
    · simp only [leaseCount, entry, hentry, Except.map]
  · intro i hi
    exact SortedMap.get?_insert_of_ne _ _ hi
  · rfl

theorem Accounted.since_eq_nil_of_unregistered (hb : Accounted b.entries b.ledger) {a : Acquirer}
    {id : DeviceId} (h : b.entries.get? id = none) : b.ledger.since a id = [] := by
  rw [← List.length_eq_zero_iff]
  by_contra hlength
  obtain ⟨e, he⟩ := hb.registered (Nat.pos_of_ne_zero hlength)
  rw [h] at he
  cases he

def NoneLeased (b c : Broker W K H) : Prop :=
  ∀ a d, c.ledger.since a d <+: b.ledger.since a d

namespace NoneLeased

theorem of_ledger (h : c.ledger = b.ledger) : NoneLeased b c := by
  intro a d
  rw [h]

theorem trans {d : Broker W K H} (hbc : NoneLeased b c) (hcd : NoneLeased c d) :
    NoneLeased b d :=
  fun a i => (hcd a i).trans (hbc a i)

theorem endLease (hb : b.ledger.Pruned) (id : DeviceId) (acquirer : Option Acquirer) :
    NoneLeased b (b.endLease id acquirer).2 := by
  rcases endLease_cases b id acquirer with
    ⟨_, hr⟩ | ⟨_, _, _, hp, hr⟩ | ⟨_, holder, _, ledger, _, _, _, hp, hr⟩ <;> rw [hr]
  · exact .of_ledger rfl
  · exact .of_ledger (hb.eq_of_pop_none hp)
  · obtain ⟨older, hsince, rfl⟩ := Ledger.pop_eq_some hp
    intro a d
    change (b.ledger.setStack holder id older).since a d <+: _
    rw [Ledger.since_setStack]
    split
    · rename_i hsame
      rw [hsame.1, hsame.2, hsince]
      exact List.prefix_append _ _
    · exact List.prefix_refl _

theorem releaseAll (hb : b.ledger.Pruned) (acquirer : Acquirer) :
    NoneLeased b (b.releaseAll acquirer).2 := by
  have hboth := releaseAll_preserve acquirer (b := b)
    (P := fun c => c.ledger.Pruned ∧ NoneLeased b c)
    (fun c id hc => ⟨endLease_pruned hc.1 id (some acquirer),
      hc.2.trans (endLease hc.1 id (some acquirer))⟩) ⟨hb, .of_ledger rfl⟩
  exact hboth.2

theorem remove (hb : Accounted b.entries b.ledger) (id : DeviceId) (force : Bool) :
    NoneLeased b (b.remove cls id force).2 := by
  rcases hb.remove_spec cls id force with ⟨r, h⟩ | ⟨e, c, _, _, h, hgone, hsame, hafter⟩ <;> rw [h]
  · exact .of_ledger rfl
  · -- The leases of the device itself have all ended.
    intro a d
    change c.ledger.since a d <+: _
    by_cases hd : d = id
    · rw [hd, hafter.since_eq_nil_of_unregistered hgone]
      exact List.nil_prefix
    · rw [hsame.since hd]

theorem reconciled {report : RescanReport} (h : Reconciled cls b report c)
    (hb : b.ledger.Pruned) (hc : c.ledger.Pruned) : NoneLeased b c := by
  intro a d
  by_cases hnil : c.ledger.since a d = []
  · rw [hnil]
    exact List.nil_prefix
  · -- A stack that is left is a row of the ledger, and a rescan adds no rows.
    have hrow : (⟨⟨a, d⟩, c.ledger.since a d⟩ : Holding × List Moment) ∈ c.ledger.acquisitions :=
      hc.mem_acquisitions_iff_since.mpr ⟨hnil, rfl⟩
    obtain ⟨hbefore, _⟩ := (h.rows _).mp hrow
    obtain ⟨_, hsince⟩ := hb.mem_acquisitions_iff_since.mp hbefore
    exact hsince ▸ List.prefix_refl _

theorem rescan (hb : Accounted b.entries b.ledger) : NoneLeased b (b.rescan cls).2 := by
  have hafter := hb.changes ((b.scan_changes cls).trans (b.rescan_deeds cls).changes)
  exact .reconciled (hb.reconciled cls) hb.pruned hafter.pruned

end NoneLeased

end Broker

/-! ### An acquire along a run -/

inductive Conclusion where
  | returned (result : Except Refusal DeviceId)
  | dropped
  deriving DecidableEq

/-- How an acquire stands: it waits at a place, or it has ended. -/
inductive Standing where
  | waiting (place : Nat)
  | ended (conclusion : Conclusion)
  deriving DecidableEq

namespace Standing

def begun (place : Nat) : Option (Except Refusal DeviceId) → Standing
  | none => .waiting place
  | some result => .ended (.returned result)

/-- How an acquire stands when a place has been vacated. If that was not its own, and was before
its own, it moves up. -/
def next : Standing → Option (Nat × Conclusion) → Standing
  | .waiting i, some (j, conclusion) =>
    if j = i then .ended conclusion else .waiting (if j < i then i - 1 else i)
  | standing, _ => standing

end Standing

structure Turn (W K H : Type) where
  before : Broker W K H
  after : Broker W K H

def Turn.Idle {W K H : Type} (turn : Turn W K H) : Prop :=
  turn.after.toRegistry = turn.before.toRegistry

/-- Whether an acquire that has returned a device has recorded its lease in the last of its turns
and nothing before, and whether any other has recorded nothing. -/
def AllOrNothing {W K H : Type} (acquirer : Acquirer) (turns : List (Turn W K H)) :
    Standing → Prop
  | .ended (.returned (.ok id)) => ∃ earlier last, turns = earlier ++ [last] ∧
      (∀ turn ∈ earlier, turn.Idle) ∧ last.before.OneLeased acquirer id last.after
  | _ => ∀ turn ∈ turns, turn.Idle

theorem AllOrNothing.cons {W K H : Type} {acquirer : Acquirer} {turns : List (Turn W K H)}
    {standing : Standing} {turn : Turn W K H} (hturn : turn.Idle)
    (h : AllOrNothing acquirer turns standing) :
    AllOrNothing acquirer (turn :: turns) standing := by
  cases standing with
  | waiting place => exact List.forall_mem_cons.mpr ⟨hturn, h⟩
  | ended conclusion =>
    cases conclusion with
    | dropped => exact List.forall_mem_cons.mpr ⟨hturn, h⟩
    | returned result =>
      cases result with
      | error r => exact List.forall_mem_cons.mpr ⟨hturn, h⟩
      | ok id =>
        obtain ⟨earlier, last, hturns, hidle, hleased⟩ := h
        refine ⟨turn :: earlier, last, ?_, List.forall_mem_cons.mpr ⟨hturn, hidle⟩, hleased⟩
        rw [hturns, List.cons_append]

theorem AllOrNothing.leased {W K H : Type} {acquirer : Acquirer} {turn : Turn W K H}
    {id : DeviceId} (h : AllOrNothing acquirer [turn] (.ended (.returned (.ok id)))) :
    turn.before.OneLeased acquirer id turn.after := by
  obtain ⟨earlier, last, hturns, _, hleased⟩ := h
  have hsame : turn = last := by
    have hlast := congrArg List.getLast? hturns
    rwa [List.getLast?_concat, List.getLast?_singleton, Option.some.injEq] at hlast
  rw [hsame]
  exact hleased

/-- Whether a waiter is an acquire that has been seen before. It may have heard of a change since,
or been cancelled. -/
structure Waiter.SameCall (v w : Waiter) : Prop where
  name : w.name = v.name
  criteria : w.criteria = v.criteria
  acquirer : w.acquirer = v.acquirer
  started : w.started = v.started
  patience : w.patience = v.patience ∨
    v.patience = .cancellable false ∧ w.patience = .cancellable true

namespace Waiter.SameCall
variable {u v w : Waiter}

theorem refl (w : Waiter) : w.SameCall w :=
  ⟨rfl, rfl, rfl, rfl, Or.inl rfl⟩

theorem trans (huv : u.SameCall v) (hvw : v.SameCall w) : u.SameCall w where
  name := hvw.name.trans huv.name
  criteria := hvw.criteria.trans huv.criteria
  acquirer := hvw.acquirer.trans huv.acquirer
  started := hvw.started.trans huv.started
  patience := by
    rcases hvw.patience with hw | ⟨hv, hw⟩
    · rw [hw]
      exact huv.patience
    · rcases huv.patience with hu | ⟨_, hcancelled⟩
      · exact Or.inr ⟨hu ▸ hv, hw⟩
      · rw [hv] at hcancelled
        cases hcancelled

theorem notified (w : Waiter) (notified : Bool) : w.SameCall { w with notified } :=
  ⟨rfl, rfl, rfl, rfl, Or.inl rfl⟩

theorem cancelled (h : w.patience = .cancellable false) :
    w.SameCall { w with patience := .cancellable true } :=
  ⟨rfl, rfl, rfl, rfl, Or.inr ⟨h, rfl⟩⟩

end Waiter.SameCall

namespace Pool
variable {W K H : Type} {cls : DeviceClasses W K H} {p : Pool W K H}

/-- The place that an action vacates, and how the acquire that waited there has ended. -/
def vacated (cls : DeviceClasses W K H) (p : Pool W K H) : Action W K → Option (Nat × Conclusion)
  | .poll place pick giveUpFirst =>
    p.waiting[place]?.bind fun w =>
      (w.poll cls p.broker pick giveUpFirst).1.map fun result => (place, .returned result)
  | .drop name =>
    (p.waiting.findIdx? (·.name == name)).map fun place => (place, .dropped)
  | _ => none

def isTurn (p : Pool W K H) : Standing → Action W K → Bool
  | .waiting i, .poll place _ _ => place == i
  | .waiting i, .drop name => p.waiting.findIdx? (·.name == name) == some i
  | _, _ => false

def standing (cls : DeviceClasses W K H) (p : Pool W K H) (now : Standing) :
    List (Action W K) → Standing
  | [] => now
  | action :: rest =>
    (p.step cls action).2.standing cls (now.next (p.vacated cls action)) rest

def turns (cls : DeviceClasses W K H) (p : Pool W K H) (now : Standing) :
    List (Action W K) → List (Turn W K H)
  | [] => []
  | action :: rest =>
    let after := (p.step cls action).2
    let later := after.turns cls (now.next (p.vacated cls action)) rest
    if p.isTurn now action then ⟨p.broker, after.broker⟩ :: later else later

/-! ### Places -/

def KeepsPlaces (p q : Pool W K H) : Prop :=
  ∀ (i : Nat) (w : Waiter), p.waiting[i]? = some w →
    ∃ w', q.waiting[i]? = some w' ∧ w.SameCall w'

namespace KeepsPlaces
variable {q : Pool W K H}

theorem of_waiting (h : q.waiting = p.waiting) : KeepsPlaces p q := by
  intro i w hw
  exact ⟨w, h ▸ hw, .refl w⟩

theorem notify (h : KeepsPlaces p q) : KeepsPlaces p q.notify := by
  intro i w hw
  obtain ⟨w', hw', hsame⟩ := h i w hw
  refine ⟨{ w' with notified := true }, ?_, hsame.trans (.notified w' true)⟩
  change (q.waiting.map _)[i]? = _
  rw [List.getElem?_map, hw', Option.map_some]

theorem notifying {α : Type} (p : Pool W K H)
    (op : Broker W K H → Except Refusal α × Broker W K H) :
    KeepsPlaces p (p.notifying op).2 := by
  have hsame (c : Broker W K H) : KeepsPlaces p { p with broker := c } := .of_waiting rfl
  rcases p.notifying_cases op with ⟨r, c, _, h⟩ | ⟨a, c, _, h⟩ <;> rw [h]
  · exact hsame c
  · exact (hsame c).notify

theorem set {place : Nat} {w w' : Waiter} (hw : p.waiting[place]? = some w) (h : w.SameCall w')
    (c : Broker W K H) : KeepsPlaces p ⟨c, p.waiting.set place w'⟩ := by
  intro i v hv
  by_cases hi : place = i
  · subst hi
    obtain rfl : w = v := Option.some.inj (hw.symm.trans hv)
    obtain ⟨hlt, _⟩ := List.getElem?_eq_some_iff.mp hw
    exact ⟨w', List.getElem?_set_self hlt, h⟩
  · exact ⟨v, (List.getElem?_set_ne hi).trans hv, .refl v⟩

theorem cancel (p : Pool W K H) (name : String) : KeepsPlaces p (p.cancel name).2 := by
  unfold Pool.cancel
  split
  · exact .of_waiting rfl
  · rename_i place _
    split
    · rename_i hw
      intro i v hv
      by_cases hi : place = i
      · subst hi
        rw [hw] at hv
        obtain rfl := Option.some.inj hv
        refine ⟨_, ?_, .cancelled rfl⟩
        rw [List.getElem?_modify_eq, hw]
        rfl
      · refine ⟨v, ?_, .refl v⟩
        rw [List.getElem?_modify_ne _ _ hi, hv]
    · exact .of_waiting rfl

theorem park (p : Pool W K H) (w : Waiter) (pick : Nat) (giveUpFirst : Bool) :
    KeepsPlaces p (p.park cls w pick giveUpFirst).2 := by
  unfold Pool.park
  split
  · exact .of_waiting rfl
  · intro i v hv
    obtain ⟨hlt, _⟩ := List.getElem?_eq_some_iff.mp hv
    exact ⟨v, (List.getElem?_append_left hlt).trans hv, .refl v⟩

end KeepsPlaces

theorem step_keepsPlaces {action : Action W K} (h : p.vacated cls action = none) :
    KeepsPlaces p (p.step cls action).2 := by
  cases action with
  | register | advance | world | enlist | delist | tryAcquire => exact .of_waiting rfl
  | rescan =>
    have hsame : KeepsPlaces p { p with broker := (p.broker.rescan cls).2 } := .of_waiting rfl
    exact hsame.notify
  | reset =>
    have hsame : KeepsPlaces p { p with broker := p.broker.reset } := .of_waiting rfl
    exact hsame.notify
  | add | remove | release | releaseAny | releaseAll => exact .notifying p _
  | park name criteria acquirer patience pick giveUpFirst => exact .park p _ pick giveUpFirst
  | cancel name => exact .cancel p name
  | drop name =>
    simp only [vacated, Option.map_eq_none_iff] at h
    simp only [step, drop, h]
    exact .of_waiting rfl
  | poll place pick giveUpFirst =>
    change KeepsPlaces p (p.pollAt cls place pick giveUpFirst).2
    unfold pollAt
    cases hw : p.waiting[place]? with
    | none => exact .of_waiting rfl
    | some w =>
      rcases w.poll_cases cls p.broker pick giveUpFirst with
        ⟨log, hp, _⟩ | ⟨_, _, _, _, hp⟩ | ⟨_, _, _, _, _, hp⟩ <;>
        simp only [vacated, hw, hp, Option.bind_some, Option.map_some] at h ⊢
      · exact .set hw (.notified w false) _
      · cases h
      · cases h

theorem step_vacates {action : Action W K} {place : Nat} {conclusion : Conclusion}
    (h : p.vacated cls action = some (place, conclusion)) :
    (p.step cls action).2.waiting = p.waiting.eraseIdx place := by
  cases action with
  | drop name =>
    obtain ⟨i, hi, hpair⟩ := Option.map_eq_some_iff.mp h
    cases hpair
    simp only [step, answering, drop, hi]
  | poll j pick giveUpFirst =>
    obtain ⟨w, hw, hmap⟩ := Option.bind_eq_some_iff.mp h
    obtain ⟨result, hresult, hpair⟩ := Option.map_eq_some_iff.mp hmap
    cases hpair
    simp only [step, pollAt, hw]
    split <;> rename_i hp <;> rw [hp] at hresult
    cases hresult
  | _ => cases h

theorem step_seat {action : Action W K} {i : Nat} {w : Waiter} (hw : p.waiting[i]? = some w)
    {j : Nat} (hj : (Standing.waiting i).next (p.vacated cls action) = .waiting j) :
    ∃ w', (p.step cls action).2.waiting[j]? = some w' ∧ w.SameCall w' := by
  cases hv : p.vacated cls action with
  | none =>
    rw [hv] at hj
    obtain rfl : i = j := Standing.waiting.inj hj
    exact step_keepsPlaces hv i w hw
  | some vacated =>
    obtain ⟨place, conclusion⟩ := vacated
    rw [hv] at hj
    refine ⟨w, ?_, .refl w⟩
    rw [step_vacates hv, List.getElem?_eraseIdx]
    simp only [Standing.next] at hj
    split at hj
    · cases hj
    · obtain rfl := Standing.waiting.inj hj
      split
      · have hbefore : ¬ i - 1 < place := by omega
        have hmoved : i - 1 + 1 = i := by omega
        rw [if_neg hbefore, hmoved, hw]
      · have hbehind : i < place := by omega
        rw [if_pos hbehind, hw]

/-! ### Turns -/

variable (cls) in
theorem poll_allOrNothing (w : Waiter) (b : Broker W K H) (pick : Nat) (giveUpFirst : Bool)
    (place : Nat) :
    AllOrNothing w.acquirer [⟨b, (w.poll cls b pick giveUpFirst).2.2⟩]
      (.begun place (w.poll cls b pick giveUpFirst).1) := by
  rcases w.poll_cases cls b pick giveUpFirst with
    ⟨_, hp, _⟩ | ⟨_, _, _, _, hp⟩ | ⟨id, e, _, he, _, hp⟩ <;> rw [hp]
  · exact List.forall_mem_singleton.mpr rfl
  · exact List.forall_mem_singleton.mpr rfl
  · exact ⟨[], _, rfl, List.forall_mem_nil _, Broker.leased_oneLeased he w.started⟩

variable (cls) in
theorem begun_ne_unavailable (w : Waiter) (b : Broker W K H) (pick : Nat) (giveUpFirst : Bool)
    (place : Nat) :
    Standing.begun place (w.poll cls b pick giveUpFirst).1 ≠
      .ended (.returned (.error .unavailable)) := by
  intro h
  rcases w.poll_cases cls b pick giveUpFirst with
    ⟨_, hp, _⟩ | ⟨_, _, _, hr, hp⟩ | ⟨_, _, _, _, _, hp⟩ <;> rw [hp] at h
  · cases h
  · cases h
    exact hr rfl
  · cases h

theorem pollAt_broker {i : Nat} {w : Waiter} (hw : p.waiting[i]? = some w) (pick : Nat)
    (giveUpFirst : Bool) :
    (p.pollAt cls i pick giveUpFirst).2.broker = (w.poll cls p.broker pick giveUpFirst).2.2 := by
  unfold pollAt
  rw [hw]
  dsimp only
  split <;> rename_i hp <;> rw [hp]

theorem pollAt_fst {i : Nat} {w : Waiter} (hw : p.waiting[i]? = some w) (pick : Nat)
    (giveUpFirst : Bool) :
    (p.pollAt cls i pick giveUpFirst).1 = .ofPoll (w.poll cls p.broker pick giveUpFirst).1 := by
  unfold pollAt
  rw [hw]
  dsimp only
  split <;> rename_i hp <;> rw [hp]
  rfl

variable (cls) in
theorem next_of_poll {i : Nat} {w : Waiter} (hw : p.waiting[i]? = some w) (pick : Nat)
    (giveUpFirst : Bool) :
    (Standing.waiting i).next (p.vacated cls (.poll i pick giveUpFirst)) =
      .begun i (w.poll cls p.broker pick giveUpFirst).1 := by
  simp only [vacated, hw, Option.bind_some]
  cases (w.poll cls p.broker pick giveUpFirst).1 with
  | none => rfl
  | some result => simp only [Option.map_some, Standing.next, Standing.begun, if_true]

theorem next_of_drop {i : Nat} {name : String}
    (h : p.waiting.findIdx? (·.name == name) = some i) :
    (Standing.waiting i).next (p.vacated cls (.drop name)) = .ended .dropped := by
  simp only [vacated, h, Option.map_some, Standing.next, if_true]

variable (cls) in
theorem next_of_not_turn {i : Nat} {action : Action W K}
    (h : p.isTurn (.waiting i) action = false) :
    ∃ j, (Standing.waiting i).next (p.vacated cls action) = .waiting j := by
  cases hv : p.vacated cls action with
  | none => exact ⟨i, rfl⟩
  | some vacated =>
    obtain ⟨place, conclusion⟩ := vacated
    have hother : place ≠ i := by
      rintro rfl
      cases action with
      | poll j pick giveUpFirst =>
        obtain ⟨w, _, hmap⟩ := Option.bind_eq_some_iff.mp hv
        obtain ⟨result, _, hpair⟩ := Option.map_eq_some_iff.mp hmap
        cases hpair
        simp [isTurn] at h
      | drop name =>
        obtain ⟨j, hj, hpair⟩ := Option.map_eq_some_iff.mp hv
        cases hpair
        simp [isTurn, hj] at h
      | _ => cases hv
    exact ⟨_, by rw [Standing.next, if_neg hother]⟩

variable (cls) in
theorem turn_allOrNothing {i : Nat} {w : Waiter} (hw : p.waiting[i]? = some w)
    {action : Action W K} (h : p.isTurn (.waiting i) action = true) :
    AllOrNothing w.acquirer [⟨p.broker, (p.step cls action).2.broker⟩]
      ((Standing.waiting i).next (p.vacated cls action)) ∧
    (Standing.waiting i).next (p.vacated cls action) ≠
      .ended (.returned (.error .unavailable)) := by
  cases action with
  | poll place pick giveUpFirst =>
    obtain rfl : place = i := by simpa [isTurn] using h
    have hbroker : (p.step cls (.poll place pick giveUpFirst)).2.broker =
        (w.poll cls p.broker pick giveUpFirst).2.2 := pollAt_broker hw pick giveUpFirst
    rw [hbroker, next_of_poll cls hw]
    exact ⟨poll_allOrNothing cls w p.broker pick giveUpFirst place,
      begun_ne_unavailable cls w p.broker pick giveUpFirst place⟩
  | drop name =>
    have hplace : p.waiting.findIdx? (·.name == name) = some i := by simpa [isTurn] using h
    rw [next_of_drop hplace]
    refine ⟨List.forall_mem_singleton.mpr ?_, nofun⟩
    exact congrArg _ (drop_broker p name)
  | _ => cases h

variable (cls) in
theorem turns_of_ended (conclusion : Conclusion) (actions : List (Action W K)) :
    p.turns cls (.ended conclusion) actions = [] ∧
      p.standing cls (.ended conclusion) actions = .ended conclusion := by
  induction actions generalizing p with
  | nil => exact ⟨rfl, rfl⟩
  | cons action rest ih =>
    obtain ⟨hturns, hstanding⟩ := ih (p := (p.step cls action).2)
    exact ⟨hturns, hstanding⟩

variable (cls) in
/-- Along every run, an acquire that waits comes to all or nothing, and while it waits it has its
place. -/
theorem standing_allOrNothing {i : Nat} {v w : Waiter} (hw : p.waiting[i]? = some w)
    (hsame : v.SameCall w) (actions : List (Action W K)) :
    AllOrNothing v.acquirer (p.turns cls (.waiting i) actions)
      (p.standing cls (.waiting i) actions) ∧
    p.standing cls (.waiting i) actions ≠ .ended (.returned (.error .unavailable)) ∧
    ∀ j, p.standing cls (.waiting i) actions = .waiting j →
      ∃ w', (p.run cls actions).waiting[j]? = some w' ∧ v.SameCall w' := by
  induction actions generalizing p i w with
  | nil =>
    refine ⟨List.forall_mem_nil _, nofun, ?_⟩
    intro j hj
    cases hj
    exact ⟨w, hw, hsame⟩
  | cons action rest ih =>
    simp only [turns, standing]
    cases hnext : (Standing.waiting i).next (p.vacated cls action) with
    | waiting j =>
      obtain ⟨w', hw', hsame'⟩ := step_seat hw hnext
      obtain ⟨hall, hrest⟩ := ih hw' (hsame.trans hsame')
      refine ⟨?_, hrest⟩
      cases hturn : p.isTurn (.waiting i) action with
      | false => exact hall
      | true =>
        have hidle := (turn_allOrNothing cls hw hturn).1
        rw [hnext] at hidle
        exact hall.cons (List.forall_mem_singleton.mp hidle)
    | ended conclusion =>
      have hturn : p.isTurn (.waiting i) action = true := by
        by_contra hother
        obtain ⟨j, hj⟩ := next_of_not_turn cls (Bool.eq_false_iff.mpr hother)
        rw [hnext] at hj
        cases hj
      obtain ⟨hlast, hrefusal⟩ := turn_allOrNothing cls hw hturn
      obtain ⟨hturns, hstanding⟩ :=
        turns_of_ended cls (p := (p.step cls action).2) conclusion rest
      rw [hnext] at hlast hrefusal
      rw [hturns, hstanding, if_pos hturn]
      refine ⟨hsame.acquirer ▸ hlast, hrefusal, nofun⟩

/-! ### Calls -/

structure Followed (W K H : Type) where
  turns : List (Turn W K H)
  standing : Standing

/-- Begins an acquire that may wait and follows it through whatever happens later. -/
def follow (cls : DeviceClasses W K H) (p : Pool W K H) (w : Waiter) (pick : Nat)
    (giveUpFirst : Bool) (later : List (Action W K)) : Followed W K H :=
  let (answer, after) := p.park cls w pick giveUpFirst
  let begun := Standing.begun p.waiting.length answer
  { turns := ⟨p.broker, after.broker⟩ :: after.turns cls begun later
    standing := after.standing cls begun later }

theorem park_seat {w : Waiter} {pick : Nat} {giveUpFirst : Bool}
    (h : (p.park cls w pick giveUpFirst).1 = none) :
    ∃ w', (p.park cls w pick giveUpFirst).2.waiting[p.waiting.length]? = some w' ∧
      w.SameCall w' := by
  rw [park_fst] at h
  unfold park
  rcases w.poll_cases cls p.broker pick giveUpFirst with
    ⟨log, hp, _⟩ | ⟨_, _, _, _, hp⟩ | ⟨_, _, _, _, _, hp⟩ <;> rw [hp] at h ⊢
  · exact ⟨_, List.getElem?_concat_length, .notified w false⟩
  · cases h
  · cases h

variable (cls) in
theorem follow_allOrNothing (p : Pool W K H) (w : Waiter) (pick : Nat) (giveUpFirst : Bool)
    (later : List (Action W K)) :
    AllOrNothing w.acquirer (p.follow cls w pick giveUpFirst later).turns
      (p.follow cls w pick giveUpFirst later).standing ∧
    (p.follow cls w pick giveUpFirst later).standing ≠
      .ended (.returned (.error .unavailable)) ∧
    ∀ place, (p.follow cls w pick giveUpFirst later).standing = .waiting place →
      ∃ w', ((p.park cls w pick giveUpFirst).2.run cls later).waiting[place]? = some w' ∧
        w.SameCall w' := by
  have hfirst := poll_allOrNothing cls w p.broker pick giveUpFirst p.waiting.length
  have hrefusal := begun_ne_unavailable cls w p.broker pick giveUpFirst p.waiting.length
  rw [← park_fst, ← park_broker] at hfirst
  rw [← park_fst] at hrefusal
  simp only [follow]
  cases hanswer : (p.park cls w pick giveUpFirst).1 with
  | none =>
    rw [hanswer] at hfirst
    obtain ⟨w', hw', hsame⟩ := park_seat hanswer
    obtain ⟨hall, hrest⟩ := standing_allOrNothing cls hw' hsame later
    exact ⟨hall.cons (List.forall_mem_singleton.mp hfirst), hrest⟩
  | some result =>
    rw [hanswer] at hfirst hrefusal
    obtain ⟨hturns, hstanding⟩ := turns_of_ended cls (p := (p.park cls w pick giveUpFirst).2)
      (.returned result) later
    simp only [Standing.begun, hturns, hstanding]
    exact ⟨hfirst, hrefusal, nofun⟩

/-- Begins an acquire without a deadline. Only one that blocks is parked. -/
def acquire (cls : DeviceClasses W K H) (p : Pool W K H) (name : String) (criteria : Criteria)
    (acquirer : Acquirer) (blocking : Bool) (pick : Nat) :
    Option (Except Refusal DeviceId) × Pool W K H :=
  match p.broker.round cls criteria acquirer p.broker.now blocking pick with
  | (some outcome, broker) => (some outcome, { p with broker })
  | (none, broker) =>
    let w : Waiter := { name, criteria, acquirer, started := p.broker.now, notified := false }
    (none, { broker, waiting := p.waiting ++ [w] })

variable (cls) in
theorem poll_of_endless {w : Waiter} (h : w.patience = .endless) (b : Broker W K H) (pick : Nat)
    (giveUpFirst : Bool) : w.poll cls b pick giveUpFirst = w.ask cls b pick := by
  have hgive (w' : Waiter) (hw' : w'.patience = .endless) (c : Broker W K H) :
      w'.giveUp c = (none, w', c) := by
    simp only [Waiter.giveUp, Waiter.expired, hw', Bool.false_eq_true, if_false]
  cases giveUpFirst with
  | true => simp only [Waiter.poll, if_true, hgive w h]
  | false =>
    simp only [Waiter.poll, Bool.false_eq_true, if_false]
    rcases w.ask_cases cls b pick with ⟨_, ha⟩ | ⟨_, _, ha⟩ | ha | ⟨_, _, _, _, _, ha⟩ <;>
      simp only [ha]
    · exact hgive w h b
    · exact hgive { w with notified := false } h _

variable (cls) in
theorem acquire_blocking (p : Pool W K H) (name : String) (criteria : Criteria)
    (acquirer : Acquirer) (pick : Nat) (giveUpFirst : Bool) :
    p.step cls (.park name criteria acquirer .endless pick giveUpFirst) =
      answering .ofPoll (p.acquire cls name criteria acquirer true pick) := by
  simp only [step, park, poll_of_endless, Waiter.ask, acquire, Broker.round, if_true]
  rcases p.broker.lease_cases cls criteria acquirer p.broker.now pick with
    ⟨_, hl⟩ | ⟨_, _, hl⟩ | ⟨_, _, _, _, _, hl⟩ <;> simp only [hl]

variable (cls) in
theorem acquire_prompt (p : Pool W K H) (name : String) (criteria : Criteria)
    (acquirer : Acquirer) (pick : Nat) :
    p.step cls (.tryAcquire criteria acquirer pick) =
      answering .ofPoll (p.acquire cls name criteria acquirer false pick) := by
  simp only [acquire, Broker.round_prompt]
  rfl

variable (cls) in
/-- An acquire that does not block is never parked, one that blocks is never told that every match
is at capacity, and both come to all or nothing. -/
theorem acquire_allOrNothing (p : Pool W K H) (name : String) (criteria : Criteria)
    (acquirer : Acquirer) (blocking : Bool) (pick : Nat) :
    ((p.acquire cls name criteria acquirer blocking pick).1 = none → blocking = true) ∧
    ((p.acquire cls name criteria acquirer blocking pick).1 = some (.error .unavailable) →
      blocking = false) ∧
    (blocking = false →
      (p.acquire cls name criteria acquirer blocking pick).2.waiting = p.waiting) ∧
    AllOrNothing acquirer
      [⟨p.broker, (p.acquire cls name criteria acquirer blocking pick).2.broker⟩]
      (.begun p.waiting.length (p.acquire cls name criteria acquirer blocking pick).1) := by
  unfold acquire Broker.round
  rcases p.broker.lease_cases cls criteria acquirer p.broker.now pick with
    ⟨_, hl⟩ | ⟨_, _, hl⟩ | ⟨id, e, _, he, _, hl⟩ <;> rw [hl]
  · exact ⟨nofun, nofun, fun _ => rfl, List.forall_mem_singleton.mpr rfl⟩
  · cases blocking with
    | true => exact ⟨fun _ => rfl, nofun, nofun, List.forall_mem_singleton.mpr rfl⟩
    | false => exact ⟨nofun, fun _ => rfl, fun _ => rfl, List.forall_mem_singleton.mpr rfl⟩
  · exact ⟨nofun, nofun, fun _ => rfl, [], _, rfl, List.forall_mem_nil _,
      Broker.leased_oneLeased he p.broker.now⟩

/-! ### Leases begin nowhere else -/

/-- Whether an action that hands out a lease has recorded that one for whoever asked for it, and
whether no lease has begun by any other action. -/
def Records (cls : DeviceClasses W K H) (p : Pool W K H) (action : Action W K) : Prop :=
  match (p.step cls action).1 with
  | .leased id => ∃ acquirer, p.requester action = some acquirer ∧
      p.broker.OneLeased acquirer id (p.step cls action).2.broker
  | _ => p.broker.NoneLeased (p.step cls action).2.broker

theorem records_of_allOrNothing (place : Nat) {action : Action W K} {acquirer : Acquirer}
    {answer : Option (Except Refusal DeviceId)} (hanswer : (p.step cls action).1 = .ofPoll answer)
    (hasks : p.requester action = some acquirer)
    (h : AllOrNothing acquirer [⟨p.broker, (p.step cls action).2.broker⟩]
      (.begun place answer)) : p.Records cls action := by
  have hidle : (⟨p.broker, (p.step cls action).2.broker⟩ : Turn W K H).Idle →
      p.broker.NoneLeased (p.step cls action).2.broker :=
    fun hidle => .of_ledger (congrArg Registry.ledger hidle)
  unfold Records
  rw [hanswer]
  match answer with
  | none => exact hidle (List.forall_mem_singleton.mp h)
  | some (.error r) => exact hidle (List.forall_mem_singleton.mp h)
  | some (.ok id) =>
    exact ⟨acquirer, hasks, AllOrNothing.leased h⟩

theorem step_noneLeased (hp : Reachable cls p) {action : Action W K}
    (h : p.requester action = none) : p.broker.NoneLeased (p.step cls action).2.broker := by
  have hb := hp.accounted
  have hnotifying {α : Type} {op : Broker W K H → Except Refusal α × Broker W K H}
      (hop : p.broker.NoneLeased (op p.broker).2) :
      p.broker.NoneLeased (p.notifying op).2.broker := by
    rw [notifying_broker]
    exact hop
  cases action with
  | register | advance | world => exact .of_ledger rfl
  | tryAcquire | park => cases h
  | poll place pick giveUpFirst =>
    have hnone : p.waiting[place]? = none := Option.map_eq_none_iff.mp h
    simp only [step, pollAt, hnone]
    exact .of_ledger rfl
  | cancel name => exact .of_ledger (congrArg (·.ledger) (cancel_broker p name))
  | drop name => exact .of_ledger (congrArg (·.ledger) (drop_broker p name))
  | rescan => exact .rescan hb
  | reset =>
    intro a d
    exact List.nil_prefix
  | enlist list id => exact .of_ledger (Broker.enlist_ledger p.broker list id)
  | delist list id => exact .of_ledger (Broker.delist_ledger p.broker list id)
  | add id => exact hnotifying (.of_ledger (Broker.add_ledger cls p.broker id))
  | remove id force => exact hnotifying (.remove hb id force)
  | release id acquirer =>
    refine hnotifying ?_
    rw [Broker.release_snd]
    exact .endLease hb.pruned id (some acquirer)
  | releaseAny id => exact hnotifying (.endLease hb.pruned id none)
  | releaseAll acquirer => exact hnotifying (.releaseAll hb.pruned acquirer)

theorem step_records (hp : Reachable cls p) (action : Action W K) : p.Records cls action := by
  cases hasks : p.requester action with
  | none =>
    have hnone := step_noneLeased hp hasks
    unfold Records
    split
    · rename_i id hleased
      obtain ⟨acquirer, _, hsome, _⟩ := step_leased hleased
      rw [hasks] at hsome
      cases hsome
    · exact hnone
  | some acquirer =>
    cases action with
    | tryAcquire criteria acquirer pick =>
      have hall := (acquire_allOrNothing cls p "" criteria acquirer false pick).2.2.2
      have hstep := acquire_prompt cls p "" criteria acquirer pick
      refine records_of_allOrNothing p.waiting.length (congrArg Prod.fst hstep) rfl ?_
      rw [hstep]
      exact hall
    | park name criteria acquirer patience pick giveUpFirst =>
      refine records_of_allOrNothing 0 rfl rfl ?_
      change AllOrNothing acquirer [⟨p.broker, (p.park cls _ pick giveUpFirst).2.broker⟩] _
      rw [park_fst, park_broker]
      exact poll_allOrNothing cls _ p.broker pick giveUpFirst 0
    | poll place pick giveUpFirst =>
      obtain ⟨w, hw, rfl⟩ := Option.map_eq_some_iff.mp hasks
      have hanswer : (p.step cls (.poll place pick giveUpFirst)).1 =
          .ofPoll (w.poll cls p.broker pick giveUpFirst).1 := pollAt_fst hw pick giveUpFirst
      refine records_of_allOrNothing place hanswer hasks ?_
      change AllOrNothing w.acquirer [⟨p.broker, (p.pollAt cls place pick giveUpFirst).2.broker⟩] _
      rw [pollAt_broker hw]
      exact poll_allOrNothing cls w p.broker pick giveUpFirst place
    | _ => cases hasks

/-- Whatever happens in a run from the first poll of an acquire on, an acquire that returns a device
has recorded one lease, its own on that device, and one that returns a refusal, is let go or still
waits has recorded none. It is refused for want of a free device only if it does not block, and
parked only if it does. Every lease that begins is the one that an action hands out. -/
theorem acquires_all_or_nothing (hp : Reachable cls p) :
    (∀ (w : Waiter) (pick : Nat) (giveUpFirst : Bool) (later : List (Action W K)),
      AllOrNothing w.acquirer (p.follow cls w pick giveUpFirst later).turns
        (p.follow cls w pick giveUpFirst later).standing ∧
      (p.follow cls w pick giveUpFirst later).standing ≠
        .ended (.returned (.error .unavailable)) ∧
      ∀ place, (p.follow cls w pick giveUpFirst later).standing = .waiting place →
        ∃ w', ((p.park cls w pick giveUpFirst).2.run cls later).waiting[place]? = some w' ∧
          w.SameCall w') ∧
    (∀ name criteria acquirer blocking pick,
      ((p.acquire cls name criteria acquirer blocking pick).1 = none → blocking = true) ∧
      ((p.acquire cls name criteria acquirer blocking pick).1 = some (.error .unavailable) →
        blocking = false) ∧
      (blocking = false →
        (p.acquire cls name criteria acquirer blocking pick).2.waiting = p.waiting) ∧
      AllOrNothing acquirer
        [⟨p.broker, (p.acquire cls name criteria acquirer blocking pick).2.broker⟩]
        (.begun p.waiting.length (p.acquire cls name criteria acquirer blocking pick).1)) ∧
    (∀ action : Action W K, p.Records cls action) :=
  ⟨fun w pick giveUpFirst later => follow_allOrNothing cls p w pick giveUpFirst later,
    fun name criteria acquirer blocking pick =>
      acquire_allOrNothing cls p name criteria acquirer blocking pick,
    fun action => step_records hp action⟩

def crowded : Pool Bench DeviceClass Handle :=
  sharedPool.run Bench.classes [.tryAcquire {} "bob" 0]

/-- An acquirer that comes second to a crowded pool and can be cancelled. -/
def latecomer : Waiter :=
  { name := "second", criteria := {}, acquirer := "dan", started := 0,
    patience := .cancellable false }

/-- The latecomer asks in vain, moves up and is served when a lease has ended. -/
def serves : List (Action Bench DeviceClass) :=
  [.poll 1 0 false, .drop "first", .releaseAny "B", .cancel "second", .poll 0 0 false]

/-- A lease has ended, but the latecomer is cancelled before it is polled. -/
def cancels : List (Action Bench DeviceClass) :=
  [.releaseAny "A", .cancel "second", .poll 1 0 true, .rescan]

theorem acquires_all_or_nothing_crowded :
    AllOrNothing "dan" (crowded.follow Bench.classes latecomer 0 false serves).turns
      (.ended (.returned (.ok "B"))) ∧
    (crowded.follow Bench.classes latecomer 0 false serves).turns.length = 3 ∧
    AllOrNothing "dan" (crowded.follow Bench.classes latecomer 0 false cancels).turns
      (.ended (.returned (.error .cancelled))) ∧
    (crowded.acquire Bench.classes "third" {} "eve" false 0).1 = some (.error .unavailable) ∧
    crowded.broker.NoneLeased (crowded.step Bench.classes .rescan).2.broker := by
  obtain ⟨hfollow, _, hrecords⟩ := acquires_all_or_nothing (sharedPool_reachable.run
    [.tryAcquire {} "bob" 0])
  have hserved := (hfollow latecomer 0 false serves).1
  have hcancelled := (hfollow latecomer 0 false cancels).1
  have hb : (crowded.follow Bench.classes latecomer 0 false serves).standing =
      .ended (.returned (.ok "B")) := by decide +kernel
  have hc : (crowded.follow Bench.classes latecomer 0 false cancels).standing =
      .ended (.returned (.error .cancelled)) := by decide +kernel
  refine ⟨?_, by decide +kernel, ?_, by decide +kernel, hrecords .rescan⟩
  · rw [← hb]
    exact hserved
  · rw [← hc]
    exact hcancelled

end Pool

end LeaseBroker
