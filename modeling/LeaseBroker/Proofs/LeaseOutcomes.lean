import LeaseBroker.Proofs.Acquires
import LeaseBroker.Proofs.Indexes
import LeaseBroker.Proofs.Wakeups

/-!
# What asking for a lease comes to

Whether a device is free counts twice for an acquirer. The criteria may ask for it, and no other
device can be leased. So criteria that want a free device are never told to wait, as every match can
be leased, and criteria that want a full one never lead to a lease, as no match can.
-/

set_option autoImplicit false

namespace LeaseBroker

/-! ### Criteria -/

namespace Criteria
variable {criteria : Criteria} {info : DeviceInfo} {available : Bool}

/-- Whether a device with that info and availability has everything that is asked of it. -/
structure Satisfied (criteria : Criteria) (info : DeviceInfo) (available : Bool) : Prop where
  patterns : ∀ fp ∈ criteria.patterns, fp.2.isMatch (fp.1.value info) = true
  free : ∀ wanted, criteria.free = some wanted → available = wanted
  busy : ∀ wanted, criteria.busy = some wanted → available = !wanted

theorem satisfied_iff : criteria.Satisfied info available ↔
    criteria.matchesInfo info = true ∧ criteria.matchesAvailability available = true := by
  simp only [matchesInfo, matchesAvailability, List.all_eq_true, Bool.and_eq_true,
    Option.all_eq_true, beq_iff_eq]
  constructor
  · intro h
    refine ⟨h.patterns, fun wanted hw => (h.free wanted hw).symm, fun wanted hw => ?_⟩
    rw [h.busy wanted hw, Bool.not_not]
  · rintro ⟨hpatterns, hfree, hbusy⟩
    refine ⟨hpatterns, fun wanted hw => (hfree wanted hw).symm, fun wanted hw => ?_⟩
    rw [hbusy wanted hw, Bool.not_not]

def WantsFree (criteria : Criteria) : Prop := criteria.free = some true ∨ criteria.busy = some false

def WantsFull (criteria : Criteria) : Prop := criteria.free = some false ∨ criteria.busy = some true

theorem WantsFree.eq_true (h : criteria.WantsFree) (hs : criteria.Satisfied info available) :
    available = true :=
  h.elim (hs.free true) (hs.busy false)

theorem WantsFull.eq_false (h : criteria.WantsFull) (hs : criteria.Satisfied info available) :
    available = false :=
  h.elim (hs.free false) (hs.busy true)

end Criteria

/-! ### Asking once -/

namespace Broker
variable {W K H : Type} {cls : DeviceClasses W K H} {b c : Broker W K H} {criteria : Criteria}
  {id : DeviceId} {acquirer : Acquirer}

theorem available_eq_ok_iff {free : Bool} :
    b.available cls id = .ok free ↔ ∃ e, b.entries.get? id = some e ∧ b.isFree cls e = free := by
  unfold available entry
  cases b.entries.get? id <;> simp [Except.map]

theorem mem_matching_iff_satisfied : id ∈ b.matching cls criteria ↔
    ∃ info free, b.info id = .ok info ∧ b.available cls id = .ok free ∧
      criteria.Satisfied info free := by
  rw [mem_matching_iff]
  constructor
  · rintro ⟨e, he, hinfo, hfree⟩
    exact ⟨e.info, b.isFree cls e, Pool.info_eq_ok_iff.mpr ⟨e, he, rfl⟩,
      available_eq_ok_iff.mpr ⟨e, he, rfl⟩, Criteria.satisfied_iff.mpr ⟨hinfo, hfree⟩⟩
  · rintro ⟨info, free, hinfo, hfree, hs⟩
    obtain ⟨e, he, rfl⟩ := Pool.info_eq_ok_iff.mp hinfo
    obtain ⟨e', he', rfl⟩ := available_eq_ok_iff.mp hfree
    obtain rfl := Option.some.inj (he.symm.trans he')
    exact ⟨e, he, Criteria.satisfied_iff.mp hs⟩

theorem mem_matchingFree_iff_available : id ∈ b.matchingFree cls criteria ↔
    id ∈ b.matching cls criteria ∧ b.available cls id = .ok true := by
  rw [mem_matchingFree_iff, mem_matching_iff, available_eq_ok_iff]
  constructor
  · rintro ⟨e, he, hinfo, hav, hf⟩
    exact ⟨⟨e, he, hinfo, hf ▸ hav⟩, e, he, hf⟩
  · rintro ⟨⟨e, he, hinfo, hav⟩, e', he', hf⟩
    obtain rfl := Option.some.inj (he.symm.trans he')
    exact ⟨e, he, hinfo, hf ▸ hav, hf⟩

theorem available_of_mem_matching (h : id ∈ b.matching cls criteria) :
    ∃ free, b.available cls id = .ok free := by
  obtain ⟨_, free, _, hfree, _⟩ := mem_matching_iff_satisfied.mp h
  exact ⟨free, hfree⟩

theorem matchingFree_eq_nil_iff : b.matchingFree cls criteria = [] ↔
    ∀ id ∈ b.matching cls criteria, b.available cls id = .ok false := by
  rw [List.eq_nil_iff_forall_not_mem]
  constructor
  · intro h id hid
    obtain ⟨free, hfree⟩ := available_of_mem_matching hid
    cases free with
    | false => exact hfree
    | true => exact absurd (mem_matchingFree_iff_available.mpr ⟨hid, hfree⟩) (h id)
  · intro h id hid
    obtain ⟨hmatch, hfree⟩ := mem_matchingFree_iff_available.mp hid
    rw [h id hmatch] at hfree
    cases hfree

theorem exists_choose {first : DeviceId} {rest : List DeviceId} (h : id ∈ first :: rest) :
    ∃ pick, choose first rest pick = id := by
  obtain ⟨i, hi, hget⟩ := List.getElem_of_mem h
  refine ⟨i, ?_⟩
  unfold choose
  rw [List.get_eq_getElem, ← hget]
  congr 1
  exact Nat.mod_eq_of_lt hi

theorem exists_pick (h : id ∈ b.matchingFree cls criteria) (acquirer : Acquirer)
    (started : Moment) : ∃ pick, (b.lease cls criteria acquirer started pick).1 = .ok id := by
  have hmatch : b.matching cls criteria ≠ [] :=
    List.ne_nil_of_mem (mem_matchingFree_iff_available.mp h).1
  obtain ⟨e, he, _⟩ := (mem_matchingFree_iff cls b).mp h
  cases hfree : b.matchingFree cls criteria with
  | nil =>
    rw [hfree] at h
    cases h
  | cons first rest =>
    obtain ⟨pick, hpick⟩ := exists_choose (hfree ▸ h)
    refine ⟨pick, ?_⟩
    simp only [lease, if_neg hmatch, hfree, hpick, he]

structure LeasedOnly (b : Broker W K H) (acquirer : Acquirer) (id : DeviceId) (started : Moment)
    (c : Broker W K H) : Prop extends b.OneLeased acquirer id c where
  entry : ∃ e, b.entries.get? id = some e ∧
    c.entries.get? id = some { e with leases := e.leases + 1 }
  world : c.world = b.world
  now : c.now = b.now
  log : c.log = .acquired id acquirer (b.now - started) :: b.log

theorem leased_leasedOnly {e : Entry K H} (he : b.entries.get? id = some e)
    (started : Moment) : b.LeasedOnly acquirer id started (b.leased id e acquirer started) where
  toOneLeased := leased_oneLeased he started
  entry := ⟨e, he, SortedMap.get?_insert_self _ _ _⟩
  world := rfl
  now := rfl
  log := rfl

/-- What a request for a lease is told, and what it leaves behind. -/
structure Told (cls : DeviceClasses W K H) (b : Broker W K H) (criteria : Criteria)
    (acquirer : Acquirer) (started : Moment) (answer : Except Refusal DeviceId)
    (c : Broker W K H) : Prop where
  noMatch : answer = .error .noMatch ↔ b.matching cls criteria = []
  unavailable : answer = .error .unavailable ↔ b.matching cls criteria ≠ [] ∧
    ∀ id ∈ b.matching cls criteria, b.available cls id = .ok false
  refused : ∀ r, answer = .error r → (r = .noMatch ∨ r = .unavailable) ∧ c = b
  leased : ∀ id, answer = .ok id → id ∈ b.matching cls criteria ∧
    b.available cls id = .ok true ∧ b.LeasedOnly acquirer id started c

variable (cls b criteria acquirer) in
theorem lease_told (started : Moment) (pick : Nat) :
    Told cls b criteria acquirer started (b.lease cls criteria acquirer started pick).1
      (b.lease cls criteria acquirer started pick).2 := by
  rcases b.lease_cases cls criteria acquirer started pick with
    ⟨hm, hl⟩ | ⟨hm, hf, hl⟩ | ⟨id, e, hid, he, _, hl⟩ <;> rw [hl]
  · refine ⟨⟨fun _ => hm, fun _ => rfl⟩, ⟨nofun, fun h => absurd hm h.1⟩, ?_, nofun⟩
    rintro r ⟨⟩
    exact ⟨Or.inl rfl, rfl⟩
  · have hfull := matchingFree_eq_nil_iff.mp hf
    refine ⟨⟨nofun, fun h => absurd h hm⟩, ⟨fun _ => ⟨hm, hfull⟩, fun _ => rfl⟩, ?_, nofun⟩
    rintro r ⟨⟩
    exact ⟨Or.inr rfl, rfl⟩
  · obtain ⟨hmatch, hfree⟩ := mem_matchingFree_iff_available.mp hid
    refine ⟨⟨nofun, ?_⟩, ⟨nofun, ?_⟩, nofun, ?_⟩
    · intro hnone
      exact absurd hnone (List.ne_nil_of_mem hmatch)
    · rintro ⟨_, hfull⟩
      rw [hfull id hmatch] at hfree
      cases hfree
    · rintro _ ⟨⟩
      exact ⟨hmatch, hfree, leased_leasedOnly he started⟩

theorem exists_pick_iff (acquirer : Acquirer) (started : Moment) :
    (∃ pick, (b.lease cls criteria acquirer started pick).1 = .ok id) ↔
      id ∈ b.matching cls criteria ∧ b.available cls id = .ok true := by
  constructor
  · rintro ⟨pick, hpick⟩
    obtain ⟨hmatch, hfree, _⟩ := (lease_told cls b criteria acquirer started pick).leased id hpick
    exact ⟨hmatch, hfree⟩
  · intro h
    exact exists_pick (mem_matchingFree_iff_available.mpr h) acquirer started

/-! ### Flags that settle the outcome -/

theorem not_atCapacity_of_wantsFree (h : criteria.WantsFree) : ¬ b.AtCapacity cls criteria := by
  intro hfull
  obtain ⟨id, hid⟩ := List.exists_mem_of_ne_nil _ hfull.matched
  obtain ⟨_, free, _, hfree, hs⟩ := mem_matching_iff_satisfied.mp hid
  have hnot := matchingFree_eq_nil_iff.mp hfull.noneFree id hid
  rw [hfree, h.eq_true hs] at hnot
  cases hnot

theorem not_mem_matchingFree_of_wantsFull (h : criteria.WantsFull) :
    id ∉ b.matchingFree cls criteria := by
  intro hid
  obtain ⟨hmatch, hfree⟩ := mem_matchingFree_iff_available.mp hid
  obtain ⟨_, free, _, hfull, hs⟩ := mem_matching_iff_satisfied.mp hmatch
  rw [hfree, h.eq_false hs] at hfull
  cases hfull

theorem lease_ne_unavailable (h : criteria.WantsFree) (started : Moment) (pick : Nat) :
    (b.lease cls criteria acquirer started pick).1 ≠ .error .unavailable := by
  intro hu
  obtain ⟨hmatch, hfull⟩ := (lease_told cls b criteria acquirer started pick).unavailable.mp hu
  exact not_atCapacity_of_wantsFree h ⟨hmatch, matchingFree_eq_nil_iff.mpr hfull⟩

theorem lease_ne_ok (h : criteria.WantsFull) (started : Moment) (pick : Nat) :
    (b.lease cls criteria acquirer started pick).1 ≠ .ok id := by
  intro hok
  obtain ⟨hmatch, hfree, _⟩ := (lease_told cls b criteria acquirer started pick).leased id hok
  exact not_mem_matchingFree_of_wantsFull h (mem_matchingFree_iff_available.mpr ⟨hmatch, hfree⟩)

/-- Whether an acquire that wants a free device may wait makes no difference. -/
theorem round_of_wantsFree (h : criteria.WantsFree) (started : Moment) (blocking : Bool)
    (pick : Nat) : b.round cls criteria acquirer started blocking pick =
      (some (b.lease cls criteria acquirer started pick).1,
        (b.lease cls criteria acquirer started pick).2) := by
  have hne : (b.lease cls criteria acquirer started pick).1 ≠ .error .unavailable :=
    lease_ne_unavailable h started pick
  unfold round
  split <;> rename_i hl
  · rw [hl] at hne
    exact absurd rfl hne
  · rw [hl]

end Broker

namespace Waiter
variable {W K H : Type} {w : Waiter}

theorem poll_ne_none (h : w.criteria.WantsFree) (hw : w.notified = true)
    (cls : DeviceClasses W K H) (b : Broker W K H) (pick : Nat) (giveUpFirst : Bool) :
    (w.poll cls b pick giveUpFirst).1 ≠ none := by
  rcases w.poll_cases cls b pick giveUpFirst with
    ⟨_, hp, hfull⟩ | ⟨_, _, _, _, hp⟩ | ⟨_, _, _, _, _, hp⟩ <;> rw [hp]
  · obtain ⟨hmatch, hnone⟩ := hfull hw
    exact absurd ⟨hmatch, hnone⟩ (Broker.not_atCapacity_of_wantsFree h)
  · nofun
  · nofun

theorem poll_ne_ok (h : w.criteria.WantsFull) (cls : DeviceClasses W K H) (b : Broker W K H)
    (pick : Nat) (giveUpFirst : Bool) (id : DeviceId) :
    (w.poll cls b pick giveUpFirst).1 ≠ some (.ok id) := by
  rcases w.poll_cases cls b pick giveUpFirst with
    ⟨_, hp, _⟩ | ⟨_, _, _, _, hp⟩ | ⟨_, _, hid, _, _, hp⟩ <;> rw [hp]
  · nofun
  · nofun
  · exact absurd hid (Broker.not_mem_matchingFree_of_wantsFull h)

end Waiter

namespace Pool
variable {W K H : Type} {cls : DeviceClasses W K H} {p : Pool W K H} {criteria : Criteria}

/-! ### Who waits -/

theorem criteria_of_notify {w : Waiter} (hw : w ∈ p.notify.waiting) :
    ∃ v ∈ p.waiting, v.criteria = w.criteria := by
  obtain ⟨v, hv, rfl⟩ := List.mem_map.mp hw
  exact ⟨v, hv, rfl⟩

theorem criteria_of_notifying {α : Type} {op : Broker W K H → Except Refusal α × Broker W K H}
    {w : Waiter} (hw : w ∈ (p.notifying op).2.waiting) :
    ∃ v ∈ p.waiting, v.criteria = w.criteria := by
  rcases p.notifying_cases op with ⟨_, _, _, h⟩ | ⟨_, c, _, h⟩ <;> rw [h] at hw
  · exact ⟨w, hw, rfl⟩
  · exact criteria_of_notify (p := { p with broker := c }) hw

theorem criteria_of_pollAt {place pick : Nat} {giveUpFirst : Bool} {w : Waiter}
    (hw : w ∈ (p.pollAt cls place pick giveUpFirst).2.waiting) :
    ∃ v ∈ p.waiting, v.criteria = w.criteria := by
  unfold pollAt at hw
  split at hw
  · exact ⟨w, hw, rfl⟩
  · rename_i v hv
    split at hw <;> rename_i hpoll
    · obtain ⟨rfl, _⟩ := Broker.silent_of_poll hpoll
      rcases List.mem_or_eq_of_mem_set hw with hold | rfl
      · exact ⟨w, hold, rfl⟩
      · exact ⟨v, List.mem_of_getElem? hv, rfl⟩
    · exact ⟨w, List.mem_of_mem_eraseIdx hw, rfl⟩

theorem criteria_of_park {v w : Waiter} {pick : Nat} {giveUpFirst : Bool}
    (hw : w ∈ (p.park cls v pick giveUpFirst).2.waiting) :
    w ∈ p.waiting ∨
      ((v.poll cls p.broker pick giveUpFirst).1 = none ∧ v.criteria = w.criteria) := by
  unfold park at hw
  split at hw <;> rename_i hpoll
  · exact Or.inl hw
  · obtain ⟨rfl, _⟩ := Broker.silent_of_poll hpoll
    rcases List.mem_append.mp hw with hold | hnew
    · exact Or.inl hold
    · rw [List.mem_singleton.mp hnew, hpoll]
      exact Or.inr ⟨rfl, rfl⟩

theorem criteria_of_step {action : Action W K} {w : Waiter}
    (hw : w ∈ (p.step cls action).2.waiting) :
    (∃ v ∈ p.waiting, v.criteria = w.criteria) ∨
    (∃ v : Waiter, v.notified = true ∧ v.criteria = w.criteria ∧
      ∃ pick giveUpFirst, (v.poll cls p.broker pick giveUpFirst).1 = none) := by
  cases action with
  | register | enlist | delist | tryAcquire | advance | world => exact Or.inl ⟨w, hw, rfl⟩
  | rescan =>
    exact Or.inl (criteria_of_notify (p := { p with broker := (p.broker.rescan cls).2 }) hw)
  | reset => exact Or.inl (criteria_of_notify (p := { p with broker := p.broker.reset }) hw)
  | add | remove | release | releaseAny | releaseAll => exact Or.inl (criteria_of_notifying hw)
  | poll place pick giveUpFirst => exact Or.inl (criteria_of_pollAt hw)
  | drop name => exact Or.inl ⟨w, mem_of_drop hw, rfl⟩
  | cancel name =>
    obtain ⟨v, hv, _, hcriteria⟩ := silent_of_cancel hw
    exact Or.inl ⟨v, hv, hcriteria⟩
  | park name criteria acquirer patience pick giveUpFirst =>
    rcases criteria_of_park hw with hold | ⟨hnone, hcriteria⟩
    · exact Or.inl ⟨w, hold, rfl⟩
    · exact Or.inr ⟨_, rfl, hcriteria, pick, giveUpFirst, hnone⟩

/-- Nobody who wants a free device ever waits. -/
theorem Reachable.not_wantsFree (hp : Reachable cls p) :
    ∀ w ∈ p.waiting, ¬ w.criteria.WantsFree := by
  induction hp with
  | start => exact nofun
  | step action _ ih =>
    intro w hw hfree
    rcases criteria_of_step hw with ⟨v, hv, hcriteria⟩ | ⟨v, hn, hcriteria, pick, first, hnone⟩
    · exact ih v hv (hcriteria ▸ hfree)
    · exact v.poll_ne_none (hcriteria ▸ hfree) hn cls _ pick first hnone

/-! ### Calls -/

theorem acquire_eq_tryAcquire (name : String) (acquirer : Acquirer) (pick : Nat) :
    p.acquire cls name criteria acquirer false pick =
      (some (p.broker.tryAcquire cls criteria acquirer pick).1,
        { p with broker := (p.broker.tryAcquire cls criteria acquirer pick).2 }) := by
  simp only [acquire, Broker.round_prompt]
  rfl

theorem acquire_of_wantsFree (h : criteria.WantsFree) (name : String) (acquirer : Acquirer)
    (blocking : Bool) (pick : Nat) : p.acquire cls name criteria acquirer blocking pick =
      p.acquire cls name criteria acquirer false pick := by
  simp only [acquire, Broker.round_of_wantsFree h]

theorem park_of_wantsFree {w : Waiter} (h : w.criteria.WantsFree) (hw : w.notified = true)
    (pick : Nat) (giveUpFirst : Bool) (later : List (Action W K)) :
    (p.park cls w pick giveUpFirst).2.waiting = p.waiting ∧
    ∃ result, (p.park cls w pick giveUpFirst).1 = some result ∧
      (p.follow cls w pick giveUpFirst later).standing = .ended (.returned result) := by
  have hpoll := w.poll_ne_none h hw cls p.broker pick giveUpFirst
  rw [← park_fst] at hpoll
  obtain ⟨result, hresult⟩ := Option.ne_none_iff_exists'.mp hpoll
  refine ⟨?_, result, hresult, ?_⟩
  · unfold park at hresult ⊢
    split
    · rfl
    · rename_i hnone
      rw [hnone] at hresult
      cases hresult
  · simp only [follow, hresult]
    exact (turns_of_ended cls (.returned result) later).2

theorem poll_of_next {i : Nat} {w : Waiter} (hw : p.waiting[i]? = some w) {action : Action W K}
    {result : Except Refusal DeviceId}
    (h : (Standing.waiting i).next (p.vacated cls action) = .ended (.returned result)) :
    ∃ pick giveUpFirst, (w.poll cls p.broker pick giveUpFirst).1 = some result := by
  have hturn : p.isTurn (.waiting i) action = true := by
    by_contra hother
    obtain ⟨j, hj⟩ := next_of_not_turn cls (Bool.eq_false_iff.mpr hother)
    rw [h] at hj
    cases hj
  cases action with
  | poll place pick giveUpFirst =>
    obtain rfl : place = i := by simpa [isTurn] using hturn
    rw [next_of_poll cls hw] at h
    refine ⟨pick, giveUpFirst, ?_⟩
    cases hpoll : (w.poll cls p.broker pick giveUpFirst).1 with
    | none =>
      rw [hpoll] at h
      cases h
    | some answer =>
      rw [hpoll] at h
      cases h
      rfl
  | drop name =>
    have hplace : p.waiting.findIdx? (·.name == name) = some i := by simpa [isTurn] using hturn
    rw [next_of_drop hplace] at h
    cases h
  | _ => cases hturn

theorem poll_of_standing {i : Nat} {v w : Waiter} (hw : p.waiting[i]? = some w)
    (hsame : v.SameCall w) {actions : List (Action W K)} {result : Except Refusal DeviceId}
    (h : p.standing cls (.waiting i) actions = .ended (.returned result)) :
    ∃ (u : Waiter) (b : Broker W K H) (pick : Nat) (giveUpFirst : Bool), v.SameCall u ∧
      (u.poll cls b pick giveUpFirst).1 = some result := by
  induction actions generalizing p i w with
  | nil => cases h
  | cons action rest ih =>
    simp only [standing] at h
    cases hnext : (Standing.waiting i).next (p.vacated cls action) with
    | waiting j =>
      obtain ⟨w', hw', hsame'⟩ := step_seat hw hnext
      rw [hnext] at h
      exact ih hw' (hsame.trans hsame') h
    | ended conclusion =>
      rw [hnext, (turns_of_ended cls conclusion rest).2] at h
      cases h
      obtain ⟨pick, giveUpFirst, hpoll⟩ := poll_of_next hw hnext
      exact ⟨w, p.broker, pick, giveUpFirst, hsame, hpoll⟩

theorem poll_of_follow {w : Waiter} {pick : Nat} {giveUpFirst : Bool}
    {later : List (Action W K)} {result : Except Refusal DeviceId}
    (h : (p.follow cls w pick giveUpFirst later).standing = .ended (.returned result)) :
    ∃ (u : Waiter) (b : Broker W K H) (pick : Nat) (giveUpFirst : Bool), w.SameCall u ∧
      (u.poll cls b pick giveUpFirst).1 = some result := by
  simp only [follow] at h
  cases hanswer : (p.park cls w pick giveUpFirst).1 with
  | none =>
    obtain ⟨w', hw', hsame⟩ := park_seat hanswer
    rw [hanswer] at h
    exact poll_of_standing hw' hsame h
  | some answer =>
    rw [hanswer, Standing.begun, (turns_of_ended cls _ later).2] at h
    cases h
    rw [park_fst] at hanswer
    exact ⟨w, p.broker, pick, giveUpFirst, .refl w, hanswer⟩

/-- Whoever wants a device at capacity is given none, whatever happens while it waits. -/
theorem follow_of_wantsFull {w : Waiter} (h : w.criteria.WantsFull) (pick : Nat)
    (giveUpFirst : Bool) (later : List (Action W K)) (id : DeviceId) :
    (p.follow cls w pick giveUpFirst later).standing ≠ .ended (.returned (.ok id)) := by
  intro hreturned
  obtain ⟨u, b, pick, giveUpFirst, hsame, hpoll⟩ := poll_of_follow hreturned
  exact u.poll_ne_ok (hsame.criteria ▸ h) cls b pick giveUpFirst id hpoll

/-- The matches are listed in ascending order and are the registered devices that have everything
asked of them. An acquire that does not block is refused if there are none, is refused otherwise if
each is at capacity, and in both cases changes nothing. Else it is given a free match, which may be
any of them, and the one lease is all that changes. If only free devices are wanted, it is never
told that they are at capacity and nobody ever waits. If only devices at capacity are wanted, no
lease ever comes of it. -/
theorem lease_outcomes (hp : Reachable cls p) (criteria : Criteria) (acquirer : Acquirer) :
    (p.broker.matching cls criteria).Pairwise (· < ·) ∧
    (∀ id, id ∈ p.broker.matching cls criteria ↔ ∃ info free, p.broker.info id = .ok info ∧
      p.broker.available cls id = .ok free ∧ criteria.Satisfied info free) ∧
    (∀ name pick, ∃ answer c,
      p.acquire cls name criteria acquirer false pick = (some answer, { p with broker := c }) ∧
      p.broker.Told cls criteria acquirer p.broker.now answer c) ∧
    (∀ name id, (∃ pick, (p.acquire cls name criteria acquirer false pick).1 = some (.ok id)) ↔
      id ∈ p.broker.matching cls criteria ∧ p.broker.available cls id = .ok true) ∧
    (criteria.WantsFree →
      (∀ name blocking pick, ∃ answer,
        (p.acquire cls name criteria acquirer blocking pick).1 = some answer ∧
        answer ≠ .error .unavailable) ∧
      (∀ (w : Waiter) pick giveUpFirst later, w.criteria = criteria → w.notified = true →
        (p.park cls w pick giveUpFirst).2.waiting = p.waiting ∧
        ∃ result, (p.park cls w pick giveUpFirst).1 = some result ∧
          (p.follow cls w pick giveUpFirst later).standing = .ended (.returned result)) ∧
      ∀ w ∈ p.waiting, w.criteria ≠ criteria) ∧
    (criteria.WantsFull →
      (∀ name pick id, (p.acquire cls name criteria acquirer false pick).1 ≠ some (.ok id)) ∧
      ∀ (w : Waiter) pick giveUpFirst later id, w.criteria = criteria →
        (p.follow cls w pick giveUpFirst later).standing ≠ .ended (.returned (.ok id))) := by
  refine ⟨SortedMap.keys_lt _, fun id => Broker.mem_matching_iff_satisfied, ?_, ?_, ?_, ?_⟩
  · intro name pick
    exact ⟨_, _, acquire_eq_tryAcquire name acquirer pick,
      Broker.lease_told cls p.broker criteria acquirer p.broker.now pick⟩
  · intro name id
    simp only [acquire_eq_tryAcquire, Option.some.injEq]
    exact Broker.exists_pick_iff acquirer p.broker.now
  · intro hfree
    refine ⟨?_, ?_, ?_⟩
    · intro name blocking pick
      rw [acquire_of_wantsFree hfree, acquire_eq_tryAcquire]
      exact ⟨_, rfl, Broker.lease_ne_unavailable hfree p.broker.now pick⟩
    · rintro w pick giveUpFirst later rfl hw
      exact park_of_wantsFree hfree hw pick giveUpFirst later
    · rintro w hw rfl
      exact hp.not_wantsFree w hw hfree
  · intro hfull
    refine ⟨?_, ?_⟩
    · intro name pick id hid
      rw [acquire_eq_tryAcquire] at hid
      exact Broker.lease_ne_ok hfull p.broker.now pick (Option.some.inj hid)
    · rintro w pick giveUpFirst later id rfl
      exact follow_of_wantsFull hfull pick giveUpFirst later id

def picky : Waiter :=
  { name := "second", criteria := { free := some true }, acquirer := "dan", started := 0 }

theorem lease_outcomes_shared :
    (∃ pick, (sharedPool.acquire Bench.classes "second" {} "dan" false pick).1 =
      some (.ok "B")) ∧
    (∀ pick, (sharedPool.acquire Bench.classes "second" {} "dan" false pick).1 ≠
      some (.ok "A")) ∧
    (∀ later, ∃ result, (sharedPool.follow Bench.classes picky 0 false later).standing =
      .ended (.returned result)) ∧
    (∀ pick later id, (sharedPool.follow Bench.classes
      { picky with criteria := { busy := some true } } pick false later).standing ≠
        .ended (.returned (.ok id))) := by
  obtain ⟨_, _, _, hleased, _, _⟩ := lease_outcomes sharedPool_reachable {} "dan"
  obtain ⟨_, _, _, _, hfree, _⟩ :=
    lease_outcomes sharedPool_reachable { free := some true } "dan"
  obtain ⟨_, _, _, _, _, hfull⟩ :=
    lease_outcomes sharedPool_reachable { busy := some true } "dan"
  refine ⟨(hleased "second" "B").mpr ?_, ?_, ?_, ?_⟩
  · refine ⟨by decide +kernel, by decide +kernel⟩
  · intro pick hpick
    have hA := ((hleased "second" "A").mp ⟨pick, hpick⟩).2
    have hbusy : sharedPool.broker.available Bench.classes "A" = .ok false := by decide +kernel
    rw [hbusy] at hA
    cases hA
  · intro later
    obtain ⟨_, result, _, hend⟩ := (hfree (Or.inl rfl)).2.1 picky 0 false later rfl rfl
    exact ⟨result, hend⟩
  · intro pick later id
    exact (hfull (Or.inr rfl)).2 _ pick false later id rfl

end Pool

end LeaseBroker
