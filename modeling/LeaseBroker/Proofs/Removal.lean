import LeaseBroker.Proofs.Indexes

/-!
# Removing a device reclaims everything

A device that is removed by force loses its leases one at a time, each to the first of its holders,
until it has none. The loop that does so ends when the two counts of its leases agree, after as many
rounds as there were leases, and what is left to do then is what removing an idle device does. A
rescan forgets a device in the same way.
-/

set_option autoImplicit false

namespace LeaseBroker

/-- Whether some devices are gone from both indexes together with their rows of the ledger, and
whether nothing else has changed. -/
structure Registry.Reclaimed {K H : Type} (before : Registry K H) (ids : List DeviceId)
    (after : Registry K H) : Prop where
  entries : ∀ id, after.entries.get? id = if id ∈ ids then none else before.entries.get? id
  infos : ∀ info id,
    after.infos.get? info = some id ↔ before.infos.get? info = some id ∧ id ∉ ids
  rows : ∀ row, row ∈ after.ledger.acquisitions ↔
    row ∈ before.ledger.acquisitions ∧ row.1.device ∉ ids
  classes : after.classes = before.classes
  owners : after.owners = before.owners
  access : after.access = before.access

namespace Broker
variable {W K H : Type} {cls : DeviceClasses W K H} {b c d : Broker W K H} {id : DeviceId}
  {e : Entry K H} {n : Nat}

/-! ### The loop -/

/-- Ends leases of a device, each that of the first holder, while it has any. The number is that of
the rounds. -/
inductive Drains (id : DeviceId) : Nat → Broker W K H → Broker W K H → Prop where
  | done {b : Broker W K H} {e : Entry K H} (registered : b.entries.get? id = some e)
      (idle : e.leases = 0) : Drains id 0 b b
  | round {b c d : Broker W K H} {e : Entry K H} {holder : Acquirer} {n : Nat}
      (registered : b.entries.get? id = some e) (leased : 0 < e.leases)
      (ended : b.releaseAny id = (.ok holder, c)) (rest : Drains id n c d) : Drains id (n + 1) b d

theorem releaseAny_entry {holder : Acquirer} (he : b.entries.get? id = some e)
    (h : b.releaseAny id = (.ok holder, c)) :
    c.entries.get? id = some { e with leases := e.leases - 1 } := by
  rw [releaseAny] at h
  have hone : b.releaseTimes id 1 = (.ok (), c) := by simp only [releaseTimes, h]
  exact (releaseTimes_entry he hone).2

theorem Drains.releaseTimes (h : Drains id n b c) (he : b.entries.get? id = some e) :
    n = e.leases ∧ b.releaseTimes id n = (.ok (), c) := by
  induction h generalizing e with
  | done registered idle =>
    obtain rfl := Option.some.inj (registered.symm.trans he)
    exact ⟨idle.symm, rfl⟩
  | round registered leased ended rest ih =>
    obtain rfl := Option.some.inj (registered.symm.trans he)
    obtain ⟨rfl, hrest⟩ := ih (releaseAny_entry registered ended)
    rw [releaseAny] at ended
    refine ⟨Nat.sub_add_cancel leased, ?_⟩
    simp only [Broker.releaseTimes, ended, hrest]

theorem Drains.of_releaseTimes (he : b.entries.get? id = some e) (hn : e.leases = n)
    (h : b.releaseTimes id n = (.ok (), c)) : Drains id n b c := by
  induction n generalizing b e with
  | zero =>
    cases h
    exact .done he hn
  | succ n ih =>
    unfold Broker.releaseTimes at h
    split at h
    · rename_i holder after hend
      have hafter := releaseAny_entry he hend
      exact .round he (by omega) hend (ih hafter (by simp only; omega) h)
    · cases h

theorem Accounted.drains (h : Accounted b.entries b.ledger) (he : b.entries.get? id = some e) :
    ∃ drained, b.releaseTimes id e.leases = (.ok (), drained) ∧
      ∀ n c, Drains id n b c ↔ n = e.leases ∧ c = drained := by
  obtain ⟨drained, hr⟩ := h.releaseTimes_ok he (Nat.le_refl _)
  refine ⟨drained, hr, fun n c => ⟨?_, ?_⟩⟩
  · intro hdrains
    obtain ⟨rfl, hc⟩ := hdrains.releaseTimes he
    rw [hr] at hc
    cases hc
    exact ⟨rfl, rfl⟩
  · rintro ⟨rfl, rfl⟩
    exact .of_releaseTimes he rfl hr

/-! ### Removals -/

theorem leaseCount_eq_ok_iff :
    b.leaseCount id = .ok n ↔ ∃ e, b.entries.get? id = some e ∧ e.leases = n := by
  unfold leaseCount entry
  cases b.entries.get? id <;> simp [Except.map]

/-- Forgetting a device comes to the same before its leases have been ended and afterwards. -/
theorem forget_of_drained (he : b.entries.get? id = some e)
    (h : b.releaseTimes id e.leases = (.ok (), c)) : c.forget cls id = b.forget cls id := by
  have hc := (releaseTimes_entry he h).2
  rw [Nat.sub_self] at hc
  rw [forget_of_released he h]
  exact forget_of_released (e := { e with leases := 0 }) hc rfl

/-! ### What is left -/

theorem Accounted.dismissed (h : Accounted b.entries b.ledger) (he : b.entries.get? id = some e)
    (hf : b.forget cls id = (.ok (), c)) : Dismissed b [id] c := by
  obtain ⟨c', hc', hgone, hsame, hafter⟩ := h.forget_spec cls he
  rw [hf] at hc'
  cases hc'
  refine ⟨?_, ?_, hafter⟩
  · intro i
    by_cases hi : i = id
    · rw [hi, if_pos List.mem_cons_self, hgone]
    · rw [if_neg fun hmem => hi (List.mem_singleton.mp hmem), hsame.entries hi]
  · intro a i hi
    exact hsame.since fun heq => hi (List.mem_singleton.mpr heq)

theorem Dismissed.reclaimed {ids : List DeviceId} (h : Dismissed b ids c)
    (hb : Indexed b.entries b.infos) (hpruned : b.ledger.Pruned) (hc : Deeds cls b c)
    (haccess : c.access = b.access) : b.toRegistry.Reclaimed ids c.toRegistry where
  entries := fun _ => h.entries
  infos := by
    intro info id
    rw [(hb.changes hc.changes).agree, hb.agree, h.entries]
    by_cases hid : id ∈ ids <;> simp [hid]
  rows := by
    intro row
    rw [h.accounted.pruned.mem_acquisitions_iff_since, hpruned.mem_acquisitions_iff_since]
    by_cases hid : row.1.device ∈ ids
    · -- A row is about a registered device.
      refine ⟨fun hrow => ?_, fun hrow => absurd hid hrow.2⟩
      have hmem := h.accounted.pruned.mem_acquisitions_iff_since.mpr hrow
      obtain ⟨e, he⟩ := h.accounted.registered_of_row hmem
      rw [h.entries, if_pos hid] at he
      cases he
    · rw [h.since hid]
      exact (and_iff_left hid).symm
  classes := hc.classes
  owners := hc.owners
  access := haccess

theorem Accounted.forget_reclaimed (h : Accounted b.entries b.ledger)
    (hindexed : Indexed b.entries b.infos) (he : b.entries.get? id = some e)
    (hf : b.forget cls id = (.ok (), c)) : b.toRegistry.Reclaimed [id] c.toRegistry := by
  have hdeeds := forget_deeds cls b id
  have haccess := forget_access cls b id
  rw [hf] at hdeeds haccess
  exact (h.dismissed he hf).reclaimed hindexed h.pruned hdeeds haccess

/-! ### Rescans -/

variable (cls) in
/-- Devices are removed by force one after another, each under another name in the log. -/
inductive RemovedEach : List DeviceId → Broker W K H → Broker W K H → Prop where
  | nil (b : Broker W K H) : RemovedEach [] b b
  | cons {id : DeviceId} {ids : List DeviceId} {b c d : Broker W K H}
      (removed : b.remove cls id true = (.ok (), c.note (.removed id true)))
      (rest : RemovedEach ids (c.note (.forgot id)) d) : RemovedEach (id :: ids) b d

theorem Accounted.foldl_removedEach (h : Accounted b.entries b.ledger) {ids : List DeviceId}
    (hids : ids.Nodup) (registered : ∀ id ∈ ids, ∃ e, b.entries.get? id = some e)
    (report : RescanReport) :
    RemovedEach cls ids b (ids.foldl (dismiss cls) (report, b)).2 := by
  induction ids generalizing b report with
  | nil => exact .nil b
  | cons id rest ih =>
    obtain ⟨hid, hrest⟩ := List.nodup_cons.mp hids
    obtain ⟨e, he⟩ := registered id List.mem_cons_self
    obtain ⟨c, hc, _, hsame, hafter⟩ := h.forget_spec cls he
    rw [List.foldl_cons, dismiss_forgot report hc]
    refine .cons (remove_of_forget he (Or.inr rfl) hc)
      (ih (b := c.note (.forgot id)) hafter hrest ?_ _)
    intro i hi
    obtain ⟨e, he⟩ := registered i (List.mem_cons_of_mem id hi)
    exact ⟨e, (hsame.entries fun heq => hid (heq ▸ hi)).trans he⟩

variable (cls) in
theorem Accounted.rescan_removedEach (h : Accounted b.entries b.ledger) :
    (∀ id e, b.entries.get? id = some e → (b.midway cls).2.entries.get? id = some e) ∧
    (b.midway cls).2.ledger = b.ledger ∧
    ∃ c notice, RemovedEach cls (b.rescan cls).1.forgot (b.midway cls).2 c ∧
      (b.rescan cls).2 = c.note notice := by
  obtain ⟨hpassed, hreport⟩ := h.passed cls
  rw [hpassed.welcomed.forgot, List.nil_append] at hreport
  refine ⟨?_, hpassed.welcomed.ledger, (b.cleared cls).2, _, ?_, rfl⟩
  · intro id e he
    rw [hpassed.welcomed.others, he]
    intro hfound
    have hnew := (hpassed.welcomed.mem_of_found hfound).2
    rw [he] at hnew
    cases hnew
  · rw [rescan_eq, hreport]
    have hmidway := h.changes ((b.scan_changes cls).trans (b.midway_deeds cls).changes)
    exact hmidway.foldl_removedEach (List.Nodup.filter _ (SortedMap.keys_nodup _))
      (fun _ hid => mem_devices_iff.mp (List.mem_filter.mp hid).1) _

variable (cls) in
theorem Accounted.rescan_reclaimed (h : Accounted b.entries b.ledger)
    (hindexed : Indexed b.entries b.infos) :
    (b.midway cls).2.toRegistry.Reclaimed (b.rescan cls).1.forgot
      (b.rescan cls).2.toRegistry := by
  obtain ⟨hpassed, hreport⟩ := h.passed cls
  rw [hpassed.welcomed.forgot, List.nil_append] at hreport
  have hchanges := (b.scan_changes cls).trans (b.midway_deeds cls).changes
  have hdeeds : Deeds cls (b.midway cls).2 (b.cleared cls).2 :=
    foldl_dismiss_deeds cls _ (b.midway cls)
  rw [rescan_eq, hreport]
  exact hpassed.dismissed.reclaimed (hindexed.changes hchanges) (h.changes hchanges).pruned hdeeds
    (foldl_dismiss_access cls _ (b.midway cls))

end Broker

namespace Pool
variable {W K H : Type} {cls : DeviceClasses W K H} {p : Pool W K H}

theorem renotified (c : Broker W K H) :
    (⟨c, p.notify.waiting⟩ : Pool W K H).notify.waiting = p.notify.waiting := by
  simp [notify, Function.comp_def]

theorem notifying_of_ok {α : Type} {op : Broker W K H → Except Refusal α × Broker W K H} {a : α}
    {c : Broker W K H} (h : op p.broker = (.ok a, c)) :
    p.notifying op = (.ok a, ⟨c, p.notify.waiting⟩) := by
  simp only [notifying, quietly, h]
  rfl

theorem notifying_of_error {α : Type} {op : Broker W K H → Except Refusal α × Broker W K H}
    {r : Refusal} (h : op p.broker = (.error r, p.broker)) : p.notifying op = (.error r, p) := by
  simp only [notifying, quietly, h]

theorem step_releaseAny {id : DeviceId} {holder : Acquirer} {c : Broker W K H}
    (h : p.broker.releaseAny id = (.ok holder, c)) :
    (p.step cls (.releaseAny id)).2 = ⟨c, p.notify.waiting⟩ :=
  congrArg Prod.snd (notifying_of_ok h)

def releaseAnyTimes (cls : DeviceClasses W K H) (p : Pool W K H) (id : DeviceId) (n : Nat) :
    Pool W K H :=
  p.run cls (List.replicate n (.releaseAny id))

theorem releaseAnyTimes_ok (hp : Reachable cls p) {id : DeviceId} {e : Entry K H}
    (he : p.broker.entries.get? id = some e) {n : Nat} (hn : n ≤ e.leases) :
    p.broker.releaseTimes id n = (.ok (), (p.releaseAnyTimes cls id n).broker) ∧
    (p.releaseAnyTimes cls id n).notify.waiting = p.notify.waiting ∧
    ∀ m < n, ∃ holder, ((p.releaseAnyTimes cls id m).releaseAny id).1 = .ok holder := by
  induction n generalizing p e with
  | zero => exact ⟨rfl, rfl, nofun⟩
  | succ n ih =>
    obtain ⟨holder, c, hc, _⟩ := hp.accounted.endLease_none_ok he (by omega)
    have hany : p.broker.releaseAny id = (.ok holder, c) := hc
    have hstep : (p.step cls (.releaseAny id)).2 = _ := step_releaseAny hany
    have hrun (m : Nat) : p.releaseAnyTimes cls id (m + 1) =
        (⟨c, p.notify.waiting⟩ : Pool W K H).releaseAnyTimes cls id m := by
      simp only [releaseAnyTimes, run, List.replicate_succ, List.foldl_cons, hstep]
    obtain ⟨htimes, hwaiting, hall⟩ := ih (hstep ▸ hp.step (.releaseAny id))
      (Broker.releaseAny_entry he hany) (Nat.le_sub_one_of_lt hn)
    rw [hrun]
    refine ⟨?_, hwaiting.trans (renotified c), ?_⟩
    · simp only [Broker.releaseTimes, hc, htimes]
    · intro m hm
      cases m with
      | zero => exact ⟨holder, congrArg Prod.fst (notifying_of_ok hany)⟩
      | succ m =>
        rw [hrun]
        exact hall m (Nat.lt_of_succ_lt_succ hm)

/-- A device that is removed by force loses its leases in as many rounds as it has leases, whatever
its class says when it is given back. That comes to the same as releasing the device as often, which
is never refused, and removing it then. The device is gone from both indexes with its rows of the
ledger, and nothing else changes. Without force a leased device is not removed. A rescan removes by
force what it forgets. -/
theorem removal_reclaims (hp : Reachable cls p) :
    (∀ id k, p.broker.leaseCount id = .ok k →
      (∃ e drained c, p.broker.entries.get? id = some e ∧
        (∀ n b, Broker.Drains id n p.broker b ↔ n = k ∧ b = drained) ∧
        c = (drained.struckOff id e).abandon cls id e.holder e.info e.handle ∧
        p.remove cls id true = (.ok (), ⟨c.note (.removed id true), p.notify.waiting⟩) ∧
        (p.releaseAnyTimes cls id k).remove cls id false =
          (.ok (), ⟨c.note (.removed id false), p.notify.waiting⟩) ∧
        p.broker.toRegistry.Reclaimed [id] c.toRegistry) ∧
      (∀ n < k, ∃ holder, ((p.releaseAnyTimes cls id n).releaseAny id).1 = .ok holder) ∧
      (0 < k → p.remove cls id false = (.error (.busy id), p))) ∧
    (∀ id e, p.broker.entries.get? id = some e →
      (p.broker.midway cls).2.entries.get? id = some e) ∧
    (p.broker.midway cls).2.ledger = p.broker.ledger ∧
    (∃ c notice,
      Broker.RemovedEach cls (p.rescan cls).1.forgot (p.broker.midway cls).2 c ∧
      (p.rescan cls).2.broker = c.note notice) ∧
    (p.broker.midway cls).2.toRegistry.Reclaimed (p.rescan cls).1.forgot
      (p.rescan cls).2.broker.toRegistry := by
  obtain ⟨hkept, hledger, hremoved⟩ := hp.accounted.rescan_removedEach cls
  refine ⟨?_, hkept, hledger, hremoved, hp.accounted.rescan_reclaimed cls hp.indexed⟩
  intro id k hk
  obtain ⟨e, he, rfl⟩ := Broker.leaseCount_eq_ok_iff.mp hk
  obtain ⟨drained, hr, hdrains⟩ := hp.accounted.drains he
  obtain ⟨htimes, hwaiting, hall⟩ := releaseAnyTimes_ok hp he (Nat.le_refl _)
  have hbroker : (p.releaseAnyTimes cls id e.leases).broker = drained := by
    rw [hr] at htimes
    exact (congrArg Prod.snd htimes).symm
  have hf : p.broker.forget cls id = _ := Broker.forget_of_released he hr
  have hidle := (Broker.releaseTimes_entry he hr).2
  rw [Nat.sub_self] at hidle
  refine ⟨⟨e, drained, _, he, hdrains, rfl, ?_, ?_, ?_⟩, hall, ?_⟩
  · exact notifying_of_ok (Broker.remove_of_forget he (Or.inr rfl) hf)
  · rw [← hwaiting]
    refine notifying_of_ok ?_
    rw [hbroker]
    exact Broker.remove_of_forget hidle (Or.inl rfl) ((Broker.forget_of_drained he hr).trans hf)
  · exact hp.accounted.forget_reclaimed hp.indexed he hf
  · intro hleased
    exact notifying_of_error (Broker.remove_busy he hleased)

theorem removal_reclaims_shared :
    sharedPool.broker.leaseCount "A" = .ok 2 ∧
    (∃ c : Broker Bench DeviceClass Handle, sharedPool.remove Bench.classes "A" true =
        (.ok (), ⟨c.note (.removed "A" true), sharedPool.notify.waiting⟩) ∧
      (sharedPool.releaseAnyTimes Bench.classes "A" 2).remove Bench.classes "A" false =
        (.ok (), ⟨c.note (.removed "A" false), sharedPool.notify.waiting⟩) ∧
      sharedPool.broker.toRegistry.Reclaimed ["A"] c.toRegistry) ∧
    (sharedPool.remove Bench.classes "A" true).2.broker.ledger.acquisitions =
      [(⟨"bob", "B"⟩, [0])] ∧
    sharedPool.remove Bench.classes "A" false = (.error (.busy "A"), sharedPool) ∧
    (replugged.broker.midway Bench.classes).2.toRegistry.Reclaimed ["C"]
      (replugged.rescan Bench.classes).2.broker.toRegistry := by
  have hleased : sharedPool.broker.leaseCount "A" = .ok 2 := by decide +kernel
  have hforgot : (replugged.rescan Bench.classes).1.forgot = ["C"] := by decide +kernel
  obtain ⟨⟨_, _, c, _, _, _, hforced, hgentle, hgone⟩, _, hbusy⟩ :=
    (removal_reclaims sharedPool_reachable).1 "A" 2 hleased
  obtain ⟨_, _, _, _, hrescan⟩ := removal_reclaims replugged_reachable
  rw [hforgot] at hrescan
  exact ⟨hleased, ⟨c, hforced, hgentle, hgone⟩, by decide +kernel, hbusy (by decide), hrescan⟩

end Pool

end LeaseBroker
