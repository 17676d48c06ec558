import LeaseBroker.Proofs.Forgetting
import LeaseBroker.Proofs.Reports

/-!
# What a rescan brings about

A rescan compares what is registered with what is expected: the identifiers that some class reports
and the access lists permit. What is registered and expected is kept as it is, what is expected only
is found or fails, and what is registered only is forgotten together with its leases. This holds
whatever the classes say when they are asked to adopt a device or given one back.
-/

set_option autoImplicit false

namespace LeaseBroker

namespace Broker
variable {W K H : Type} {cls : DeviceClasses W K H} {b c : Broker W K H}

/-- What a rescan reports, and what it does to the registered devices and their leases. -/
structure Reconciled (cls : DeviceClasses W K H) (before : Broker W K H) (report : RescanReport)
    (after : Broker W K H) : Prop where
  ascending : ∀ ids ∈ [report.found, report.kept, report.forgot, report.failed],
    ids.Pairwise (· < ·)
  disjoint : [report.found, report.kept, report.forgot, report.failed].Pairwise List.Disjoint
  kept : ∀ {id : DeviceId}, id ∈ report.kept ↔ id ∈ before.devices ∧ before.Expected cls id
  forgot : ∀ {id : DeviceId}, id ∈ report.forgot ↔ id ∈ before.devices ∧ ¬ before.Expected cls id
  seen : ∀ {id : DeviceId},
    id ∈ report.found ∨ id ∈ report.failed ↔ id ∉ before.devices ∧ before.Expected cls id
  registered : ∀ {id : DeviceId}, id ∈ after.devices ↔ id ∈ report.found ∨ id ∈ report.kept
  keptEntry : ∀ id ∈ report.kept, after.entries.get? id = before.entries.get? id
  foundIdle : ∀ id ∈ report.found, after.leaseCount id = .ok 0 ∧
    ∀ row ∈ after.ledger.acquisitions, row.1.device ≠ id
  rows : ∀ row, row ∈ after.ledger.acquisitions ↔
    row ∈ before.ledger.acquisitions ∧ row.1.device ∉ report.forgot

theorem Reconciled.note {report : RescanReport} (h : Reconciled cls b report c)
    (notice : Notice) : Reconciled cls b report (c.note notice) := { h with }

/-! ### Welcoming -/

/-- What has become of a broker when the devices of a list have been welcomed. -/
structure Welcomed (before : Broker W K H) (ids : List DeviceId) (report : RescanReport)
    (after : Broker W K H) : Prop where
  kept : report.kept = ids.filter before.entries.contains
  forgot : report.forgot = []
  found : report.found.Sublist (ids.filter fun id => !before.entries.contains id)
  failed : report.failed.Sublist (ids.filter fun id => !before.entries.contains id)
  seen : ∀ id ∈ ids, before.entries.get? id = none → id ∈ report.found ∨ id ∈ report.failed
  disjoint : report.found.Disjoint report.failed
  others : ∀ {id : DeviceId}, id ∉ report.found → after.entries.get? id = before.entries.get? id
  idle : ∀ id ∈ report.found, ∃ e, after.entries.get? id = some e ∧ e.leases = 0
  ledger : after.ledger = before.ledger

namespace Welcomed
variable {ids : List DeviceId} {report : RescanReport} {id : DeviceId}

theorem nil (hentries : c.entries = b.entries) (hledger : c.ledger = b.ledger) :
    Welcomed b [] {} c where
  kept := rfl
  forgot := rfl
  found := .slnil
  failed := .slnil
  seen := nofun
  disjoint := nofun
  others := fun _ => by rw [hentries]
  idle := nofun
  ledger := hledger

theorem mem_new_iff : id ∈ ids.filter (fun i => !b.entries.contains i) ↔
    id ∈ ids ∧ b.entries.get? id = none := by
  rw [List.mem_filter, Bool.not_eq_true', SortedMap.contains_eq_false_iff]

theorem mem_of_found (h : Welcomed b ids report c) (hid : id ∈ report.found) :
    id ∈ ids ∧ b.entries.get? id = none :=
  mem_new_iff.mp (h.found.subset hid)

theorem mem_of_failed (h : Welcomed b ids report c) (hid : id ∈ report.failed) :
    id ∈ ids ∧ b.entries.get? id = none :=
  mem_new_iff.mp (h.failed.subset hid)

/-- A device that is not among those welcomed so far is as it was. -/
theorem untouched (h : Welcomed b ids report c) (hid : id ∉ ids) :
    c.entries.get? id = b.entries.get? id :=
  h.others fun hf => hid (h.mem_of_found hf).1

theorem keep (h : Welcomed b ids report c) (hid : id ∉ ids) {e : Entry K H}
    (he : c.entries.get? id = some e) :
    Welcomed b (ids ++ [id]) { report with kept := report.kept ++ [id] } (c.note (.kept id)) := by
  have hcontains : b.entries.contains id = true :=
    SortedMap.contains_eq_true_iff.mpr ⟨e, h.untouched hid ▸ he⟩
  have hnew : (ids ++ [id]).filter (fun i => !b.entries.contains i) =
      ids.filter fun i => !b.entries.contains i := by simp [hcontains]
  exact {
    kept := by simp [h.kept, hcontains]
    forgot := h.forgot
    found := hnew ▸ h.found
    failed := hnew ▸ h.failed
    seen := by
      intro i hi hfresh
      rcases List.mem_append.mp hi with hi | hi
      · exact h.seen i hi hfresh
      · rw [List.mem_singleton.mp hi, ← h.untouched hid, he] at hfresh
        cases hfresh
    disjoint := h.disjoint
    others := h.others
    idle := h.idle
    ledger := h.ledger }

section New
variable (h : Welcomed b ids report c) (hid : id ∉ ids) (fresh : c.entries.get? id = none)
include h hid fresh

theorem filter_new : (ids ++ [id]).filter (fun i => !b.entries.contains i) =
    ids.filter (fun i => !b.entries.contains i) ++ [id] := by
  have hcontains : b.entries.contains id = false :=
    SortedMap.contains_eq_false_iff.mpr (h.untouched hid ▸ fresh)
  simp [hcontains]

theorem filter_kept : (ids ++ [id]).filter b.entries.contains =
    ids.filter b.entries.contains := by
  have hcontains : b.entries.contains id = false :=
    SortedMap.contains_eq_false_iff.mpr (h.untouched hid ▸ fresh)
  simp [hcontains]

theorem find {after : Broker W K H} {e : Entry K H} (idle : e.leases = 0)
    (hentries : after.entries = c.entries.insert id e) (hledger : after.ledger = c.ledger) :
    Welcomed b (ids ++ [id]) { report with found := report.found ++ [id] } after where
  kept := (filter_kept h hid fresh).symm ▸ h.kept
  forgot := h.forgot
  found := by
    rw [filter_new h hid fresh]
    exact h.found.append (.refl _)
  failed := by
    rw [filter_new h hid fresh]
    exact h.failed.trans (List.sublist_append_left _ _)
  seen := by
    intro i hi hfresh
    rcases List.mem_append.mp hi with hi | hi
    · exact (h.seen i hi hfresh).imp_left (List.mem_append_left _)
    · exact Or.inl (List.mem_append_right _ hi)
  disjoint := by
    refine List.disjoint_append_left.mpr ⟨h.disjoint, ?_⟩
    exact List.singleton_disjoint.mpr fun hf => hid (h.mem_of_failed hf).1
  others := by
    intro i hi
    rw [List.mem_append, not_or] at hi
    rw [hentries, SortedMap.get?_insert, if_neg (by simpa using hi.2)]
    exact h.others hi.1
  idle := by
    intro i hi
    rw [hentries, SortedMap.get?_insert]
    split
    · exact ⟨e, rfl, idle⟩
    · rename_i hne
      exact h.idle i (by simpa [hne] using hi)
  ledger := hledger.trans h.ledger

theorem fail {after : Broker W K H} (hregistry : after.toRegistry = c.toRegistry) :
    Welcomed b (ids ++ [id]) { report with failed := report.failed ++ [id] } after where
  kept := (filter_kept h hid fresh).symm ▸ h.kept
  forgot := h.forgot
  found := by
    rw [filter_new h hid fresh]
    exact h.found.trans (List.sublist_append_left _ _)
  failed := by
    rw [filter_new h hid fresh]
    exact h.failed.append (.refl _)
  seen := by
    intro i hi hfresh
    rcases List.mem_append.mp hi with hi | hi
    · exact (h.seen i hi hfresh).imp_right (List.mem_append_left _)
    · exact Or.inr (List.mem_append_right _ hi)
  disjoint := by
    refine List.disjoint_append_right.mpr ⟨h.disjoint, ?_⟩
    exact List.disjoint_singleton.mpr fun hf => hid (h.mem_of_found hf).1
  others := by
    rw [congrArg Registry.entries hregistry]
    exact h.others
  idle := by
    rw [congrArg Registry.entries hregistry]
    exact h.idle
  ledger := (congrArg Registry.ledger hregistry).trans h.ledger

end New

theorem step (h : Welcomed b ids report c) (hid : id ∉ ids)
    (owned : ∃ k, c.owners.get? id = some k) :
    Welcomed b (ids ++ [id]) (welcome cls (report, c) id).1 (welcome cls (report, c) id).2 := by
  rcases welcome_cases cls (report, c) id with
    ⟨⟨e, he⟩, hw⟩ | ⟨_, unowned, _⟩ | ⟨k, fresh, _, ⟨after, ha, hw⟩ | ⟨r, after, ha, hw⟩⟩
  · rw [hw]
    exact h.keep hid he
  · obtain ⟨k, hk⟩ := owned
    rw [hk] at unowned
    cases unowned
  · rw [hw]
    rcases adopt_cases cls c id k with
      ⟨_, _, hr⟩ | ⟨_, _, _, _, _, hr⟩ | ⟨handle, info, _, _, hr⟩ <;> rw [hr] at ha <;> cases ha
    exact h.find hid fresh (e := { handle, info, holder := k }) rfl rfl rfl
  · have hregistry : after.toRegistry = c.toRegistry := adopt_refused ha
    rw [hw]
    exact h.fail hid fresh hregistry

end Welcomed

variable (cls) in
theorem foldl_welcomed {start : Broker W K H} (hentries : start.entries = b.entries)
    (hledger : start.ledger = b.ledger) {ids : List DeviceId} (hids : ids.Nodup)
    (adoptable : ∀ id ∈ ids,
      (∃ k, start.owners.get? id = some k) ∧ start.access.permits id = true) :
    Welcomed b ids (ids.foldl (welcome cls) ({}, start)).1
      (ids.foldl (welcome cls) ({}, start)).2 := by
  -- The induction takes the last device off, since what came before it makes the report so far.
  induction ids using List.reverseRecOn with
  | nil => exact .nil hentries hledger
  | append_singleton ids id ih =>
    obtain ⟨hrest, _, hne⟩ := List.nodup_append.mp hids
    obtain ⟨owned, _⟩ := adoptable id (List.mem_append_right _ (List.mem_singleton_self id))
    have hbefore : ∀ i ∈ ids, _ := fun i hi => adoptable i (List.mem_append_left _ hi)
    have howners := (foldl_welcome_deeds cls ids ({}, start) fun i hi => (hbefore i hi).2).owners
    rw [List.foldl_concat]
    refine (ih hrest hbefore).step ?_ (howners ▸ owned)
    exact fun hid => hne id hid id (List.mem_singleton_self id) rfl

/-! ### Dismissing -/

/-- What has become of a broker when the devices of a list have been dismissed. -/
structure Dismissed (before : Broker W K H) (ids : List DeviceId) (after : Broker W K H) :
    Prop where
  entries : ∀ {id : DeviceId}, after.entries.get? id =
    if id ∈ ids then none else before.entries.get? id
  since : ∀ {a : Acquirer} {id : DeviceId}, id ∉ ids →
    after.ledger.since a id = before.ledger.since a id
  accounted : Accounted after.entries after.ledger

theorem dismiss_forgot (report : RescanReport) {id : DeviceId}
    (h : b.forget cls id = (.ok (), c)) :
    dismiss cls (report, b) id =
      ({ report with forgot := report.forgot ++ [id] }, c.note (.forgot id)) := by
  simp only [dismiss, h]

variable (cls) in
theorem foldl_dismissed (h : Accounted b.entries b.ledger) {ids : List DeviceId}
    (hids : ids.Nodup) (registered : ∀ id ∈ ids, ∃ e, b.entries.get? id = some e)
    (report : RescanReport) :
    (ids.foldl (dismiss cls) (report, b)).1 = { report with forgot := report.forgot ++ ids } ∧
    Dismissed b ids (ids.foldl (dismiss cls) (report, b)).2 := by
  induction ids generalizing b report with
  | nil => exact ⟨by simp, by simp, fun _ => rfl, h⟩
  | cons id rest ih =>
    obtain ⟨hid, hrest⟩ := List.nodup_cons.mp hids
    obtain ⟨e, he⟩ := registered id List.mem_cons_self
    obtain ⟨c, hc, hgone, hsame, hacc⟩ := h.forget_spec cls he
    have hne : ∀ i ∈ rest, i ≠ id := fun i hi heq => hid (heq ▸ hi)
    -- Forgetting one device leaves those registered that are still to be dismissed.
    have hrest' : ∀ i ∈ rest, ∃ e, (c.note (.forgot id)).entries.get? i = some e := by
      intro i hi
      obtain ⟨e, he⟩ := registered i (List.mem_cons_of_mem id hi)
      exact ⟨e, (hsame.entries (hne i hi)).trans he⟩
    obtain ⟨hreport, hafter⟩ := ih (b := c.note (.forgot id)) hacc hrest hrest'
      { report with forgot := report.forgot ++ [id] }
    rw [List.foldl_cons, dismiss_forgot report hc]
    refine ⟨by rw [hreport]; simp, ?_, ?_, hafter.accounted⟩
    · intro i
      rw [hafter.entries]
      change (if i ∈ rest then none else c.entries.get? i) = _
      by_cases heq : i = id
      · subst heq
        rw [if_neg hid, hgone, if_pos List.mem_cons_self]
      · rw [hsame.entries heq]
        simp [heq]
    · intro a i hi
      rw [List.mem_cons, not_or] at hi
      exact (hafter.since hi.2).trans (hsame.since hi.1)

theorem mem_devices_iff {id : DeviceId} :
    id ∈ b.devices ↔ ∃ e, b.entries.get? id = some e :=
  SortedMap.mem_keys_iff

theorem not_mem_devices_iff {id : DeviceId} : id ∉ b.devices ↔ b.entries.get? id = none := by
  rw [mem_devices_iff, ← Option.isSome_iff_exists, Option.not_isSome_iff_eq_none]

theorem mem_gone_iff {ids : List DeviceId} {id : DeviceId} :
    id ∈ b.gone ids ↔ id ∈ b.devices ∧ id ∉ ids := by
  rw [gone, List.mem_filter]
  simp

/-! ### The whole pass -/

/-- A pass welcomes the devices that are expected and dismisses all others. -/
structure Passed (cls : DeviceClasses W K H) (before : Broker W K H) (ids : List DeviceId)
    (report : RescanReport) (midway after : Broker W K H) : Prop where
  ascending : ids.Pairwise (· < ·)
  expected : ∀ {id : DeviceId}, id ∈ ids ↔ before.Expected cls id
  accounted : Accounted before.entries before.ledger
  welcomed : Welcomed before ids report midway
  dismissed : Dismissed midway (midway.gone ids) after

namespace Passed
variable {ids : List DeviceId} {report : RescanReport} {after : Broker W K H} {id : DeviceId}

theorem mem_kept_iff (h : Passed cls b ids report c after) :
    id ∈ report.kept ↔ id ∈ b.devices ∧ b.Expected cls id := by
  rw [h.welcomed.kept, List.mem_filter, SortedMap.contains_eq_true_iff, mem_devices_iff,
    h.expected, and_comm]

theorem mem_gone_iff (h : Passed cls b ids report c after) :
    id ∈ c.gone ids ↔ id ∈ b.devices ∧ ¬ b.Expected cls id := by
  rw [Broker.mem_gone_iff, ← h.expected, mem_devices_iff, mem_devices_iff]
  exact and_congr_left fun hid => by rw [h.welcomed.untouched hid]

theorem of_mem_found (h : Passed cls b ids report c after) (hid : id ∈ report.found) :
    id ∉ b.devices ∧ b.Expected cls id :=
  ⟨not_mem_devices_iff.mpr (h.welcomed.mem_of_found hid).2,
    h.expected.mp (h.welcomed.mem_of_found hid).1⟩

theorem of_mem_failed (h : Passed cls b ids report c after) (hid : id ∈ report.failed) :
    id ∉ b.devices ∧ b.Expected cls id :=
  ⟨not_mem_devices_iff.mpr (h.welcomed.mem_of_failed hid).2,
    h.expected.mp (h.welcomed.mem_of_failed hid).1⟩

theorem mem_seen_iff (h : Passed cls b ids report c after) :
    id ∈ report.found ∨ id ∈ report.failed ↔ id ∉ b.devices ∧ b.Expected cls id := by
  constructor
  · rintro (hid | hid)
    · exact h.of_mem_found hid
    · exact h.of_mem_failed hid
  · rintro ⟨hnew, hexpected⟩
    exact h.welcomed.seen id (h.expected.mpr hexpected) (not_mem_devices_iff.mp hnew)

theorem get?_of_expected (h : Passed cls b ids report c after) (hid : b.Expected cls id) :
    after.entries.get? id = c.entries.get? id := by
  rw [h.dismissed.entries, if_neg fun hgone => (h.mem_gone_iff.mp hgone).2 hid]

theorem get?_kept (h : Passed cls b ids report c after) (hid : id ∈ report.kept) :
    after.entries.get? id = b.entries.get? id := by
  obtain ⟨hold, hexpected⟩ := h.mem_kept_iff.mp hid
  rw [h.get?_of_expected hexpected]
  exact h.welcomed.others fun hf => (h.of_mem_found hf).1 hold

theorem mem_devices_iff (h : Passed cls b ids report c after) :
    id ∈ after.devices ↔ id ∈ report.found ∨ id ∈ report.kept := by
  rw [Broker.mem_devices_iff]
  constructor
  · rintro ⟨e, he⟩
    rw [h.dismissed.entries] at he
    split at he
    · cases he
    · rename_i hstays
      have hids : id ∈ ids := Classical.not_not.mp fun hid =>
        hstays (Broker.mem_gone_iff.mpr ⟨Broker.mem_devices_iff.mpr ⟨e, he⟩, hid⟩)
      by_cases hf : id ∈ report.found
      · exact Or.inl hf
      · rw [h.welcomed.others hf] at he
        exact Or.inr (h.mem_kept_iff.mpr ⟨Broker.mem_devices_iff.mpr ⟨e, he⟩, h.expected.mp hids⟩)
  · rintro (hid | hid)
    · obtain ⟨e, he, _⟩ := h.welcomed.idle id hid
      exact ⟨e, (h.get?_of_expected (h.of_mem_found hid).2).trans he⟩
    · rw [h.get?_kept hid]
      exact Broker.mem_devices_iff.mp (h.mem_kept_iff.mp hid).1

theorem mem_acquisitions_iff (h : Passed cls b ids report c after)
    {row : Holding × List Moment} : row ∈ after.ledger.acquisitions ↔
      row ∈ b.ledger.acquisitions ∧ row.1.device ∉ c.gone ids := by
  have hsame : row.1.device ∉ c.gone ids →
      (row ∈ after.ledger.acquisitions ↔ row ∈ b.ledger.acquisitions) := by
    intro hstays
    rw [h.dismissed.accounted.pruned.mem_acquisitions_iff_since,
      h.accounted.pruned.mem_acquisitions_iff_since, h.dismissed.since hstays, h.welcomed.ledger]
  constructor
  · intro hrow
    have hstays : row.1.device ∉ c.gone ids := by
      intro hgone
      -- A row about a device that is gone would be about a registered one.
      obtain ⟨e, he⟩ := h.dismissed.accounted.registered_of_row hrow
      rw [h.dismissed.entries, if_pos hgone] at he
      cases he
    exact ⟨(hsame hstays).mp hrow, hstays⟩
  · rintro ⟨hrow, hstays⟩
    exact (hsame hstays).mpr hrow

theorem found_idle (h : Passed cls b ids report c after) (hid : id ∈ report.found) :
    after.leaseCount id = .ok 0 ∧ ∀ row ∈ after.ledger.acquisitions, row.1.device ≠ id := by
  obtain ⟨e, he, hidle⟩ := h.welcomed.idle id hid
  constructor
  · have hentry := (h.get?_of_expected (h.of_mem_found hid).2).trans he
    simp only [leaseCount, entry, hentry, Except.map, hidle]
  · rintro row hrow rfl
    obtain ⟨e, he⟩ := h.accounted.registered_of_row (h.mem_acquisitions_iff.mp hrow).1
    exact (h.of_mem_found hid).1 (Broker.mem_devices_iff.mpr ⟨e, he⟩)

theorem ascending_lists (h : Passed cls b ids report c after) :
    ∀ ids' ∈ [report.found, report.kept, c.gone ids, report.failed], ids'.Pairwise (· < ·) := by
  have hkept : report.kept.Pairwise (· < ·) := h.welcomed.kept ▸ h.ascending.filter _
  have hgone : (c.gone ids).Pairwise (· < ·) := c.entries.keys_lt.filter _
  simp only [List.forall_mem_cons, List.not_mem_nil, false_implies, implies_true, and_true]
  exact ⟨(h.ascending.filter _).sublist h.welcomed.found, hkept, hgone,
    (h.ascending.filter _).sublist h.welcomed.failed⟩

theorem disjoint_lists (h : Passed cls b ids report c after) :
    [report.found, report.kept, c.gone ids, report.failed].Pairwise List.Disjoint := by
  simp only [List.pairwise_cons, List.forall_mem_cons, List.not_mem_nil, false_implies,
    implies_true, and_true, List.Pairwise.nil]
  refine ⟨⟨?_, ?_, h.welcomed.disjoint⟩, ⟨?_, ?_⟩, ?_⟩
  · exact fun _ hf hk => (h.of_mem_found hf).1 (h.mem_kept_iff.mp hk).1
  · exact fun _ hf hg => (h.of_mem_found hf).1 (h.mem_gone_iff.mp hg).1
  · exact fun _ hk hg => (h.mem_gone_iff.mp hg).2 (h.mem_kept_iff.mp hk).2
  · exact fun _ hk hf => (h.of_mem_failed hf).1 (h.mem_kept_iff.mp hk).1
  · exact fun _ hg hf => (h.of_mem_failed hf).1 (h.mem_gone_iff.mp hg).1

theorem reconciled (h : Passed cls b ids report c after) :
    Reconciled cls b { report with forgot := c.gone ids } after where
  ascending := h.ascending_lists
  disjoint := h.disjoint_lists
  kept := h.mem_kept_iff
  forgot := h.mem_gone_iff
  seen := h.mem_seen_iff
  registered := h.mem_devices_iff
  keptEntry := fun _ hid => h.get?_kept hid
  foundIdle := fun _ hid => h.found_idle hid
  rows := fun _ => h.mem_acquisitions_iff

end Passed

theorem mem_eligible_iff {id : DeviceId} : id ∈ b.eligible ↔
    (∃ k, b.owners.get? id = some k) ∧ b.access.permits id = true := by
  rw [eligible, List.mem_filter, SortedMap.mem_keys_iff]

theorem Accounted.passed (h : Accounted b.entries b.ledger) (cls : DeviceClasses W K H) :
    Passed cls b (b.scan cls).eligible (b.midway cls).1 (b.midway cls).2 (b.cleared cls).2 ∧
      (b.cleared cls).1 = { (b.midway cls).1 with
        forgot := (b.midway cls).1.forgot ++ (b.midway cls).2.gone (b.scan cls).eligible } := by
  have hregistry := b.scan_toRegistry cls
  have hentries : (b.scan cls).entries = b.entries := by rw [hregistry]
  have hledger : (b.scan cls).ledger = b.ledger := by rw [hregistry]
  have hmidway := h.changes ((b.scan_changes cls).trans (b.midway_deeds cls).changes)
  have hwelcomed := foldl_welcomed cls hentries hledger
    (List.Nodup.filter _ (SortedMap.keys_nodup _)) fun _ hid => mem_eligible_iff.mp hid
  obtain ⟨hreport, hdismissed⟩ := foldl_dismissed cls hmidway
    (List.Nodup.filter _ (SortedMap.keys_nodup _))
    (fun _ hid => mem_devices_iff.mp (List.mem_filter.mp hid).1) (b.midway cls).1
  exact ⟨⟨(b.scan cls).owners.keys_lt.filter _, mem_eligible_scan cls b, h, hwelcomed,
    hdismissed⟩, hreport⟩

theorem Accounted.reconciled (h : Accounted b.entries b.ledger) (cls : DeviceClasses W K H) :
    Reconciled cls b (b.rescan cls).1 (b.rescan cls).2 := by
  obtain ⟨hpassed, hreport⟩ := h.passed cls
  have hreconciled := hpassed.reconciled
  rw [hpassed.welcomed.forgot, List.nil_append] at hreport
  rw [← hreport] at hreconciled
  rw [rescan_eq]
  exact hreconciled.note _

/-- What is registered after a rescan is expected. -/
theorem Accounted.expected_of_registered (h : Accounted b.entries b.ledger) {id : DeviceId}
    (hid : id ∈ (b.rescan cls).2.devices) : b.Expected cls id := by
  have hr := h.reconciled cls
  rcases hr.registered.mp hid with hfound | hkept
  · exact (hr.seen.mp (Or.inl hfound)).2
  · exact (hr.kept.mp hkept).2

end Broker

namespace Pool
variable {W K H : Type} {cls : DeviceClasses W K H}

/-- The lists of a report ascend and share nothing. They say which of the registered devices were
still expected, which were not, and what came of those that were expected and new. What is kept
stays as it is with its leases, what is found is idle, and only the leases of what is forgotten
end. -/
theorem rescan_reconciles {p : Pool W K H} (hp : Reachable cls p) :
    Broker.Reconciled cls p.broker (p.rescan cls).1 (p.rescan cls).2.broker :=
  hp.accounted.reconciled cls

/-- A pool whose devices `A` and `C` are leased when `C` is unplugged and two others are plugged in,
of which `D` cannot be opened. -/
def replugged : Pool Bench DeviceClass Handle :=
  let phones := SimulatedFamily.ofDevices [{ id := "A" }, { id := "C" }]
  let world := ({} : Bench).setSimulated 0 0 phones {}
  let leased := Pool.run Bench.classes ⟨.start world {}, []⟩
    [.register sharedPhones, .rescan, .tryAcquire {} "ann" 0, .tryAcquire {} "bob" 1]
  let phones := (((leased.broker.world.simulatedAt 0).unplug "C").plug { id := "D" }).plug
    { id := "E" }
  leased.run Bench.classes [.world (leased.broker.world.setSimulated 0 0 phones
    ((leased.broker.world.planAt 0).inject (.adoptDevice "D")))]

theorem replugged_reachable : Reachable Bench.classes replugged :=
  ((Reachable.start _ _).run _).run _

theorem rescan_reconciles_replugged :
    (replugged.rescan Bench.classes).1.found = ["E"] ∧
    (replugged.rescan Bench.classes).1.kept = ["A"] ∧
    (replugged.rescan Bench.classes).1.forgot = ["C"] ∧
    (replugged.rescan Bench.classes).1.failed = ["D"] ∧
    replugged.broker.ledger.acquisitions = [(⟨"ann", "A"⟩, [0]), (⟨"bob", "C"⟩, [0])] ∧
    (replugged.rescan Bench.classes).2.broker.ledger.acquisitions = [(⟨"ann", "A"⟩, [0])] ∧
    Broker.Reconciled Bench.classes replugged.broker (replugged.rescan Bench.classes).1
      (replugged.rescan Bench.classes).2.broker := by
  refine ⟨?_, ?_, ?_, ?_, ?_, ?_, rescan_reconciles replugged_reachable⟩ <;> decide +kernel

end Pool

end LeaseBroker
