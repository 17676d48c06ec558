import LeaseBroker.Proofs.Indexes
import LeaseBroker.Proofs.Reports
import Mathlib.Data.List.TakeWhile

/-!
# What a rescan asks its classes for

A rescan asks the owner of a permitted identifier for the device if none is registered under it.
When it comes to that device, only devices that stand before it have been welcomed, and none has
been forgotten. What the owner answers then, and which infos are registered then, decide whether
the device is found or fails. Nothing that the rescan does later takes this back.
-/

set_option autoImplicit false

namespace LeaseBroker

/-- The info that a class would give out for an identifier if it were asked now. -/
def DeviceClasses.given {W K H : Type} (cls : DeviceClasses W K H) (k : K) (id : DeviceId) (w : W) :
    Option DeviceInfo :=
  (cls.adopt k id w).answer.toOption.map (·.2)

section Cutting
variable {α : Type} [DecidableEq α] {x : α} {xs : List α}

theorem exists_eq_takeWhile_append (h : x ∈ xs) :
    ∃ rest, xs = xs.takeWhile (· != x) ++ x :: rest := by
  induction xs with
  | nil => cases h
  | cons y ys ih =>
    by_cases hy : y = x
    · subst hy
      exact ⟨ys, by simp⟩
    · obtain ⟨rest, hrest⟩ := ih ((List.mem_cons.mp h).resolve_left (Ne.symm hy))
      refine ⟨rest, ?_⟩
      rw [List.takeWhile_cons_of_pos (by simp [hy]), List.cons_append, ← hrest]

theorem not_mem_takeWhile_ne : x ∉ xs.takeWhile (· != x) := by
  intro h
  have hne := List.mem_takeWhile_imp h
  simp at hne

end Cutting

namespace Broker
variable {W K H : Type} (cls : DeviceClasses W K H) (b : Broker W K H)

/-! ### Reports only grow -/

theorem welcome_report_grows (state : RescanReport × Broker W K H) (id : DeviceId) :
    state.1.found <+: (welcome cls state id).1.found ∧
      state.1.failed <+: (welcome cls state id).1.failed := by
  rcases welcome_cases cls state id with
    ⟨_, h⟩ | ⟨_, _, h⟩ | ⟨k, _, _, ⟨c, _, h⟩ | ⟨r, c, _, h⟩⟩ <;> rw [h]
  · exact ⟨List.prefix_refl _, List.prefix_refl _⟩
  · exact ⟨List.prefix_refl _, List.prefix_refl _⟩
  · exact ⟨List.prefix_append _ _, List.prefix_refl _⟩
  · exact ⟨List.prefix_refl _, List.prefix_append _ _⟩

theorem foldl_welcome_report_grows (ids : List DeviceId) (state : RescanReport × Broker W K H) :
    state.1.found <+: (ids.foldl (welcome cls) state).1.found ∧
      state.1.failed <+: (ids.foldl (welcome cls) state).1.failed := by
  induction ids generalizing state with
  | nil => exact ⟨List.prefix_refl _, List.prefix_refl _⟩
  | cons id rest ih =>
    obtain ⟨hfound, hfailed⟩ := welcome_report_grows cls state id
    obtain ⟨hfound', hfailed'⟩ := ih (welcome cls state id)
    exact ⟨hfound.trans hfound', hfailed.trans hfailed'⟩

theorem welcome_registry {state : RescanReport × Broker W K H} {id : DeviceId}
    (h : (welcome cls state id).1.found = state.1.found) :
    (welcome cls state id).2.toRegistry = state.2.toRegistry := by
  rcases welcome_cases cls state id with
    ⟨_, hw⟩ | ⟨_, _, hw⟩ | ⟨k, _, _, ⟨c, _, hw⟩ | ⟨r, c, ha, hw⟩⟩ <;> rw [hw] at h ⊢
  · rfl
  · exact absurd h (by simp)
  · exact (adopt_refused ha :)

/-- Welcoming devices of which none is found leaves the registry as it was. -/
theorem foldl_welcome_registry {ids : List DeviceId} {state : RescanReport × Broker W K H}
    (h : (ids.foldl (welcome cls) state).1.found = state.1.found) :
    (ids.foldl (welcome cls) state).2.toRegistry = state.2.toRegistry := by
  induction ids generalizing state with
  | nil => rfl
  | cons id rest ih =>
    obtain ⟨hfirst, _⟩ := welcome_report_grows cls state id
    obtain ⟨hrest, _⟩ := foldl_welcome_report_grows cls rest (welcome cls state id)
    have hlength : (rest.foldl (welcome cls) (welcome cls state id)).1.found.length =
        state.1.found.length := congrArg List.length h
    have hid : (welcome cls state id).1.found = state.1.found := by
      refine (hfirst.eq_of_length ?_).symm
      have hle := hfirst.length_le
      have hle' := hrest.length_le
      omega
    exact (ih (h.trans hid.symm)).trans (welcome_registry cls hid)

theorem welcome_entry {state : RescanReport × Broker W K H} {i : DeviceId} {e : Entry K H}
    (he : state.2.entries.get? i = some e) (id : DeviceId) :
    (welcome cls state id).2.entries.get? i = some e := by
  rcases welcome_cases cls state id with
    ⟨_, hw⟩ | ⟨_, _, hw⟩ | ⟨k, fresh, _, ⟨c, ha, hw⟩ | ⟨r, c, ha, hw⟩⟩ <;> rw [hw]
  · exact he
  · exact he
  · have hne : i ≠ id := by
      rintro rfl
      rw [fresh] at he
      cases he
    rcases adopt_cases cls state.2 id k with
      ⟨_, _, hr⟩ | ⟨_, _, _, _, _, hr⟩ | ⟨_, _, _, _, hr⟩ <;> rw [hr] at ha <;> cases ha
    exact (SortedMap.get?_insert_of_ne _ _ hne).trans he
  · have hregistry : c.toRegistry = state.2.toRegistry := adopt_refused ha
    exact (congrArg (fun r => r.entries.get? i) hregistry).trans he

theorem foldl_welcome_entry {ids : List DeviceId} {state : RescanReport × Broker W K H}
    {i : DeviceId} {e : Entry K H} (he : state.2.entries.get? i = some e) :
    (ids.foldl (welcome cls) state).2.entries.get? i = some e := by
  induction ids generalizing state with
  | nil => exact he
  | cons id rest ih => exact ih (welcome_entry cls he id)

/-! ### Asking for a device -/

/-- Whether a rescan asks a class for a device. -/
structure Asks (id : DeviceId) (k : K) : Prop where
  fresh : b.entries.get? id = none
  owned : (b.scan cls).owners.get? id = some k
  permitted : b.access.permits id = true

/-- A rescan when it comes to a device. -/
def reaching (id : DeviceId) : RescanReport × Broker W K H :=
  ((b.scan cls).eligible.takeWhile (· != id)).foldl (welcome cls) ({}, b.scan cls)

/-- Asking is in vain if the class gives nothing, or gives an info that is registered. -/
theorem adopt_refused_iff (id : DeviceId) (k : K) : (∃ r, (b.adopt cls id k).1 = .error r) ↔
    ∀ info, cls.given k id b.world = some info → ∃ other, b.infos.get? info = some other := by
  unfold DeviceClasses.given
  rcases adopt_cases cls b id k with
    ⟨fault, hanswer, h⟩ | ⟨handle, info, other, hanswer, hknown, h⟩ |
      ⟨handle, info, hanswer, hunknown, h⟩ <;> rw [h, hanswer]
  · simp [Except.toOption]
  · simp [Except.toOption, hknown]
  · simp [Except.toOption, hunknown]

theorem eligible_nodup : b.eligible.Nodup :=
  List.Nodup.filter _ (SortedMap.keys_nodup _)

theorem reaching_deeds (id : DeviceId) : Deeds cls (b.scan cls) (b.reaching cls id).2 := by
  refine foldl_welcome_deeds cls _ ({}, b.scan cls) fun i hi => ?_
  exact (mem_eligible_iff.mp ((List.takeWhile_sublist _).subset hi)).2

theorem reaching_welcomed (id : DeviceId) :
    Welcomed b ((b.scan cls).eligible.takeWhile (· != id)) (b.reaching cls id).1
      (b.reaching cls id).2 := by
  have hentries : (b.scan cls).entries = b.entries := by rw [scan_toRegistry]
  have hledger : (b.scan cls).ledger = b.ledger := by rw [scan_toRegistry]
  refine foldl_welcomed cls hentries hledger ?_ ?_
  · exact (b.scan cls).eligible_nodup.sublist (List.takeWhile_sublist _)
  · exact fun i hi => mem_eligible_iff.mp ((List.takeWhile_sublist _).subset hi)

theorem Indexed.reaching {cls : DeviceClasses W K H} {b : Broker W K H}
    (h : Indexed b.entries b.infos) (id : DeviceId) :
    Indexed (b.reaching cls id).2.entries (b.reaching cls id).2.infos :=
  h.changes ((b.scan_changes cls).trans (b.reaching_deeds cls id).changes)

variable {cls b} {id : DeviceId} {k : K}

theorem reaching_entry {other : DeviceId} {e : Entry K H} (he : b.entries.get? other = some e) :
    (b.reaching cls id).2.entries.get? other = some e := by
  have hw := b.reaching_welcomed cls id
  rw [hw.others ?_, he]
  intro hfound
  have hnone := (hw.mem_of_found hfound).2
  rw [he] at hnone
  cases hnone

theorem midway_eq (h : id ∈ (b.scan cls).eligible) :
    ∃ rest : List DeviceId,
      b.midway cls = rest.foldl (welcome cls) (welcome cls (b.reaching cls id) id) := by
  obtain ⟨rest, hrest⟩ := exists_eq_takeWhile_append h
  refine ⟨rest, ?_⟩
  rw [midway, hrest, List.foldl_append, List.foldl_cons]
  rfl

theorem midway_entry (h : id ∈ (b.scan cls).eligible) {other : DeviceId} {e : Entry K H}
    (he : (b.reaching cls id).2.entries.get? other = some e) :
    (b.midway cls).2.entries.get? other = some e := by
  obtain ⟨rest, hmidway⟩ := midway_eq h
  rw [hmidway]
  exact foldl_welcome_entry cls (welcome_entry cls he id)

theorem asks_of_expected (hfresh : id ∉ b.devices) (hexpected : b.Expected cls id) :
    ∃ k, b.Asks cls id k := by
  obtain ⟨k, hk⟩ := (scan_owned cls b id).mpr hexpected.1
  exact ⟨k, not_mem_devices_iff.mp hfresh, hk, hexpected.2⟩

namespace Asks

theorem expected (h : b.Asks cls id k) : b.Expected cls id :=
  ⟨(scan_owned cls b id).mp ⟨k, h.owned⟩, h.permitted⟩

theorem mem_eligible (h : b.Asks cls id k) : id ∈ (b.scan cls).eligible :=
  (mem_eligible_scan cls b).mpr h.expected

theorem adoptable (h : b.Asks cls id k) : (b.reaching cls id).2.Adoptable id k := by
  have hdeeds := b.reaching_deeds cls id
  refine ⟨?_, ?_, ?_⟩
  · rw [(b.reaching_welcomed cls id).untouched not_mem_takeWhile_ne]
    exact h.fresh
  · rw [hdeeds.owners]
    exact h.owned
  · have haccess : (b.reaching cls id).2.access = b.access :=
      (foldl_welcome_access cls _ _).trans (b.scan_access cls)
    rw [haccess]
    exact h.permitted

theorem welcome_eq (h : b.Asks cls id k) :
    (∃ c, (b.reaching cls id).2.adopt cls id k = (.ok (), c) ∧
      id ∈ (welcome cls (b.reaching cls id) id).1.found) ∨
    (∃ r c, (b.reaching cls id).2.adopt cls id k = (.error r, c) ∧
      id ∈ (welcome cls (b.reaching cls id) id).1.failed) := by
  obtain ⟨fresh, owned, _⟩ := h.adoptable
  rcases welcome_cases cls (b.reaching cls id) id with
    ⟨⟨e, he⟩, _⟩ | ⟨_, unowned, _⟩ | ⟨j, _, hj, ⟨c, ha, hw⟩ | ⟨r, c, ha, hw⟩⟩
  · rw [fresh] at he
    cases he
  · rw [owned] at unowned
    cases unowned
  · obtain rfl : k = j := Option.some.inj (owned.symm.trans hj)
    rw [hw]
    exact Or.inl ⟨c, ha, List.mem_append_right _ (List.mem_singleton_self id)⟩
  · obtain rfl : k = j := Option.some.inj (owned.symm.trans hj)
    rw [hw]
    exact Or.inr ⟨r, c, ha, List.mem_append_right _ (List.mem_singleton_self id)⟩

theorem welcomed_entry (h : b.Asks cls id k) {c : Broker W K H}
    (ha : (b.reaching cls id).2.adopt cls id k = (.ok (), c)) :
    ∃ handle info, cls.given k id (b.reaching cls id).2.world = some info ∧
      (welcome cls (b.reaching cls id) id).2.entries.get? id =
        some { handle, info, holder := k } := by
  obtain ⟨fresh, owned, _⟩ := h.adoptable
  have hwelcome : (welcome cls (b.reaching cls id) id).2.entries = c.entries := by
    simp only [welcome, SortedMap.contains_eq_false_iff.mpr fresh, owned, ha, Bool.false_eq_true,
      if_false]
    rfl
  rcases adopt_cases cls (b.reaching cls id).2 id k with
    ⟨_, _, hr⟩ | ⟨_, _, _, _, _, hr⟩ | ⟨handle, info, hgiven, _, hr⟩ <;> rw [hr] at ha <;> cases ha
  refine ⟨handle, info, ?_, ?_⟩
  · rw [DeviceClasses.given, hgiven]
    rfl
  · rw [hwelcome]
    exact SortedMap.get?_insert_self _ _ _

end Asks

theorem reaching_registry (h : (b.reaching cls id).1.found = []) :
    (b.reaching cls id).2.toRegistry = (b.scan cls).toRegistry :=
  foldl_welcome_registry cls h

/-- Until a rescan finds a first device, the infos are those that were registered before. -/
theorem reaching_infos (hnone : (b.reaching cls id).1.found = []) :
    (b.reaching cls id).2.infos = b.infos := by
  have hinfos : (b.reaching cls id).2.infos = (b.scan cls).infos :=
    congrArg Registry.infos (reaching_registry hnone)
  rw [hinfos, scan_toRegistry]

namespace Accounted
variable (hb : Accounted b.entries b.ledger)
include hb

theorem rescan_found : (b.rescan cls).1.found = (b.midway cls).1.found := by
  obtain ⟨_, hreport⟩ := hb.passed cls
  rw [rescan_eq, hreport]

theorem rescan_failed : (b.rescan cls).1.failed = (b.midway cls).1.failed := by
  obtain ⟨_, hreport⟩ := hb.passed cls
  rw [rescan_eq, hreport]

theorem found_disjoint_failed :
    (b.rescan cls).1.found.Disjoint (b.rescan cls).1.failed := by
  rw [hb.rescan_found, hb.rescan_failed]
  exact (hb.passed cls).1.welcomed.disjoint

/-- A rescan that forgets nothing does nothing after it has welcomed what is expected. -/
theorem rescan_of_none_forgot (h : (b.rescan cls).1.forgot = []) :
    (b.rescan cls).2.toRegistry = (b.midway cls).2.toRegistry := by
  obtain ⟨hpassed, hreport⟩ := hb.passed cls
  have hgone : (b.midway cls).2.gone (b.scan cls).eligible = [] := by
    rw [rescan_eq, hreport, hpassed.welcomed.forgot] at h
    exact h
  have hcleared : b.cleared cls = b.midway cls := by
    rw [cleared, hgone]
    rfl
  rw [rescan_eq, hcleared]
  rfl

theorem reaching_found_starts (h : id ∈ (b.scan cls).eligible) :
    (b.reaching cls id).1.found <+: (b.rescan cls).1.found := by
  obtain ⟨rest, hmidway⟩ := midway_eq h
  rw [hb.rescan_found, hmidway]
  exact (welcome_report_grows cls _ id).1.trans (foldl_welcome_report_grows cls rest _).1

/-- A device that a rescan asks for fails exactly if, when the rescan comes to it, its class gives
nothing for it or gives an info that is registered. -/
theorem mem_failed_iff (h : b.Asks cls id k) : id ∈ (b.rescan cls).1.failed ↔
    ∀ info, cls.given k id (b.reaching cls id).2.world = some info →
      ∃ other, (b.reaching cls id).2.infos.get? info = some other := by
  rw [← adopt_refused_iff]
  obtain ⟨rest, hmidway⟩ := midway_eq h.mem_eligible
  have hlater := foldl_welcome_report_grows cls rest (welcome cls (b.reaching cls id) id)
  rw [← hmidway, ← hb.rescan_found, ← hb.rescan_failed] at hlater
  rcases h.welcome_eq with ⟨c, ha, hfound⟩ | ⟨r, c, ha, hfailed⟩
  · simp only [ha, reduceCtorEq, exists_false, iff_false]
    exact fun hfailed => hb.found_disjoint_failed (hlater.1.subset hfound) hfailed
  · simp only [ha, Except.error.injEq, exists_eq', iff_true]
    exact hlater.2.subset hfailed

/-- A device that a rescan finds is registered with what its class gives for it when the rescan
comes to it. -/
theorem found_entry (h : b.Asks cls id k) (hfound : id ∈ (b.rescan cls).1.found) :
    ∃ handle info, cls.given k id (b.reaching cls id).2.world = some info ∧
      (b.rescan cls).2.entries.get? id = some { handle, info, holder := k } := by
  obtain ⟨rest, hmidway⟩ := midway_eq h.mem_eligible
  have hlater := foldl_welcome_report_grows cls rest (welcome cls (b.reaching cls id) id)
  rw [← hmidway, ← hb.rescan_found, ← hb.rescan_failed] at hlater
  rcases h.welcome_eq with ⟨c, ha, _⟩ | ⟨r, c, _, hfailed⟩
  · obtain ⟨handle, info, hgiven, hentry⟩ := h.welcomed_entry ha
    refine ⟨handle, info, hgiven, ?_⟩
    -- Whatever is welcomed later leaves the entry alone, and nothing expected is dismissed.
    have hlast := (hb.passed cls).1.get?_of_expected h.expected
    rw [hmidway, foldl_welcome_entry cls hentry] at hlast
    rw [rescan_eq]
    exact hlast
  · exact absurd (hlater.2.subset hfailed) (hb.found_disjoint_failed hfound)

theorem reaching_first {rest : List DeviceId} (h : (b.rescan cls).1.found = id :: rest) :
    (b.reaching cls id).1.found = [] := by
  have hmem : id ∈ (b.rescan cls).1.found := h ▸ List.mem_cons_self
  have hexpected := ((hb.reconciled cls).seen.mp (Or.inl hmem)).2
  have hstarts := hb.reaching_found_starts ((mem_eligible_scan cls b).mpr hexpected)
  rw [h] at hstarts
  cases hfound : (b.reaching cls id).1.found with
  | nil => rfl
  | cons first others =>
    rw [hfound, List.cons_prefix_cons] at hstarts
    have hid : id ∈ (b.reaching cls id).1.found := by
      rw [hfound, hstarts.1]
      exact List.mem_cons_self
    exact absurd ((b.reaching_welcomed cls id).mem_of_found hid).1 not_mem_takeWhile_ne

end Accounted

end Broker

end LeaseBroker
