import LeaseBroker.Proofs.Asking
import Mathlib.Data.List.Sort

/-!
# Rescanning again

Two rescans in a row while the classes go on answering alike. The second one forgets nothing and
keeps whatever the first one left. It finds nothing either, unless the first one could not adopt a
device for the sake of another with the same info that it forgot afterwards, since a rescan adopts
before it forgets. In that case the second one makes up for this, and a third one has nothing left
to do.
-/

set_option autoImplicit false

namespace LeaseBroker

namespace Broker
variable {W K H : Type} {cls : DeviceClasses W K H} {b c d : Broker W K H}
  {report report' : RescanReport} {id other : DeviceId} {k : K}

/-- Whether the classes answer a rescan of one broker as they answer a rescan of another: they
report the same identifiers, and those that are asked for a device in both rescans give out the
same info or nothing. -/
structure Steady (cls : DeviceClasses W K H) (b c : Broker W K H) : Prop where
  reports : cls.reports c.world c.classes = cls.reports b.world b.classes
  given : ∀ {id : DeviceId} {k : K}, b.Asks cls id k → c.Asks cls id k →
    cls.given k id (c.reaching cls id).2.world = cls.given k id (b.reaching cls id).2.world

/-- Whether a rescan is given an info for a new device that another registered device has. -/
def Doubles (cls : DeviceClasses W K H) (b : Broker W K H) (id other : DeviceId) : Prop :=
  ∃ k info, b.Asks cls id k ∧ cls.given k id (b.reaching cls id).2.world = some info ∧
    b.info other = .ok info

theorem expected_iff (b : Broker W K H) : b.Expected cls id ↔
    (∃ k, (b.scan cls).owners.get? id = some k) ∧ b.access.permits id = true := by
  rw [scan_owned]
  exact Iff.rfl

/-! ### One rescan -/

/-- A rescan of a broker whose counts and indexes agree. -/
structure Rescanned (cls : DeviceClasses W K H) (b : Broker W K H) (report : RescanReport)
    (c : Broker W K H) : Prop where
  pass : b.rescan cls = (report, c)
  accounted : Accounted b.entries b.ledger
  indexed : Indexed b.entries b.infos

namespace Rescanned
variable (h : Rescanned cls b report c)
include h

theorem reconciled : Reconciled cls b report c := by
  have hr := h.accounted.reconciled cls
  rwa [h.pass] at hr

theorem owners : c.owners = (b.scan cls).owners := by
  have howners := rescan_owners cls b
  rwa [h.pass] at howners

theorem access : c.access = b.access := by
  have haccess := rescan_access cls b
  rwa [h.pass] at haccess

theorem expected_of_registered (hid : id ∈ c.devices) : b.Expected cls id := by
  refine h.accounted.expected_of_registered ?_
  rwa [h.pass]

theorem found_disjoint_failed : report.found.Disjoint report.failed := by
  have hdisjoint : (b.rescan cls).1.found.Disjoint (b.rescan cls).1.failed :=
    h.accounted.found_disjoint_failed
  rwa [h.pass] at hdisjoint

theorem mem_failed_iff (hasks : b.Asks cls id k) : id ∈ report.failed ↔
    ∀ info, cls.given k id (b.reaching cls id).2.world = some info →
      ∃ other, (b.reaching cls id).2.infos.get? info = some other := by
  have hfailed := h.accounted.mem_failed_iff hasks
  rwa [h.pass] at hfailed

theorem mem_failed_of_expected (hexpected : b.Expected cls id) (hid : id ∉ c.devices) :
    id ∉ b.devices ∧ id ∈ report.failed := by
  have hr := h.reconciled
  rw [hr.registered, not_or] at hid
  have hnew : id ∉ b.devices := fun hold => hid.2 (hr.kept.mpr ⟨hold, hexpected⟩)
  exact ⟨hnew, (hr.seen.mpr ⟨hnew, hexpected⟩).resolve_left hid.1⟩

theorem not_registered_of_failed (hid : id ∈ report.failed) : id ∉ c.devices := by
  have hr := h.reconciled
  rw [hr.registered, not_or]
  refine ⟨fun hfound => h.found_disjoint_failed hfound hid, fun hkept => ?_⟩
  exact (hr.seen.mp (Or.inr hid)).1 (hr.kept.mp hkept).1

theorem not_registered_of_forgot (hid : id ∈ report.forgot) : id ∉ c.devices := by
  obtain ⟨_, hgone⟩ := h.reconciled.forgot.mp hid
  exact fun hstays => hgone (h.expected_of_registered hstays)

theorem entry_of_expected (hexpected : b.Expected cls id) :
    c.entries.get? id = (b.midway cls).2.entries.get? id := by
  have hentry : (b.rescan cls).2.entries.get? id = (b.midway cls).2.entries.get? id :=
    (h.accounted.passed cls).1.get?_of_expected hexpected
  rwa [h.pass] at hentry

theorem forgot_or_stays {e : Entry K H} (hasks : b.Asks cls id k)
    (he : (b.reaching cls id).2.entries.get? other = some e) :
    (other ∈ report.forgot ∧ b.entries.get? other = some e) ∨ c.entries.get? other = some e := by
  by_cases hexpected : b.Expected cls other
  · right
    rw [h.entry_of_expected hexpected]
    exact midway_entry hasks.mem_eligible he
  · left
    have hnotfound : other ∉ (b.reaching cls id).1.found := by
      intro hfound
      have hstarts := h.accounted.reaching_found_starts hasks.mem_eligible
      rw [h.pass] at hstarts
      exact hexpected (h.reconciled.seen.mp (Or.inl (hstarts.subset hfound))).2
    have hold : b.entries.get? other = some e := by
      rw [← he, (b.reaching_welcomed cls id).others hnotfound]
    exact ⟨h.reconciled.forgot.mpr ⟨mem_devices_iff.mpr ⟨e, hold⟩, hexpected⟩, hold⟩

theorem reaching_indexed (id : DeviceId) :
    Indexed (b.reaching cls id).2.entries (b.reaching cls id).2.infos :=
  h.indexed.reaching id

theorem midway_indexed : Indexed (b.midway cls).2.entries (b.midway cls).2.infos :=
  h.indexed.changes ((b.scan_changes cls).trans (b.midway_deeds cls).changes)

theorem failed_of_given {e : Entry K H} (hasks : b.Asks cls id k)
    (he : b.entries.get? other = some e)
    (hgiven : cls.given k id (b.reaching cls id).2.world = some e.info) : id ∈ report.failed := by
  rw [h.mem_failed_iff hasks]
  intro info hinfo
  obtain rfl := Option.some.inj (hgiven.symm.trans hinfo)
  exact ⟨other, (h.reaching_indexed id).agree.mpr ⟨e, reaching_entry he, rfl⟩⟩

theorem failed_of_not_found (hasks : b.Asks cls id k) (hfound : id ∉ report.found) :
    id ∈ report.failed := by
  have hnew := not_mem_devices_iff.mpr hasks.fresh
  exact (h.reconciled.seen.mpr ⟨hnew, hasks.expected⟩).resolve_left hfound

theorem reaching_none (hasks : b.Asks cls id k) (hfound : report.found = []) :
    (b.reaching cls id).1.found = [] := by
  have hstarts := h.accounted.reaching_found_starts hasks.mem_eligible
  rw [h.pass, hfound] at hstarts
  exact List.prefix_nil.mp hstarts

theorem reaching_first {rest : List DeviceId} (hfound : report.found = id :: rest) :
    (b.reaching cls id).1.found = [] := by
  have hreport : (b.rescan cls).1.found = id :: rest := by rw [h.pass, hfound]
  exact h.accounted.reaching_first hreport

/-- A rescan that finds and forgets nothing changes nothing but the owners. -/
theorem registry_eq (hfound : report.found = []) (hforgot : report.forgot = []) :
    c.toRegistry = { b.toRegistry with owners := (b.scan cls).owners } := by
  have hnone : (b.rescan cls).1.forgot = [] →
      (b.rescan cls).2.toRegistry = (b.midway cls).2.toRegistry :=
    h.accounted.rescan_of_none_forgot
  have hmidway : (b.rescan cls).1.found = (b.midway cls).1.found := h.accounted.rescan_found
  rw [h.pass] at hnone hmidway
  rw [hnone hforgot, ← scan_toRegistry]
  exact foldl_welcome_registry cls (hmidway.symm.trans hfound)

end Rescanned

/-! ### Two rescans -/

namespace Steady
variable (h : Steady cls b c) (first : Rescanned cls b report c)
  (second : Rescanned cls c report' d)
include h

theorem owners : (c.scan cls).owners = (b.scan cls).owners := by
  rw [scan_owners, scan_owners, h.reports]

include first

theorem expected : c.Expected cls id ↔ b.Expected cls id := by
  rw [expected_iff, expected_iff, h.owners, first.access]

theorem asks (hasks : c.Asks cls id k) : b.Asks cls id k ∧ id ∈ report.failed := by
  have hnew := not_mem_devices_iff.mpr hasks.fresh
  obtain ⟨hfresh, hfailed⟩ :=
    first.mem_failed_of_expected ((h.expected first).mp hasks.expected) hnew
  refine ⟨⟨not_mem_devices_iff.mp hfresh, ?_, ?_⟩, hfailed⟩
  · rw [← h.owners]
    exact hasks.owned
  · rw [← first.access]
    exact hasks.permitted

theorem asks_again (hasks : b.Asks cls id k) (hfailed : id ∈ report.failed) :
    c.Asks cls id k := by
  refine ⟨not_mem_devices_iff.mp (first.not_registered_of_failed hfailed), ?_, ?_⟩
  · rw [h.owners]
    exact hasks.owned
  · rw [first.access]
    exact hasks.permitted

include second

theorem forgot_nil : report'.forgot = [] := by
  refine List.eq_nil_iff_forall_not_mem.mpr fun id hid => ?_
  obtain ⟨hold, hgone⟩ := second.reconciled.forgot.mp hid
  exact hgone ((h.expected first).mpr (first.expected_of_registered hold))

theorem kept_eq : report'.kept = c.devices := by
  have hr := second.reconciled
  have hascending : report'.kept.Pairwise (· < ·) := hr.ascending _ (by simp)
  refine hascending.eq_of_mem_iff c.entries.keys_lt fun {id} => ?_
  rw [hr.kept, and_iff_left_iff_imp]
  exact fun hold => (h.expected first).mpr (first.expected_of_registered hold)

theorem failed_eq (hfound : report'.found = []) : report'.failed = report.failed := by
  have hr := first.reconciled
  have hr' := second.reconciled
  have hascending : report.failed.Pairwise (· < ·) := hr.ascending _ (by simp)
  have hascending' : report'.failed.Pairwise (· < ·) := hr'.ascending _ (by simp)
  refine hascending'.eq_of_mem_iff hascending fun {id} => ?_
  constructor
  · intro hid
    obtain ⟨hnew, hexpected⟩ := hr'.seen.mp (Or.inr hid)
    exact (first.mem_failed_of_expected ((h.expected first).mp hexpected) hnew).2
  · intro hid
    have hexpected := (h.expected first).mpr (hr.seen.mp (Or.inr hid)).2
    have hseen := hr'.seen.mpr ⟨first.not_registered_of_failed hid, hexpected⟩
    rw [hfound] at hseen
    exact hseen.resolve_left List.not_mem_nil

theorem registry_eq (hfound : report'.found = []) : d.toRegistry = c.toRegistry := by
  rw [second.registry_eq hfound (h.forgot_nil first second), h.owners, ← first.owners]

/-- The first device that the second rescan finds has the info of one that the first forgot. -/
theorem exists_doubles (hfound : report'.found ≠ []) :
    ∃ id, ∃ other ∈ report.forgot, b.Doubles cls id other := by
  obtain ⟨id, rest, hcons⟩ := List.exists_cons_of_ne_nil hfound
  have hid : id ∈ report'.found := hcons ▸ List.mem_cons_self
  obtain ⟨hnew, hexpected⟩ := second.reconciled.seen.mp (Or.inl hid)
  obtain ⟨k, hasks⟩ := asks_of_expected hnew hexpected
  obtain ⟨hbefore, hfailed⟩ := h.asks first hasks
  -- The second rescan is given an info that is not registered then.
  have hadopted : id ∉ report'.failed := fun hid' => second.found_disjoint_failed hid hid'
  rw [second.mem_failed_iff hasks, reaching_infos (second.reaching_first hcons)] at hadopted
  push Not at hadopted
  obtain ⟨info, hgiven, hunknown⟩ := hadopted
  -- The first rescan was given the same info, which was registered then.
  rw [h.given hbefore hasks] at hgiven
  obtain ⟨other, hother⟩ := (first.mem_failed_iff hbefore).mp hfailed info hgiven
  obtain ⟨e, he, rfl⟩ := (first.reaching_indexed id).agree.mp hother
  rcases first.forgot_or_stays hbefore he with ⟨hforgot, hold⟩ | hstays
  · have hinfo : b.info other = .ok e.info := Pool.info_eq_ok_iff.mpr ⟨e, hold, rfl⟩
    exact ⟨id, other, hforgot, k, e.info, hbefore, hgiven, hinfo⟩
  · have hknown := second.indexed.agree.mpr ⟨e, hstays, rfl⟩
    exact absurd hknown (hunknown other)

/-- A new device with the info of one that the first rescan forgets is found by the second. -/
theorem found_ne_nil (hforgot : other ∈ report.forgot) (hdoubles : b.Doubles cls id other) :
    report'.found ≠ [] := by
  intro hfound
  obtain ⟨k, info, hasks, hgiven, hinfo⟩ := hdoubles
  obtain ⟨e, he, rfl⟩ := Pool.info_eq_ok_iff.mp hinfo
  -- The first rescan refuses the device, since the other one is registered until the end.
  have hfailed := first.failed_of_given hasks he hgiven
  -- So does the second one, for the sake of a third device.
  have hagain := h.asks_again first hasks hfailed
  have hrefused := second.failed_of_not_found hagain (hfound ▸ List.not_mem_nil)
  rw [second.mem_failed_iff hagain, h.given hasks hagain] at hrefused
  obtain ⟨third, hthird⟩ := hrefused e.info hgiven
  rw [reaching_infos (second.reaching_none hagain hfound)] at hthird
  obtain ⟨e', he', hsame⟩ := second.indexed.agree.mp hthird
  -- Before the first rescan forgot anything, both would have been registered with one info.
  have hstays : third ∈ c.devices := mem_devices_iff.mpr ⟨e', he'⟩
  rw [first.entry_of_expected (first.expected_of_registered hstays)] at he'
  have hmidway := midway_entry hasks.mem_eligible (reaching_entry he)
  have heq := first.midway_indexed.eq_of_info he' hmidway hsame
  exact first.not_registered_of_forgot hforgot (heq ▸ hstays)

theorem found_eq_nil_iff :
    report'.found = [] ↔ ∀ id, ∀ other ∈ report.forgot, ¬ b.Doubles cls id other := by
  constructor
  · exact fun hfound id other hforgot hdoubles =>
      h.found_ne_nil first second hforgot hdoubles hfound
  · intro hnone
    by_contra hfound
    obtain ⟨id, other, hforgot, hdoubles⟩ := h.exists_doubles first second hfound
    exact hnone id other hforgot hdoubles

end Steady

end Broker

namespace Pool
variable {W K H : Type} {cls : DeviceClasses W K H} {p q r s : Pool W K H}
  {first second third : RescanReport}

theorem Reachable.rescanned (hp : Reachable cls p) (hq : p.rescan cls = (first, q)) :
    Broker.Rescanned cls p.broker first q.broker := by
  cases hq
  exact ⟨rfl, hp.accounted, hp.indexed⟩

theorem Reachable.rescan (hp : Reachable cls p) (hq : p.rescan cls = (first, q)) :
    Reachable cls q := by
  cases hq
  exact hp.step .rescan

/-- If the classes answer a second rescan as they answered the first, it forgets nothing and keeps
what the first one left. It finds nothing exactly if no new device of the first rescan had the info
of a device that was forgotten then. In this case it fails what the first one failed and changes
nothing. A third rescan that is answered in the same way changes nothing in any case. -/
theorem rescan_idempotent_unless_doubled (hp : Reachable cls p) (hq : p.rescan cls = (first, q))
    (hr : q.rescan cls = (second, r)) (hs : r.rescan cls = (third, s))
    (steady : p.broker.Steady cls q.broker) :
    second.forgot = [] ∧ second.kept = q.broker.devices ∧
    (second.found = [] ↔ ∀ id, ∀ other ∈ first.forgot, ¬ p.broker.Doubles cls id other) ∧
    (second.found = [] →
      second.failed = first.failed ∧ r.broker.toRegistry = q.broker.toRegistry) ∧
    (q.broker.Steady cls r.broker → third.found = [] ∧ third.kept = r.broker.devices ∧
      third.forgot = [] ∧ third.failed = second.failed ∧
      s.broker.toRegistry = r.broker.toRegistry) := by
  have hfirst := hp.rescanned hq
  have hsecond := (hp.rescan hq).rescanned hr
  have hthird := ((hp.rescan hq).rescan hr).rescanned hs
  have hforgot := steady.forgot_nil hfirst hsecond
  refine ⟨hforgot, steady.kept_eq hfirst hsecond, steady.found_eq_nil_iff hfirst hsecond, ?_, ?_⟩
  · intro hfound
    exact ⟨steady.failed_eq hfirst hsecond hfound, steady.registry_eq hfirst hsecond hfound⟩
  · intro steady'
    have hfound : third.found = [] := by
      rw [steady'.found_eq_nil_iff hsecond hthird, hforgot]
      exact fun _ _ hmem => absurd hmem List.not_mem_nil
    exact ⟨hfound, steady'.kept_eq hsecond hthird, steady'.forgot_nil hsecond hthird,
      steady'.failed_eq hsecond hthird hfound, steady'.registry_eq hsecond hthird hfound⟩

/-- The classes of a replugged pool answer alike twice. The only device that the second rescan asks
for cannot be opened. -/
theorem replugged_steady :
    replugged.broker.Steady Bench.classes (replugged.rescan Bench.classes).2.broker where
  reports := rfl
  given := by
    intro id k hbefore hasks
    have heligible : (replugged.broker.scan Bench.classes).eligible = ["A", "D", "E"] := by
      decide +kernel
    have hdevices : (replugged.rescan Bench.classes).2.broker.devices = ["A", "E"] := by
      decide +kernel
    have hmem := hbefore.mem_eligible
    have hnew := Broker.not_mem_devices_iff.mpr hasks.fresh
    rw [heligible] at hmem
    rw [hdevices] at hnew
    obtain rfl : id = "D" := by
      simp only [List.mem_cons, List.not_mem_nil, or_false, not_or] at hmem hnew
      exact (hmem.resolve_left hnew.1).resolve_right hnew.2
    have howner : (replugged.broker.scan Bench.classes).owners.get? "D" = some sharedPhones := rfl
    obtain rfl := Option.some.inj (howner.symm.trans hbefore.owned)
    rfl

theorem rescan_idempotent_unless_doubled_replugged :
    (replugged.rescan Bench.classes).1.forgot = ["C"] ∧
    ((replugged.rescan Bench.classes).2.rescan Bench.classes).1.found = [] ∧
    ((replugged.rescan Bench.classes).2.rescan Bench.classes).1.kept = ["A", "E"] ∧
    ((replugged.rescan Bench.classes).2.rescan Bench.classes).1.failed = ["D"] ∧
    ¬ replugged.broker.Doubles Bench.classes "E" "C" := by
  have hforgot : (replugged.rescan Bench.classes).1.forgot = ["C"] := by decide +kernel
  have hfailed : (replugged.rescan Bench.classes).1.failed = ["D"] := by decide +kernel
  have hdevices : (replugged.rescan Bench.classes).2.broker.devices = ["A", "E"] := by
    decide +kernel
  have hfound : ((replugged.rescan Bench.classes).2.rescan Bench.classes).1.found = [] := by
    decide +kernel
  obtain ⟨_, hkept, hdoubled, hidle, _⟩ := rescan_idempotent_unless_doubled replugged_reachable
    Prod.mk.eta.symm Prod.mk.eta.symm Prod.mk.eta.symm replugged_steady
  refine ⟨hforgot, hfound, hkept.trans hdevices, (hidle hfound).1.trans hfailed, ?_⟩
  exact hdoubled.mp hfound "E" "C" (by rw [hforgot]; decide)

/-- A pool whose only class first reports `A` and then `B`, with one info for both. -/
def swapped : Pool Bench DeviceClass Handle :=
  let script : ScriptedFamily :=
    { scans := [.ok ["A"], .ok ["B"]]
      infos := .ofList [("A", { id := "X" }), ("B", { id := "X" })] }
  Pool.run Bench.classes ⟨.start (({} : Bench).setScripted 0 script) {}, []⟩
    [.register ⟨"swap", .exclusive, .scripted 0⟩, .rescan]

theorem swapped_reachable : Reachable Bench.classes swapped :=
  (Reachable.start _ _).run _

theorem swapped_steady :
    swapped.broker.Steady Bench.classes (swapped.rescan Bench.classes).2.broker where
  reports := rfl
  given := by
    intro id k hbefore _
    have heligible : (swapped.broker.scan Bench.classes).eligible = ["B"] := by decide +kernel
    have hmem := hbefore.mem_eligible
    rw [heligible] at hmem
    obtain rfl := List.mem_singleton.mp hmem
    have howner : (swapped.broker.scan Bench.classes).owners.get? "B" =
        some ⟨"swap", .exclusive, .scripted 0⟩ := rfl
    obtain rfl := Option.some.inj (howner.symm.trans hbefore.owned)
    rfl

/-- A second rescan that is answered like the first may find a device that the first one failed. -/
theorem second_rescan_finds_swapped :
    Reachable Bench.classes swapped ∧
    swapped.broker.Steady Bench.classes (swapped.rescan Bench.classes).2.broker ∧
    (swapped.rescan Bench.classes).1.forgot = ["A"] ∧
    (swapped.rescan Bench.classes).1.failed = ["B"] ∧
    ((swapped.rescan Bench.classes).2.rescan Bench.classes).1.found = ["B"] := by
  refine ⟨swapped_reachable, swapped_steady, ?_, ?_, ?_⟩ <;> decide +kernel

end Pool

end LeaseBroker
