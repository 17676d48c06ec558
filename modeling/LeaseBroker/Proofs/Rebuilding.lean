import LeaseBroker.Proofs.Ownership
import LeaseBroker.Proofs.Reliability

/-!
# Rebuilding after a reset

A reset forgets every device without a word to the classes. A class that keeps a set goes on
counting the devices as adopted and does not give them out again. So a rescan after a reset finds
exactly those devices that their owners have not adopted. All others fail, although nothing is
wrong with them.
-/

set_option autoImplicit false

namespace LeaseBroker

namespace Bench
variable {w : Bench} {k : DeviceClass} {id i : DeviceId}

/-! ### Sets change at one identifier -/

theorem adopt_contains_of_ne (hk : k.KeepsSet) (h : id ≠ i) (place : Place) :
    ((adopt k i w).world.adoptedAt place).contains id = (w.adoptedAt place).contains id := by
  by_cases hplace : place = k.place
  · subst hplace
    cases hanswer : (adopt k i w).answer with
    | error fault => rw [adopt_adoptedAt_of_error hanswer]
    | ok given =>
      obtain ⟨hadopted, _⟩ := adopt_adoptedAt_of_ok hk hanswer
      rw [hadopted, Bool.eq_iff_iff, SortedSet.contains_add]
      simp [h]
  · rw [adopt_adoptedAt_of_ne hplace]

theorem abandon_contains_of_ne (hk : k.KeepsSet) (h : id ≠ i) {handle : Handle}
    {info : DeviceInfo} (hstrikes : k.Strikes i handle info) (place : Place) :
    ((abandon k info handle w).world.adoptedAt place).contains id =
      (w.adoptedAt place).contains id := by
  by_cases hplace : place = k.place
  · subst hplace
    rw [abandon_adoptedAt hk hstrikes, Bool.eq_iff_iff, SortedSet.contains_erase]
    simp [h]
  · rw [abandon_adoptedAt_of_ne hplace]

end Bench

namespace Broker
variable {b c : Broker Bench DeviceClass Handle} {id : DeviceId} {k : DeviceClass}

theorem scan_alike (b : Broker Bench DeviceClass Handle) :
    Bench.Alike b.world (b.scan Bench.classes).world :=
  scan_preserve (P := fun c => Bench.Alike b.world c.world) (.refl _)
    (fun c _ _ h => h.trans (Bench.rescan_alike _ c.world)) (fun _ _ _ _ h => h) (fun _ _ _ h => h)

theorem scan_adoptedAt (b : Broker Bench DeviceClass Handle) (place : Place) :
    (b.scan Bench.classes).world.adoptedAt place = b.world.adoptedAt place := by
  refine scan_preserve (P := fun c : Broker Bench DeviceClass Handle =>
    c.world.adoptedAt place = b.world.adoptedAt place) rfl ?_ (fun _ _ _ _ h => h)
    (fun _ _ _ h => h)
  intro c k _ h
  exact (Bench.rescan_adoptedAt c.world k place).trans h

def AllReliable (b : Broker Bench DeviceClass Handle) : Prop :=
  ∀ k ∈ b.classes, k.Reliable b.world

theorem reported_of_owner (h : (b.scan Bench.classes).owners.get? id = some k) :
    k ∈ b.classes ∧ ∃ w, Bench.Alike b.world w ∧
      id ∈ (Bench.rescan k w).answer.toOption.getD [] := by
  rw [scan_owner] at h
  obtain ⟨ids, hreport, hid⟩ := mem_of_lastReporter h
  obtain ⟨hk, w, halike, rfl⟩ := Bench.exists_of_mem_reports hreport
  exact ⟨hk, w, halike, hid⟩

theorem AllReliable.owner (hb : b.AllReliable)
    (h : (b.scan Bench.classes).owners.get? id = some k) :
    k.Reliable b.world ∧ k.Offers b.world id := by
  obtain ⟨hk, w, halike, hid⟩ := reported_of_owner h
  have hoffers : k.Offers w id := ((hb k hk).alike halike).offers hid
  exact ⟨hb k hk, hoffers.alike halike.symm⟩

def AllLabel (b : Broker Bench DeviceClass Handle) : Prop := ∀ k ∈ b.classes, k.Labels b.world

theorem AllReliable.allLabel (hb : b.AllReliable) : b.AllLabel := fun k hk => (hb k hk).labels

/-! ### A rescan of a blank registry -/

/-- What a rescan has done to the classes, and to the infos, when it comes to a device that nobody
has asked for yet. -/
structure Undisturbed (b : Broker Bench DeviceClass Handle) (id : DeviceId)
    (c : Broker Bench DeviceClass Handle) : Prop where
  alike : Bench.Alike b.world c.world
  owners : c.owners = (b.scan Bench.classes).owners
  adopted : ∀ place,
    (c.world.adoptedAt place).contains id = (b.world.adoptedAt place).contains id
  infos : c.infos.All fun info i => info.id = i ∧ i ≠ id

namespace Undisturbed

theorem scan (hinfos : b.infos = ∅) (id : DeviceId) : Undisturbed b id (b.scan Bench.classes) where
  alike := b.scan_alike
  owners := rfl
  adopted := fun place => by rw [scan_adoptedAt]
  infos := by
    have hsame : (b.scan Bench.classes).infos = b.infos := by rw [scan_toRegistry]
    rw [hsame, hinfos]
    exact SortedMap.All.empty

theorem adopt (hb : b.AllLabel) (h : Undisturbed b id c) {i : DeviceId} (hne : i ≠ id)
    (howner : c.owners.get? i = some k) : Undisturbed b id (c.adopt Bench.classes i k).2 := by
  have hk : k.Labels b.world := hb k (reported_of_owner (h.owners ▸ howner)).1
  have hasked : Bench.Alike b.world (Bench.adopt k i c.world).world :=
    h.alike.trans (Bench.adopt_alike k i c.world)
  have hadopted : ∀ place, ((Bench.adopt k i c.world).world.adoptedAt place).contains id =
      (b.world.adoptedAt place).contains id := fun place =>
    (Bench.adopt_contains_of_ne hk.keepsSet (Ne.symm hne) place).trans (h.adopted place)
  rcases adopt_cases Bench.classes c i k with
    ⟨_, _, ha⟩ | ⟨handle, info, _, hgiven, _, ha⟩ | ⟨handle, info, hgiven, _, ha⟩ <;> rw [ha]
  · exact ⟨hasked, h.owners, hadopted, h.infos⟩
  · have hstrikes := (Bench.adopt_adoptedAt_of_ok hk.keepsSet hgiven).2
    refine ⟨?_, ?_, ?_, ?_⟩
    · rw [abandon_world]
      exact hasked.trans (Bench.abandon_alike k info handle _)
    · rw [abandon_toRegistry]
      exact h.owners
    · intro place
      rw [abandon_world]
      exact (Bench.abandon_contains_of_ne hk.keepsSet (Ne.symm hne) hstrikes place).trans
        (hadopted place)
    · rw [abandon_toRegistry]
      exact h.infos
  · exact ⟨hasked, h.owners, hadopted, SortedMap.All.insert h.infos ⟨hk.info_id h.alike hgiven, hne⟩⟩

theorem note (h : Undisturbed b id c) (notice : Notice) : Undisturbed b id (c.note notice) :=
  { h with }

theorem welcome (hb : b.AllLabel) {state : RescanReport × Broker Bench DeviceClass Handle}
    (h : Undisturbed b id state.2) {i : DeviceId} (hne : i ≠ id) :
    Undisturbed b id (welcome Bench.classes state i).2 := by
  rcases welcome_cases Bench.classes state i with
    ⟨_, hw⟩ | ⟨_, _, hw⟩ | ⟨k, _, howner, hadopt⟩
  · rw [hw]
    exact h.note _
  · rw [hw]
    exact h
  · have hasked := h.adopt hb hne howner
    rcases hadopt with ⟨c, ha, hw⟩ | ⟨r, c, ha, hw⟩ <;> rw [ha] at hasked <;> rw [hw]
    · exact hasked.note _
    · exact hasked.note _

theorem foldl_welcome (hb : b.AllLabel) {ids : List DeviceId} (hids : id ∉ ids)
    {state : RescanReport × Broker Bench DeviceClass Handle} (h : Undisturbed b id state.2) :
    Undisturbed b id (ids.foldl (Broker.welcome Bench.classes) state).2 := by
  induction ids generalizing state with
  | nil => exact h
  | cons i rest ih =>
    rw [List.mem_cons, not_or] at hids
    exact ih hids.2 (h.welcome hb (Ne.symm hids.1))

end Undisturbed

section Label
variable (hb : b.AllLabel) (hinfos : b.infos = ∅)
include hb hinfos

theorem AllLabel.undisturbed (id : DeviceId) :
    Undisturbed b id (b.reaching Bench.classes id).2 :=
  (Undisturbed.scan hinfos id).foldl_welcome hb not_mem_takeWhile_ne

theorem AllLabel.not_mem_failed (hacc : Accounted b.entries b.ledger) (h : b.Asks Bench.classes id k)
    {info : DeviceInfo} (hid : info.id = id)
    (hgiven : Bench.classes.given k id (b.reaching Bench.classes id).2.world = some info) :
    id ∉ (b.rescan Bench.classes).1.failed := by
  rw [hacc.mem_failed_iff h]
  intro hrefused
  obtain ⟨other, hknown⟩ := hrefused info hgiven
  -- The only registered info with that identifier would be the device itself.
  obtain ⟨hother, hne⟩ := (hb.undisturbed hinfos id).infos info other hknown
  exact hne (hother.symm.trans hid)

end Label

theorem AllReliable.mem_failed_iff (hb : b.AllReliable) (hacc : Accounted b.entries b.ledger)
    (hinfos : b.infos = ∅) (h : b.Asks Bench.classes id k) :
    id ∈ (b.rescan Bench.classes).1.failed ↔
      (b.world.adoptedAt k.place).contains id = true := by
  have hasked := hb.allLabel.undisturbed hinfos id
  obtain ⟨hreliable, hoffers⟩ := hb.owner h.owned
  rw [← hasked.adopted]
  constructor
  · intro hfailed
    by_contra hfree
    obtain ⟨info, hgiven, hid⟩ := (hreliable.alike hasked.alike).given_of_not_adopted
      (hoffers.alike hasked.alike) (Bool.eq_false_iff.mpr hfree)
    exact hb.allLabel.not_mem_failed hinfos hacc h hid hgiven hfailed
  · intro hadopted
    rw [hacc.mem_failed_iff h]
    intro info hgiven
    rw [DeviceClass.given_of_adopted hreliable.keepsSet hadopted] at hgiven
    cases hgiven

/-- Whether the owner that a scan would find for an identifier counts the device as adopted. -/
def StillAdopted (b : Broker Bench DeviceClass Handle) (id : DeviceId) : Prop :=
  ∃ k, lastReporter (Bench.classes.reports b.world b.classes) id = some k ∧
    (b.world.adoptedAt k.place).contains id = true

theorem not_mem_devices_of_blank (hentries : b.entries = ∅) (id : DeviceId) : id ∉ b.devices := by
  rw [not_mem_devices_iff, hentries, SortedMap.get?_empty]

theorem Accounted.of_blank (hentries : b.entries = ∅) (hledger : b.ledger = {}) :
    Accounted b.entries b.ledger := by
  rw [hentries, hledger]
  exact .empty

theorem Accounted.rescan_blank (hacc : Accounted b.entries b.ledger) (hentries : b.entries = ∅) :
    (b.rescan Bench.classes).1.kept = [] ∧ (b.rescan Bench.classes).1.forgot = [] ∧
      ∀ id, id ∈ (b.rescan Bench.classes).2.devices ↔
        id ∈ (b.rescan Bench.classes).1.found := by
  have hr := hacc.reconciled Bench.classes
  have hblank := not_mem_devices_of_blank hentries
  have hkept : (b.rescan Bench.classes).1.kept = [] :=
    List.eq_nil_iff_forall_not_mem.mpr fun id hid => hblank id (hr.kept.mp hid).1
  refine ⟨hkept, ?_, fun id => ?_⟩
  · exact List.eq_nil_iff_forall_not_mem.mpr fun id hid => hblank id (hr.forgot.mp hid).1
  · rw [hr.registered, hkept]
    simp

theorem Accounted.rescan_blank_idle (hacc : Accounted b.entries b.ledger)
    (hentries : b.entries = ∅) :
    (∀ id ∈ (b.rescan Bench.classes).2.devices,
      (b.rescan Bench.classes).2.leaseCount id = .ok 0) ∧
    (b.rescan Bench.classes).2.ledger = b.ledger := by
  obtain ⟨_, hforgot, hregistered⟩ := hacc.rescan_blank hentries
  constructor
  · intro id hid
    exact ((hacc.reconciled Bench.classes).foundIdle id ((hregistered id).mp hid)).1
  · have hledger := congrArg Registry.ledger (hacc.rescan_of_none_forgot hforgot)
    have hwelcomed := (hacc.passed Bench.classes).1.welcomed.ledger
    exact hledger.trans hwelcomed

theorem AllReliable.failed_iff_stillAdopted (hb : b.AllReliable)
    (hacc : Accounted b.entries b.ledger) (hentries : b.entries = ∅) (hinfos : b.infos = ∅)
    (hexpected : b.Expected Bench.classes id) :
    id ∈ (b.rescan Bench.classes).1.failed ↔ b.StillAdopted id := by
  obtain ⟨k, hasks⟩ := asks_of_expected (not_mem_devices_of_blank hentries id) hexpected
  have howner := hasks.owned
  rw [scan_owner] at howner
  rw [hb.mem_failed_iff hacc hinfos hasks, StillAdopted]
  simp [howner]

/-- What a rescan makes of a registry in which nothing is left, when `before` says what the classes
have adopted. -/
structure Rebuilt (before : Broker Bench DeviceClass Handle) (report : RescanReport)
    (after : Broker Bench DeviceClass Handle) : Prop where
  kept : report.kept = []
  forgot : report.forgot = []
  failed : ∀ {id : DeviceId},
    id ∈ report.failed ↔ before.Expected Bench.classes id ∧ before.StillAdopted id
  registered : ∀ {id : DeviceId},
    id ∈ after.devices ↔ before.Expected Bench.classes id ∧ ¬ before.StillAdopted id
  idle : ∀ id ∈ after.devices, after.leaseCount id = .ok 0
  ledger : after.ledger = {}

theorem AllReliable.rebuilt (hb : b.AllReliable) (hentries : b.entries = ∅) (hinfos : b.infos = ∅)
    (hledger : b.ledger = {}) :
    Rebuilt b (b.rescan Bench.classes).1 (b.rescan Bench.classes).2 := by
  have hacc := Accounted.of_blank hentries hledger
  have hr := hacc.reconciled Bench.classes
  obtain ⟨hkept, hforgot, hregistered⟩ := hacc.rescan_blank hentries
  have hfailed : ∀ {id}, b.Expected Bench.classes id →
      (id ∈ (b.rescan Bench.classes).1.failed ↔ b.StillAdopted id) :=
    fun hexpected => hb.failed_iff_stillAdopted hacc hentries hinfos hexpected
  have hdisjoint : (b.rescan Bench.classes).1.found.Disjoint (b.rescan Bench.classes).1.failed :=
    hacc.found_disjoint_failed
  refine ⟨hkept, hforgot, ?_, ?_, ?_, ?_⟩
  · intro id
    constructor
    · intro hid
      have hexpected := (hr.seen.mp (Or.inr hid)).2
      exact ⟨hexpected, (hfailed hexpected).mp hid⟩
    · rintro ⟨hexpected, hadopted⟩
      exact (hfailed hexpected).mpr hadopted
  · intro id
    rw [hregistered]
    constructor
    · intro hid
      have hexpected := (hr.seen.mp (Or.inl hid)).2
      exact ⟨hexpected, fun hadopted => hdisjoint hid ((hfailed hexpected).mpr hadopted)⟩
    · rintro ⟨hexpected, hfree⟩
      have hseen := hr.seen.mpr ⟨not_mem_devices_of_blank hentries id, hexpected⟩
      exact hseen.resolve_right fun hid => hfree ((hfailed hexpected).mp hid)
  · exact (hacc.rescan_blank_idle hentries).1
  · exact (hacc.rescan_blank_idle hentries).2.trans hledger

theorem AllReliable.reset_rebuilt (hb : b.AllReliable) :
    Rebuilt b (b.reset.rescan Bench.classes).1 (b.reset.rescan Bench.classes).2 := by
  obtain ⟨log, hlog⟩ := b.reset_eq
  rw [hlog]
  have hreset : AllReliable { b with entries := ∅, infos := ∅, ledger := {}, log } := hb
  exact { hreset.rebuilt rfl rfl rfl with }

theorem Rebuilt.complete_iff {report : RescanReport} (h : Rebuilt b report c) :
    (∀ id, id ∈ c.devices ↔ b.Expected Bench.classes id) ∧ report.failed = [] ↔
      ∀ id, b.Expected Bench.classes id → ¬ b.StillAdopted id := by
  constructor
  · rintro ⟨hdevices, _⟩ id hexpected
    exact (h.registered.mp ((hdevices id).mpr hexpected)).2
  · intro hfree
    constructor
    · intro id
      rw [h.registered, and_iff_left_iff_imp]
      exact hfree id
    · refine List.eq_nil_iff_forall_not_mem.mpr fun id hid => ?_
      obtain ⟨hexpected, hadopted⟩ := h.failed.mp hid
      exact hfree id hexpected hadopted

theorem Tends.stillAdopted (h : b.Tends k) {e : Entry DeviceClass Handle}
    (he : b.entries.get? id = some e) (hholder : e.holder = k)
    (hlast : lastReporter (Bench.classes.reports b.world b.classes) id = some k) :
    b.StillAdopted id :=
  ⟨k, hlast, h.adopted.agree.mpr ⟨e, he, hholder⟩⟩

end Broker

namespace Pool
variable {p : Pool Bench DeviceClass Handle}

/-- A rescan after a reset finds what is expected and not counted as adopted by its owner, and fails
what is. So it rebuilds the registry only if no expected device is counted as adopted. Yet a class
that nobody but the broker uses counts all that it holds in the registry as adopted. So whatever
was registered when the reset came, and is still permitted and its holder's to give out, is lost. -/
theorem rebuilt_unless_adopted (reliable : p.broker.AllReliable) :
    Broker.Rebuilt p.broker (p.reset.rescan Bench.classes).1
      (p.reset.rescan Bench.classes).2.broker ∧
    (((∀ id, id ∈ (p.reset.rescan Bench.classes).2.broker.devices ↔
        p.broker.Expected Bench.classes id) ∧ (p.reset.rescan Bench.classes).1.failed = []) ↔
      ∀ id, p.broker.Expected Bench.classes id → ¬ p.broker.StillAdopted id) ∧
    (∀ {k : DeviceClass}, k.KeepsSet →
      ReachableUnder Bench.classes (fun w => w.adoptedAt k.place = ∅) k.Admits p →
      ∀ id e, p.broker.entries.get? id = some e → e.holder = k →
        lastReporter (Bench.classes.reports p.broker.world p.broker.classes) id = some k →
        p.broker.access.permits id = true → id ∈ (p.reset.rescan Bench.classes).1.failed) := by
  have hrebuilt := reliable.reset_rebuilt
  rw [rescan_fst, rescan_broker, reset_broker]
  refine ⟨hrebuilt, hrebuilt.complete_iff, ?_⟩
  intro k hk hp id e he hholder hlast permitted
  have hadopted := (hp.tends hk).stillAdopted he hholder hlast
  have hreported : ∃ ids, .ok ids ∈ Bench.classes.scans p.broker.world p.broker.classes ∧
      id ∈ ids := by
    rw [← p.broker.scan_owned Bench.classes, p.broker.scan_owner Bench.classes]
    exact ⟨k, hlast⟩
  exact hrebuilt.failed.mpr ⟨⟨hreported, permitted⟩, hadopted⟩

/-- A pool that has adopted the only device of a class without faults. -/
def settled : Pool Bench DeviceClass Handle :=
  let world := ({} : Bench).setSimulated 0 0 (.ofDevices [{ id := "A" }]) {}
  Pool.run Bench.classes ⟨.start world {}, []⟩ [.register sharedPhones, .rescan]

theorem settled_reachableUnder : ReachableUnder Bench.classes
    (fun w => w.adoptedAt sharedPhones.place = ∅) sharedPhones.Admits settled := by
  have hstart : ReachableUnder Bench.classes (fun w => w.adoptedAt sharedPhones.place = ∅)
      sharedPhones.Admits
      ⟨.start (({} : Bench).setSimulated 0 0 (.ofDevices [{ id := "A" }]) {}) {}, []⟩ :=
    .start {} rfl
  refine hstart.run ?_
  simp [DeviceClass.Admits]

theorem settled_reliable : settled.broker.AllReliable := by
  intro k hk
  obtain rfl : k = sharedPhones := List.mem_singleton.mp hk
  have hkeyed := SimulatedFamily.keyed_ofDevices [{ id := "A" }]
  exact ⟨rfl, hkeyed⟩

theorem rebuilt_unless_adopted_settled :
    Broker.Rebuilt settled.broker (settled.reset.rescan Bench.classes).1
      (settled.reset.rescan Bench.classes).2.broker ∧
    "A" ∈ (settled.reset.rescan Bench.classes).1.failed := by
  obtain ⟨hrebuilt, _, hlost⟩ := rebuilt_unless_adopted settled_reliable
  have hkeeps : sharedPhones.KeepsSet := by
    intro slot hplace
    cases hplace
  exact ⟨hrebuilt, hlost hkeeps settled_reachableUnder "A" _ rfl rfl rfl rfl⟩

/-- A device that is reported and permitted need not be registered after a reset and a rescan. -/
theorem reset_rescan_loses_device :
    Reachable Bench.classes settled ∧ settled.broker.AllReliable ∧
    settled.broker.Expected Bench.classes "A" ∧
    (settled.reset.rescan Bench.classes).2.broker.devices = [] ∧
    (settled.reset.rescan Bench.classes).1.failed = ["A"] := by
  have hexpected : settled.broker.Expected Bench.classes "A" :=
    ⟨⟨["A"], List.mem_singleton.mpr rfl, List.mem_singleton.mpr rfl⟩, rfl⟩
  refine ⟨settled_reachableUnder.reachable, settled_reliable, hexpected, ?_, ?_⟩
  · decide +kernel
  · decide +kernel

end Pool

end LeaseBroker
