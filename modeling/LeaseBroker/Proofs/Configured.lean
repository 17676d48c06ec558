import LeaseBroker.Proofs.Filtering
import LeaseBroker.Proofs.Rebuilding
import LeaseBroker.Settings.Build
import Mathlib.Data.List.Forall2
import Mathlib.Data.List.Sort

/-!
# From settings to a pool

Settings list the devices of every simulated class, and one rescan of the broker that they describe
registers them. Within a class the last listing of an identifier counts, among classes the last one
that lists it, and the access lists have the last word. No listing is so odd that a device would
not be found.
-/

set_option autoImplicit false

namespace LeaseBroker

/-! ### Listings -/

namespace SimulatedSettings

def listing (m : SimulatedSettings) (id : DeviceId) : Option DeviceInfo :=
  m.devices.reverse.find? (·.id == id)

def lastLister (simulated : List SimulatedSettings) (id : DeviceId) : Option SimulatedSettings :=
  simulated.reverse.find? fun m => (m.listing id).isSome

theorem listing_isSome_iff {m : SimulatedSettings} {id : DeviceId} :
    (m.listing id).isSome = true ↔ ∃ info ∈ m.devices, info.id = id := by
  simp [listing]

theorem of_lastLister {simulated : List SimulatedSettings} {id : DeviceId} {m : SimulatedSettings}
    (h : lastLister simulated id = some m) : m ∈ simulated ∧ (m.listing id).isSome = true := by
  unfold lastLister at h
  exact ⟨List.mem_reverse.mp (List.mem_of_find?_eq_some h),
    List.find?_some (p := fun m : SimulatedSettings => (m.listing id).isSome) h⟩

end SimulatedSettings

namespace SimulatedFamily

theorem ofDevices_spec (devices : List DeviceInfo) (id : DeviceId) :
    (ofDevices devices).catalogue.get? id = devices.reverse.find? (·.id == id) ∧
    ((ofDevices devices).present.contains id = true ↔ ∃ info ∈ devices, info.id = id) ∧
    (ofDevices devices).adopted = ∅ := by
  -- The induction takes the last device off, since it decides before all others.
  induction devices using List.reverseRecOn with
  | nil => simp [ofDevices, SortedMap.contains]
  | append_singleton devices last ih =>
    obtain ⟨hcatalogue, hpresent, hadopted⟩ := ih
    have hplug : ofDevices (devices ++ [last]) = (ofDevices devices).plug last := by
      rw [ofDevices, List.foldl_append]
      rfl
    rw [hplug]
    refine ⟨?_, ?_, hadopted⟩
    · rw [List.reverse_append, List.reverse_singleton, List.singleton_append, List.find?_cons,
        ← hcatalogue]
      change ((ofDevices devices).catalogue.insert last.id last).get? id = _
      rw [SortedMap.get?_insert]
      by_cases hid : id = last.id
      · simp [hid]
      · have hne : (last.id == id) = false := by simpa using Ne.symm hid
        rw [if_neg hid, hne]
    · change ((ofDevices devices).present.add last.id).contains id = true ↔ _
      rw [SortedSet.contains_add, hpresent]
      simp [or_and_right, exists_or, or_comm, eq_comm]

end SimulatedFamily

/-! ### Classes and their settings -/

/-- Whether a class is what some settings describe: it has their name and capacity, what they list
is plugged in with the infos that they list last, and nothing makes it fail. -/
structure Describes (w : Bench) (slot : Nat) (k : DeviceClass) (m : SimulatedSettings) : Prop where
  name : k.name = m.name
  capacity : k.capacity = m.capacity
  family : k.family = .simulated slot slot
  catalogue : (w.simulatedAt slot).catalogue = (SimulatedFamily.ofDevices m.devices).catalogue
  present : (w.simulatedAt slot).present = (SimulatedFamily.ofDevices m.devices).present
  scenarios : (w.planAt slot).scenarios = []

namespace Describes
variable {w w' : Bench} {slot : Nat} {k : DeviceClass} {m : SimulatedSettings} {id : DeviceId}

theorem alike (h : Describes w slot k m) (halike : Bench.Alike w w') : Describes w' slot k m where
  name := h.name
  capacity := h.capacity
  family := h.family
  catalogue := (halike.catalogue slot).trans h.catalogue
  present := (halike.present slot).trans h.present
  scenarios := (halike.scenarios slot).trans h.scenarios

theorem reliable (h : Describes w slot k m) : k.Reliable w := by
  unfold DeviceClass.Reliable
  rw [h.family]
  refine ⟨h.scenarios, ?_⟩
  rw [SimulatedFamily.Keyed, h.catalogue]
  exact SimulatedFamily.keyed_ofDevices m.devices

theorem mem_report_iff (h : Describes w slot k m) :
    id ∈ (Bench.rescan k w).answer.toOption.getD [] ↔ (m.listing id).isSome = true := by
  have hanswer : (Bench.rescan k w).answer = .ok (w.simulatedAt slot).present.members := by
    simp only [Bench.rescan, h.family]
    exact SimulatedFamily.rescan_of_no_scenarios h.scenarios
  rw [hanswer, SimulatedSettings.listing_isSome_iff,
    ← (SimulatedFamily.ofDevices_spec m.devices id).2.1, ← h.present]
  exact SortedMap.mem_keys_iff.trans SortedMap.contains_eq_true_iff.symm

theorem given_eq (h : Describes w slot k m) {info given : DeviceInfo}
    (hlisting : m.listing id = some info) (hgiven : Bench.classes.given k id w = some given) :
    given = info := by
  have hinfo : (w.simulatedAt slot).infoOf id = info := by
    rw [SimulatedFamily.infoOf, h.catalogue, (SimulatedFamily.ofDevices_spec m.devices id).1]
    change (m.listing id).getD _ = info
    rw [hlisting, Option.getD_some]
  obtain ⟨name, capacity, family⟩ := k
  obtain rfl : family = .simulated slot slot := h.family
  rcases (w.simulatedAt slot).adopt_cases (w.planAt slot) name id with
    ⟨_, _, _, hr⟩ | ⟨_, _, _, hr⟩
  · simp [DeviceClasses.given, Bench.classes, Bench.adopt, hr, Except.toOption] at hgiven
  · simp [DeviceClasses.given, Bench.classes, Bench.adopt, hr, Except.toOption] at hgiven
    rw [← hgiven, hinfo]

end Describes

/-- Whether a class that has a slot below a number is what some settings describe, and has adopted
nothing yet. -/
def Equipped (w : Bench) (bound : Nat) (k : DeviceClass) (m : SimulatedSettings) : Prop :=
  ∃ slot < bound, Describes w slot k m ∧ (w.simulatedAt slot).adopted = ∅

namespace Settings

/-- The class that is put on a bench next is what its settings describe, and those before it stay
what they are. -/
theorem equipped_next {w : Bench} {slot : Nat} {ks : List DeviceClass}
    {done : List SimulatedSettings} (h : List.Forall₂ (Equipped w slot) ks done)
    (m : SimulatedSettings) :
    List.Forall₂ (Equipped (equip w slot (.simulated m)) (slot + 1))
      (ks ++ [deviceClass slot (.simulated m)]) (done ++ [m]) := by
  have hsimulated : ∀ other, (equip w slot (.simulated m)).simulatedAt other =
      if other = slot then .ofDevices m.devices else w.simulatedAt other :=
    fun other => Bench.simulatedAt_setSimulated w slot slot other _ _
  have hplan : ∀ other, (equip w slot (.simulated m)).planAt other =
      if other = slot then {} else w.planAt other :=
    fun other => Bench.planAt_setSimulated w slot slot other _ _
  have hnew : Equipped (equip w slot (.simulated m)) (slot + 1)
      (deviceClass slot (.simulated m)) m := by
    refine ⟨slot, Nat.lt_succ_self slot, ?_, ?_⟩
    · constructor
      · rfl
      · rfl
      · rfl
      · rw [hsimulated, if_pos rfl]
      · rw [hsimulated, if_pos rfl]
      · rw [hplan, if_pos rfl]
    · rw [hsimulated, if_pos rfl]
      exact (SimulatedFamily.ofDevices_spec m.devices "").2.2
  have hold : ∀ k n, Equipped w slot k n →
      Equipped (equip w slot (.simulated m)) (slot + 1) k n := by
    rintro k n ⟨other, hlt, hd, hadopted⟩
    have hne : other ≠ slot := Nat.ne_of_lt hlt
    refine ⟨other, Nat.lt_succ_of_lt hlt, ?_, ?_⟩
    · constructor
      · exact hd.name
      · exact hd.capacity
      · exact hd.family
      · rw [hsimulated, if_neg hne, hd.catalogue]
      · rw [hsimulated, if_neg hne, hd.present]
      · rw [hplan, if_neg hne, hd.scenarios]
    · rw [hsimulated, if_neg hne, hadopted]
  exact List.rel_append (h.imp hold) (.cons hnew .nil)

theorem registerFrom_equipped (slot : Nat) (b : Broker Bench DeviceClass Handle)
    {done : List SimulatedSettings} (h : List.Forall₂ (Equipped b.world slot) b.classes done)
    (rest : List SimulatedSettings) :
    ∃ bound, List.Forall₂ (Equipped (registerFrom slot b (rest.map .simulated)).world bound)
      (registerFrom slot b (rest.map .simulated)).classes (done ++ rest) := by
  induction rest generalizing slot b done with
  | nil =>
    rw [List.append_nil]
    exact ⟨slot, h⟩
  | cons m rest ih =>
    have hnext := ih (slot + 1) ({ b with world := equip b.world slot (.simulated m) }.register
      Bench.classes (deviceClass slot (.simulated m))) (equipped_next h m)
    rwa [List.append_assoc] at hnext

theorem registerFrom_toRegistry (slot : Nat) (b : Broker Bench DeviceClass Handle)
    (cs : List ClassSettings) : (registerFrom slot b cs).toRegistry =
      { b.toRegistry with classes := (registerFrom slot b cs).classes } := by
  induction cs generalizing slot b with
  | nil => rfl
  | cons c rest ih =>
    have hrest := ih (slot + 1)
      ({ b with world := equip b.world slot c }.register Bench.classes (deviceClass slot c))
    exact hrest

end Settings

/-! ### Reports and listings -/

section Last
variable {α β : Type} {R : α → β → Prop} {f : α → Bool} {g : β → Bool}

theorem exists_of_mem_forall₂ {xs : List α} {ys : List β} (h : List.Forall₂ R xs ys) {x : α}
    (hx : x ∈ xs) : ∃ y ∈ ys, R x y := by
  induction h with
  | nil => cases hx
  | @cons x' y xs ys hxy _ ih =>
    rcases List.mem_cons.mp hx with rfl | hrest
    · exact ⟨y, List.mem_cons_self, hxy⟩
    · obtain ⟨y', hy', hxy'⟩ := ih hrest
      exact ⟨y', List.mem_cons_of_mem y hy', hxy'⟩

theorem find?_of_forall₂ {xs : List α} {ys : List β} (h : List.Forall₂ R xs ys)
    (hfg : ∀ x y, R x y → f x = g y) : Option.Rel R (xs.find? f) (ys.find? g) := by
  induction h with
  | nil => exact .none
  | @cons x y xs ys hxy _ ih =>
    rw [List.find?_cons, List.find?_cons, hfg x y hxy]
    cases g y with
    | true => exact .some hxy
    | false => exact ih

end Last

def ReportOf (w : Bench) (report : DeviceClass × List DeviceId) (m : SimulatedSettings) : Prop :=
  (∃ slot, Describes w slot report.1 m ∧ (w.simulatedAt slot).adopted = ∅) ∧
    ∀ id, id ∈ report.2 ↔ (m.listing id).isSome = true

theorem reports_of_equipped {w w' : Bench} (halike : Bench.Alike w w') {bound : Nat}
    {ks : List DeviceClass} {simulated : List SimulatedSettings}
    (h : List.Forall₂ (Equipped w bound) ks simulated) :
    List.Forall₂ (ReportOf w) (Bench.classes.reports w' ks) simulated := by
  induction h generalizing w' with
  | nil => exact .nil
  | @cons k m ks simulated hk _ ih =>
    obtain ⟨slot, _, hd, hadopted⟩ := hk
    refine .cons ⟨⟨slot, hd, hadopted⟩, fun id => ?_⟩ ?_
    · exact (hd.alike halike).mem_report_iff
    · exact ih (halike.trans (Bench.rescan_alike k w'))

theorem lastReporter_of_equipped {w : Bench} {bound : Nat} {ks : List DeviceClass}
    {simulated : List SimulatedSettings} (h : List.Forall₂ (Equipped w bound) ks simulated)
    (id : DeviceId) :
    Option.Rel (fun k m => ∃ slot, Describes w slot k m ∧ (w.simulatedAt slot).adopted = ∅)
      (lastReporter (Bench.classes.reports w ks) id)
      (SimulatedSettings.lastLister simulated id) := by
  have hreports := List.rel_reverse (reports_of_equipped (.refl w) h)
  have hlast := find?_of_forall₂ (f := fun report => report.2.contains id)
    (g := fun m => (m.listing id).isSome) hreports fun report m hm => by
      rw [Bool.eq_iff_iff, List.contains_iff_mem]
      exact hm.2 id
  unfold lastReporter SimulatedSettings.lastLister
  generalize List.find? _ (Bench.classes.reports w ks).reverse = last at hlast ⊢
  generalize List.find? _ simulated.reverse = lister at hlast ⊢
  cases hlast with
  | none => exact .none
  | some hm => exact .some hm.1

/-! ### The access lists of settings -/

theorem AccessLists.permits_ofMembers {allow deny : List DeviceId} {id : DeviceId} :
    (AccessLists.ofMembers allow deny).permits id = true ↔
      id ∉ deny ∧ (allow = [] ∨ id ∈ allow) := by
  have hallow : ∀ i, i ∈ (ofMembers allow deny).members .allow ↔ i ∈ allow :=
    fun i => SortedSet.mem_members_ofList
  have hdeny : id ∈ (ofMembers allow deny).members .deny ↔ id ∈ deny :=
    SortedSet.mem_members_ofList
  have hnil : (ofMembers allow deny).members .allow = [] ↔ allow = [] := by
    simp only [List.eq_nil_iff_forall_not_mem, hallow]
  rw [AccessLists.permits_iff, hdeny, hnil, hallow]

/-! ### The first rescan -/

/-- What is there after the first rescan of the broker that settings with simulated classes only
describe. -/
structure Configured (s : Settings) (simulated : List SimulatedSettings) (report : RescanReport)
    (after : Broker Bench DeviceClass Handle) : Prop where
  names : after.classNames Bench.classes = simulated.map (·.name)
  registered : ∀ {id : DeviceId}, id ∈ after.devices ↔
    (∃ m ∈ simulated, ∃ info ∈ m.devices, info.id = id) ∧
      id ∉ s.broker.deny ∧ (s.broker.allow = [] ∨ id ∈ s.broker.allow)
  described : ∀ id ∈ after.devices, ∃ m info e,
    SimulatedSettings.lastLister simulated id = some m ∧ m.listing id = some info ∧
    after.entry id = .ok e ∧ e.holder.name = m.name ∧
    Bench.classes.capacity after.world e.holder = m.capacity ∧
    after.info id = .ok info ∧
    after.available Bench.classes id = .ok (m.capacity.admits 0) ∧
    after.leaseCount id = .ok 0
  ledger : after.ledger = {}
  found : report.found = after.devices
  ascending : report.found.Pairwise (· < ·)
  kept : report.kept = []
  forgot : report.forgot = []
  failed : report.failed = []

namespace Broker
variable {b : Broker Bench DeviceClass Handle} {bound : Nat} {simulated : List SimulatedSettings}
  {id : DeviceId}

section Equipped
variable (h : List.Forall₂ (Equipped b.world bound) b.classes simulated)
include h

theorem allReliable_of_equipped : b.AllReliable := by
  intro k hk
  obtain ⟨m, _, slot, _, hd, _⟩ := exists_of_mem_forall₂ h hk
  exact hd.reliable

theorem classNames_of_equipped : b.classNames Bench.classes = simulated.map (·.name) := by
  unfold classNames
  generalize b.classes = ks at h
  induction h with
  | nil => rfl
  | cons hk _ ih =>
    obtain ⟨slot, _, hd, _⟩ := hk
    rw [List.map_cons, List.map_cons, ih]
    exact congrArg (· :: _) hd.name

theorem describes_of_owner {k : DeviceClass}
    (howner : (b.scan Bench.classes).owners.get? id = some k) :
    ∃ m slot, SimulatedSettings.lastLister simulated id = some m ∧ Describes b.world slot k m ∧
      (b.world.simulatedAt slot).adopted = ∅ := by
  have hlast := lastReporter_of_equipped h id
  rw [← scan_owner, howner] at hlast
  generalize SimulatedSettings.lastLister simulated id = lister at hlast ⊢
  cases hlast with
  | some hm =>
    obtain ⟨slot, hd, hadopted⟩ := hm
    exact ⟨_, slot, rfl, hd, hadopted⟩

theorem not_stillAdopted : ¬ b.StillAdopted id := by
  rintro ⟨k, hlast, hadopted⟩
  rw [← scan_owner] at hlast
  obtain ⟨m, slot, _, hd, hnone⟩ := describes_of_owner h hlast
  have hplace : k.place = .simulated slot := by rw [DeviceClass.place, hd.family]
  rw [hplace] at hadopted
  change (b.world.simulatedAt slot).adopted.contains id = true at hadopted
  rw [hnone] at hadopted
  cases hadopted

theorem reported_iff_listed : (∃ ids, .ok ids ∈ Bench.classes.scans b.world b.classes ∧ id ∈ ids) ↔
    ∃ m ∈ simulated, ∃ info ∈ m.devices, info.id = id := by
  rw [← scan_owned]
  constructor
  · rintro ⟨k, hk⟩
    obtain ⟨m, _, hlister, _⟩ := describes_of_owner h hk
    obtain ⟨hm, hlists⟩ := SimulatedSettings.of_lastLister hlister
    exact ⟨m, hm, SimulatedSettings.listing_isSome_iff.mp hlists⟩
  · rintro ⟨m, hm, hlisted⟩
    have hlast := lastReporter_of_equipped h id
    rw [← scan_owner] at hlast
    cases howner : (b.scan Bench.classes).owners.get? id with
    | some k => exact ⟨k, rfl⟩
    | none =>
      rw [howner] at hlast
      have hnone : SimulatedSettings.lastLister simulated id = none := by
        generalize SimulatedSettings.lastLister simulated id = lister at hlast ⊢
        cases hlast
        rfl
      have hunlisted := List.find?_eq_none.mp hnone m (List.mem_reverse.mpr hm)
      exact absurd (SimulatedSettings.listing_isSome_iff.mpr hlisted) hunlisted

theorem described_of_found (hentries : b.entries = ∅) (hinfos : b.infos = ∅)
    (hledger : b.ledger = {}) (hfound : id ∈ (b.rescan Bench.classes).1.found) :
    ∃ m slot handle info, SimulatedSettings.lastLister simulated id = some m ∧
      m.listing id = some info ∧
      (b.rescan Bench.classes).2.entries.get? id = some
        { handle, info, holder := ⟨m.name, m.capacity, .simulated slot slot⟩ } := by
  have hacc := Accounted.of_blank hentries hledger
  have hexpected := ((hacc.reconciled Bench.classes).seen.mp (Or.inl hfound)).2
  obtain ⟨k, hasks⟩ := asks_of_expected (not_mem_devices_of_blank hentries id) hexpected
  obtain ⟨m, slot, hlister, hd, _⟩ := describes_of_owner h hasks.owned
  obtain ⟨_, hlists⟩ := SimulatedSettings.of_lastLister hlister
  obtain ⟨listing, hlisting⟩ := Option.isSome_iff_exists.mp hlists
  obtain ⟨handle, info, hgiven, hentry⟩ := hacc.found_entry hasks hfound
  -- When the rescan comes to the device, the class still is what its settings describe.
  have hreached := (allReliable_of_equipped h).allLabel.undisturbed hinfos id
  have hinfo : info = listing := (hd.alike hreached.alike).given_eq hlisting hgiven
  have hclass : k = ⟨m.name, m.capacity, .simulated slot slot⟩ := by
    cases k
    simp only [DeviceClass.mk.injEq]
    exact ⟨hd.name, hd.capacity, hd.family⟩
  refine ⟨m, slot, handle, listing, hlister, hlisting, ?_⟩
  rw [hentry, hinfo, hclass]

end Equipped

end Broker

namespace Settings

theorem build_blank (s : Settings) (directories : SortedMap String LinkDirectory) :
    (s.build directories).entries = ∅ ∧ (s.build directories).infos = ∅ ∧
    (s.build directories).ledger = {} ∧
    (s.build directories).access = .ofMembers s.broker.allow s.broker.deny := by
  have hregistry := registerFrom_toRegistry 0
    (.start { directories } (.ofMembers s.broker.allow s.broker.deny)) s.classes
  refine ⟨?_, ?_, ?_, ?_⟩
  · have hentries := congrArg Registry.entries hregistry
    exact hentries
  · have hinfos := congrArg Registry.infos hregistry
    exact hinfos
  · have hledger := congrArg Registry.ledger hregistry
    exact hledger
  · have haccess := congrArg Registry.access hregistry
    exact haccess

theorem build_spec {s : Settings} {simulated : List SimulatedSettings}
    (h : s.classes = simulated.map .simulated) (directories : SortedMap String LinkDirectory) :
    (s.build directories).entries = ∅ ∧ (s.build directories).infos = ∅ ∧
    (s.build directories).ledger = {} ∧
    (s.build directories).access = .ofMembers s.broker.allow s.broker.deny ∧
    ∃ bound, List.Forall₂ (Equipped (s.build directories).world bound)
      (s.build directories).classes simulated := by
  obtain ⟨hentries, hinfos, hledger, haccess⟩ := build_blank s directories
  have hequipped := registerFrom_equipped 0
    (.start { directories } (.ofMembers s.broker.allow s.broker.deny)) .nil simulated
  rw [← h, List.nil_append] at hequipped
  exact ⟨hentries, hinfos, hledger, haccess, hequipped⟩

/-- The broker that settings describe knows all their classes. If these are all simulated, its first
rescan registers what they list and the lists permit, each device as the last class that lists it
says last, finds all of it and fails nowhere. -/
theorem configured_pool {s : Settings} {simulated : List SimulatedSettings}
    (h : s.classes = simulated.map .simulated) (directories : SortedMap String LinkDirectory) :
    Configured s simulated ((s.build directories).rescan Bench.classes).1
      ((s.build directories).rescan Bench.classes).2 := by
  obtain ⟨hentries, hinfos, hledger, haccess, bound, hequipped⟩ := build_spec h directories
  generalize s.build directories = b at *
  have hacc := Broker.Accounted.of_blank hentries hledger
  have hr := hacc.reconciled Bench.classes
  have hrebuilt := (Broker.allReliable_of_equipped hequipped).rebuilt hentries hinfos hledger
  obtain ⟨_, _, hfound⟩ := hacc.rescan_blank hentries
  have hascending : (b.rescan Bench.classes).1.found.Pairwise (· < ·) := hr.ascending _ (by simp)
  have hfree : ∀ id, ¬ b.StillAdopted id := fun id => Broker.not_stillAdopted hequipped
  constructor
  · rw [← Broker.classNames_of_equipped hequipped, Broker.classNames, b.rescan_classes]
    rfl
  · intro id
    rw [hrebuilt.registered, and_iff_left (hfree id), Broker.Expected,
      Broker.reported_iff_listed hequipped, haccess, AccessLists.permits_ofMembers]
  · intro id hid
    obtain ⟨m, slot, handle, info, hlister, hlisting, hentry⟩ :=
      Broker.described_of_found hequipped hentries hinfos hledger ((hfound id).mp hid)
    have he : (b.rescan Bench.classes).2.entry id = .ok
        { handle, info, holder := ⟨m.name, m.capacity, .simulated slot slot⟩ } := by
      simp only [Broker.entry, hentry]
    refine ⟨m, info, _, hlister, hlisting, he, rfl, rfl, ?_, ?_, ?_⟩
    · rw [Broker.info, he]
      rfl
    · rw [Broker.available, he]
      rfl
    · rw [Broker.leaseCount, he]
      rfl
  · exact hrebuilt.ledger
  · exact hascending.eq_of_mem_iff (SortedMap.keys_lt _) fun {id} => (hfound id).symm
  · exact hascending
  · exact hrebuilt.kept
  · exact hrebuilt.forgot
  · refine List.eq_nil_iff_forall_not_mem.mpr fun id hid => ?_
    exact hfree id (hrebuilt.failed.mp hid).2

/-- Two classes, the first of which lists a device twice, while the second, which takes no leases,
lists another one again. -/
def overlapping : List SimulatedSettings :=
  [{ name := "phones", capacity := .limited 2,
     devices := [{ id := "A", kind := "old" }, { id := "B" }, { id := "A", kind := "new" }] },
   { name := "tablets", capacity := .limited 0,
     devices := [{ id := "C" }, { id := "B", kind := "tablet" }] }]

def overlappingSettings : Settings :=
  { broker := { deny := ["C"] }, classes := overlapping.map .simulated }

theorem configured_pool_overlapping :
    Configured overlappingSettings overlapping
      ((overlappingSettings.build ∅).rescan Bench.classes).1
      ((overlappingSettings.build ∅).rescan Bench.classes).2 ∧
    ((overlappingSettings.build ∅).rescan Bench.classes).1.found = ["A", "B"] ∧
    ((overlappingSettings.build ∅).rescan Bench.classes).2.info "A" =
      .ok { id := "A", kind := "new" } ∧
    ((overlappingSettings.build ∅).rescan Bench.classes).2.info "B" =
      .ok { id := "B", kind := "tablet" } ∧
    ((overlappingSettings.build ∅).rescan Bench.classes).2.available Bench.classes "B" =
      .ok false := by
  refine ⟨configured_pool rfl ∅, ?_, ?_, ?_, ?_⟩
  · decide +kernel
  · decide +kernel
  · decide +kernel
  · decide +kernel

end Settings

end LeaseBroker
