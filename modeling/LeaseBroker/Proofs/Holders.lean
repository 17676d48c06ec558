import LeaseBroker.Proofs.Indexes
import LeaseBroker.Proofs.Reports

/-!
# Who holds a device and who owns its identifier

A registered device is held by the class that adopted it: its capacity limits the leases, its
methods are listed, and the device will go back to it. The owner of an identifier is the last class
that reported it in the latest scan. Only the owner of an identifier is ever asked for the device,
and only a scan moves owners. So the two come apart nowhere but in a rescan that keeps a device
whose holder is not the last class to report it any more.
-/

set_option autoImplicit false

namespace LeaseBroker

namespace Broker
variable {W K H : Type} {cls : DeviceClasses W K H} {b c : Broker W K H} {id : DeviceId}

structure Holds (cls : DeviceClasses W K H) (b : Broker W K H) (id : DeviceId) (k : K) : Prop where
  entry : ∃ e, b.entries.get? id = some e ∧ e.holder = k
  limits : b.available cls id = (b.leaseCount id).map (cls.capacity b.world k).admits
  listed : b.methods cls id = .ok (cls.methods k)
  givenBack : ∃ info handle, b.info id = .ok info ∧
    (b.forget cls id).2.world = (cls.abandon k info handle b.world).world

def HeldByOwner (b : Broker W K H) (id : DeviceId) : Prop :=
  ∀ e, b.entries.get? id = some e → b.owners.get? id = some e.holder

theorem Accounted.holds (h : Accounted b.entries b.ledger) (cls : DeviceClasses W K H)
    {e : Entry K H} (he : b.entries.get? id = some e) : b.Holds cls id e.holder where
  entry := ⟨e, he, rfl⟩
  limits := by
    simp only [available, leaseCount, Broker.entry, he, Except.map]
    rfl
  listed := by simp only [methods, Broker.entry, he, Except.map]
  givenBack := by
    obtain ⟨released, hr⟩ := h.releaseTimes_ok he (Nat.le_refl _)
    have hworld := b.releaseTimes_world id e.leases
    rw [hr] at hworld
    refine ⟨e.info, e.handle, by simp only [info, Broker.entry, he, Except.map], ?_⟩
    rw [forget_of_released he hr, abandon_world, ← hworld]
    rfl

theorem Deeds.holder (h : Deeds cls b c) : c.entries.All fun i e =>
    (∃ before, b.entries.get? i = some before ∧ before.holder = e.holder) ∨
      c.owners.get? i = some e.holder := by
  induction h with
  | refl => exact fun i e he => Or.inl ⟨e, he, rfl⟩
  | tail _ hd ih =>
    cases hd with
    | lease acquirer started registered free =>
      have hheld := ih _ _ registered
      exact SortedMap.All.insert ih hheld
    | endLease registered busy popped =>
      have hheld := ih _ _ registered
      exact SortedMap.All.insert ih hheld
    | adopt adoptable given unknown => exact SortedMap.All.insert ih (Or.inr adoptable.owned)
    | forget registered idle =>
      rw [abandon_toRegistry]
      exact SortedMap.All.erase ih _
    | reject =>
      rw [abandon_toRegistry]
      exact ih
    | popInVain | decline | access | note | clock => exact ih

theorem HeldByOwner.deeds (hb : b.HeldByOwner id) (h : Deeds cls b c) : c.HeldByOwner id := by
  intro e he
  rcases h.holder id e he with ⟨before, hbefore, hholder⟩ | howner
  · rw [h.owners, ← hholder]
    exact hb before hbefore
  · exact howner

theorem rescan_owner (cls : DeviceClasses W K H) (b : Broker W K H) (id : DeviceId) :
    (b.rescan cls).2.owners.get? id = lastReporter (cls.reports b.world b.classes) id := by
  rw [rescan_owners, scan_owner]

namespace Accounted
variable (h : Accounted b.entries b.ledger) {e : Entry K H}
include h

theorem owner_of_found (hid : id ∈ (b.rescan cls).1.found)
    (he : (b.rescan cls).2.entries.get? id = some e) :
    (b.rescan cls).2.owners.get? id = some e.holder := by
  have hr := h.reconciled cls
  rcases (b.rescan_deeds cls).holder id e he with ⟨before, hbefore, _⟩ | howner
  · -- What is found was not registered when the rescan began.
    have hentries : (b.scan cls).entries = b.entries := by rw [scan_toRegistry]
    rw [hentries] at hbefore
    exact absurd (mem_devices_iff.mpr ⟨before, hbefore⟩) (hr.seen.mp (Or.inl hid)).1
  · exact howner

theorem kept_of_not_found (hid : id ∉ (b.rescan cls).1.found)
    (he : (b.rescan cls).2.entries.get? id = some e) :
    b.entries.get? id = some e ∧ b.Expected cls id := by
  have hr := h.reconciled cls
  have hkept := (hr.registered.mp (mem_devices_iff.mpr ⟨e, he⟩)).resolve_left hid
  exact ⟨(hr.keptEntry id hkept).symm.trans he, (hr.kept.mp hkept).2⟩

theorem rescan_heldByOwner (undisputed : ∀ e, b.entries.get? id = some e → b.Expected cls id →
    lastReporter (cls.reports b.world b.classes) id = some e.holder) :
    (b.rescan cls).2.HeldByOwner id := by
  intro e he
  by_cases hfound : id ∈ (b.rescan cls).1.found
  · exact h.owner_of_found hfound he
  · obtain ⟨hbefore, hexpected⟩ := h.kept_of_not_found hfound he
    rw [rescan_owner]
    exact undisputed e hbefore hexpected

end Accounted

end Broker

namespace Pool
variable {W K H : Type} {cls : DeviceClasses W K H} {p : Pool W K H} {id : DeviceId}

/-- Whether no rescan of a run that keeps a device has another class than its holder as the last
one to report it. -/
def Undisputed (cls : DeviceClasses W K H) (id : DeviceId) (p : Pool W K H) :
    List (Action W K) → Prop
  | [] => True
  | action :: rest =>
    (action = .rescan → ∀ e, p.broker.entries.get? id = some e → p.broker.Expected cls id →
      lastReporter (cls.reports p.broker.world p.broker.classes) id = some e.holder) ∧
    (p.step cls action).2.Undisputed cls id rest

theorem step_heldByOwner (hp : Reachable cls p) {action : Action W K}
    (undisputed : action = .rescan → ∀ e, p.broker.entries.get? id = some e →
      p.broker.Expected cls id →
        lastReporter (cls.reports p.broker.world p.broker.classes) id = some e.holder)
    (h : p.broker.HeldByOwner id) : (p.step cls action).2.broker.HeldByOwner id := by
  have heffect := step_effect cls p action
  generalize (p.step cls action).2.broker = c at heffect
  cases heffect with
  | register | world => exact h
  | rescan => exact hp.accounted.rescan_heldByOwner (undisputed rfl)
  | reset => exact nofun
  | deeds deeds => exact h.deeds deeds

theorem run_heldByOwner (hp : Reachable cls p) {actions : List (Action W K)}
    (undisputed : p.Undisputed cls id actions) (h : p.broker.HeldByOwner id) :
    (p.run cls actions).broker.HeldByOwner id := by
  induction actions generalizing p with
  | nil => exact h
  | cons action rest ih =>
    obtain ⟨hfirst, hrest⟩ := undisputed
    exact ih (hp.step action) hrest (step_heldByOwner hp hfirst h)

/-- After a rescan the owner of an identifier is the last class that reports it. What the rescan
has found is held by its owner, and what it has kept is held by the class that held it before,
whoever owns it now. In a run the holder of a device and the owner of its identifier stay the same
unless a rescan keeps the device while its holder is not the last class to report it. -/
theorem holder_owns_unless_kept (hp : Reachable cls p) :
    (∀ id, (p.rescan cls).2.broker.owners.get? id =
      lastReporter (cls.reports p.broker.world p.broker.classes) id) ∧
    (∀ id ∈ (p.rescan cls).2.broker.devices, ∃ k, (p.rescan cls).2.broker.Holds cls id k ∧
      (id ∈ (p.rescan cls).1.found → (p.rescan cls).2.broker.owners.get? id = some k) ∧
      (id ∉ (p.rescan cls).1.found → p.broker.Holds cls id k)) ∧
    (∀ id actions, p.Undisputed cls id actions → p.broker.HeldByOwner id →
      (p.run cls actions).broker.HeldByOwner id) := by
  refine ⟨p.broker.rescan_owner cls, ?_, fun _ _ => run_heldByOwner hp⟩
  intro id hid
  obtain ⟨e, he⟩ := Broker.mem_devices_iff.mp hid
  refine ⟨e.holder, (hp.step .rescan).accounted.holds cls he, ?_, ?_⟩
  · exact fun hfound => hp.accounted.owner_of_found hfound he
  · intro hfound
    obtain ⟨hbefore, _⟩ := hp.accounted.kept_of_not_found hfound he
    exact hp.accounted.holds cls hbefore

def firstPhones : DeviceClass := ⟨"first", .limited 1, .simulated 0 0⟩

def secondPhones : DeviceClass := ⟨"second", .limited 2, .simulated 1 1⟩

/-- A pool that has adopted `X` from one class when another one that reports `X` and `Y` is made
known. -/
def contested : Pool Bench DeviceClass Handle :=
  let world := (({} : Bench).setSimulated 0 0 (.ofDevices [{ id := "X" }]) {}).setSimulated 1 1
    (.ofDevices [{ id := "X" }, { id := "Y" }]) {}
  Pool.run Bench.classes ⟨.start world {}, []⟩
    [.register firstPhones, .rescan, .register secondPhones]

theorem contested_reachable : Reachable Bench.classes contested :=
  (Reachable.start _ _).run _

theorem holder_owns_unless_kept_contested :
    (contested.rescan Bench.classes).1.found = ["Y"] ∧
    (contested.rescan Bench.classes).1.kept = ["X"] ∧
    (contested.rescan Bench.classes).2.broker.HeldByOwner "Y" ∧
    (∃ k, (contested.rescan Bench.classes).2.broker.Holds Bench.classes "X" k ∧
      contested.broker.Holds Bench.classes "X" k) := by
  have hfound : (contested.rescan Bench.classes).1.found = ["Y"] := by decide +kernel
  have hkept : (contested.rescan Bench.classes).1.kept = ["X"] := by decide +kernel
  have hdevices : (contested.rescan Bench.classes).2.broker.devices = ["X", "Y"] := by
    decide +kernel
  obtain ⟨_, hpass, hrun⟩ := holder_owns_unless_kept contested_reachable
  refine ⟨hfound, hkept, ?_, ?_⟩
  · -- `Y` is new to the pool, so no pass has kept it.
    have hnew : contested.broker.entries.get? "Y" = none := by decide +kernel
    refine hrun "Y" [.rescan] ⟨fun _ e he => ?_, trivial⟩ fun e he => ?_ <;>
      · rw [hnew] at he
        cases he
  · obtain ⟨k, hafter, _, hbefore⟩ := hpass "X" (by rw [hdevices]; decide)
    exact ⟨k, hafter, hbefore (by rw [hfound]; decide)⟩

/-- A rescan can leave a device with a class that does not own its identifier any more. -/
theorem kept_not_held_by_owner :
    Reachable Bench.classes contested ∧
    (contested.rescan Bench.classes).2.broker.Holds Bench.classes "X" firstPhones ∧
    (contested.rescan Bench.classes).2.broker.owners.get? "X" = some secondPhones ∧
    firstPhones ≠ secondPhones := by
  have hentry : (contested.rescan Bench.classes).2.broker.entries.get? "X" =
      some ⟨.simulated "X", { id := "X" }, firstPhones, 0⟩ := rfl
  have hafter := (contested_reachable.step .rescan).accounted
  refine ⟨contested_reachable, hafter.holds Bench.classes hentry, rfl, ?_⟩
  intro hsame
  have hname : firstPhones.name = secondPhones.name := congrArg DeviceClass.name hsame
  exact absurd hname (by decide)

end Pool

end LeaseBroker
