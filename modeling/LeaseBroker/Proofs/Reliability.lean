import LeaseBroker.Proofs.Adoptions
import LeaseBroker.Proofs.Asking

/-!
# Families without faults

A simulated class whose plan has no scenarios and a serial class whose links all lead somewhere give
out every device that they see, each under its own identifier, unless they have already adopted it.
Whatever the classes are asked, the devices stay plugged in and the plans and links stay as they
are, so this does not change while a broker talks to them.
-/

set_option autoImplicit false

namespace LeaseBroker

namespace SimulatedFamily
variable {s : SimulatedFamily}

/-- Whether the catalogue has every info under its own identifier. -/
def Keyed (s : SimulatedFamily) : Prop := s.catalogue.All fun id info => info.id = id

theorem keyed_empty : Keyed {} := SortedMap.All.empty

theorem Keyed.plug (h : s.Keyed) (info : DeviceInfo) : (s.plug info).Keyed :=
  SortedMap.All.insert h rfl

theorem keyed_ofDevices (devices : List DeviceInfo) : (ofDevices devices).Keyed := by
  have hplug : ∀ (devices : List DeviceInfo) (s : SimulatedFamily), s.Keyed →
      (devices.foldl plug s).Keyed := by
    intro devices
    induction devices with
    | nil => exact fun _ hs => hs
    | cons info rest ih => exact fun s hs => ih (s.plug info) (hs.plug info)
  exact hplug devices {} keyed_empty

theorem Keyed.infoOf_id (h : s.Keyed) (id : DeviceId) : (s.infoOf id).id = id := by
  unfold infoOf
  cases hinfo : s.catalogue.get? id with
  | none => rfl
  | some info => exact h id info hinfo

end SimulatedFamily

theorem FaultPlan.check_of_no_scenarios {plan : FaultPlan} (h : plan.scenarios = [])
    (operation : Operation) (device : Option DeviceId) :
    ∃ after, plan.check operation device = (none, after) := by
  rw [FaultPlan.check, h]
  exact ⟨_, rfl⟩

namespace SimulatedFamily
variable {s : SimulatedFamily} {plan : FaultPlan} (h : plan.scenarios = [])
include h

theorem rescan_of_no_scenarios : (s.rescan plan).answer = .ok s.present.members := by
  obtain ⟨after, hcheck⟩ := FaultPlan.check_of_no_scenarios h .rescan none
  simp only [rescan, hcheck]

theorem adopt_of_no_scenarios (name : String) {id : DeviceId}
    (hpresent : s.present.contains id = true) (hadopted : s.adopted.contains id = false) :
    (adopt name id s plan).answer = .ok (.simulated id, s.infoOf id) := by
  obtain ⟨after, hcheck⟩ := FaultPlan.check_of_no_scenarios h .adopt (some id)
  simp [adopt, hcheck, hpresent, hadopted]

end SimulatedFamily

theorem SimulatedFamily.adopt_of_adopted (s : SimulatedFamily) (plan : FaultPlan) (name : String)
    {id : DeviceId} (hadopted : s.adopted.contains id = true) :
    ∃ fault, (adopt name id s plan).answer = .error fault := by
  unfold adopt
  split
  · exact ⟨_, rfl⟩
  · split
    · exact ⟨_, rfl⟩
    · exact ⟨_, rfl⟩

namespace SerialFamily
variable {s : SerialFamily} {id : DeviceId}

/-- What a rescan reports are the adapters that can be seen, none if it fails. -/
theorem reported_eq (s : SerialFamily) :
    (Bench.serialAnswer s.rescan).toOption.getD [] = s.adapters.keys := by
  unfold rescan adapters
  cases s.listing <;> rfl

theorem listing_of_get? {a : Adapter} (ha : s.adapters.get? id = some a) :
    s.listing = .ok s.adapters := by
  unfold adapters at ha ⊢
  cases hlisting : s.listing with
  | error fault =>
    rw [hlisting] at ha
    cases ha
  | ok seen => rfl

theorem adopt_of_adopted (hadopted : s.adopted.contains id = true) :
    ∃ fault, (s.adopt id).1 = .error fault := by
  have hresolve : ∃ fault, s.resolve id = .error fault := by
    unfold resolve
    split
    · exact ⟨_, rfl⟩
    · split
      · exact ⟨_, rfl⟩
      · split
        · exact ⟨_, rfl⟩
        · rw [if_pos hadopted]
          exact ⟨_, rfl⟩
  obtain ⟨fault, hfault⟩ := hresolve
  exact ⟨fault, by simp only [adopt, hfault]⟩

theorem adopt_of_resolvable {a : Adapter} (ha : s.adapters.get? id = some a) {node : String}
    (htarget : a.link.target = .node node) (hadopted : s.adopted.contains id = false) :
    (s.adopt id).1 = .ok (.serial a.link.file node, infoOf id a node) := by
  have hresolve : s.resolve id = .ok (a, node) := by
    simp [resolve, listing_of_get? ha, ha, htarget, hadopted]
  simp only [adopt, hresolve]

end SerialFamily

/-! ### What calls leave alone -/

/-- Whether the same devices are plugged in, under the same infos, and fail in the same ways. -/
structure Bench.Alike (w w' : Bench) : Prop where
  catalogue : ∀ slot, (w'.simulatedAt slot).catalogue = (w.simulatedAt slot).catalogue
  present : ∀ slot, (w'.simulatedAt slot).present = (w.simulatedAt slot).present
  scenarios : ∀ slot, (w'.planAt slot).scenarios = (w.planAt slot).scenarios
  directories : w'.directories = w.directories

namespace Bench
variable {w w' w'' : Bench}

namespace Alike

theorem refl (w : Bench) : Alike w w := ⟨fun _ => rfl, fun _ => rfl, fun _ => rfl, rfl⟩

theorem symm (h : Alike w w') : Alike w' w where
  catalogue := fun slot => (h.catalogue slot).symm
  present := fun slot => (h.present slot).symm
  scenarios := fun slot => (h.scenarios slot).symm
  directories := h.directories.symm

theorem trans (h : Alike w w') (h' : Alike w' w'') : Alike w w'' where
  catalogue := fun slot => (h'.catalogue slot).trans (h.catalogue slot)
  present := fun slot => (h'.present slot).trans (h.present slot)
  scenarios := fun slot => (h'.scenarios slot).trans (h.scenarios slot)
  directories := h'.directories.trans h.directories

theorem setSimulated {slot plan : Nat} {s : SimulatedFamily} {p : FaultPlan}
    (hcatalogue : s.catalogue = (w.simulatedAt slot).catalogue)
    (hpresent : s.present = (w.simulatedAt slot).present)
    (hscenarios : p.scenarios = (w.planAt plan).scenarios) :
    Alike w (w.setSimulated slot plan s p) where
  catalogue := by
    intro other
    rw [simulatedAt_setSimulated]
    split
    · rename_i hslot
      rw [hslot, hcatalogue]
    · rfl
  present := by
    intro other
    rw [simulatedAt_setSimulated]
    split
    · rename_i hslot
      rw [hslot, hpresent]
    · rfl
  scenarios := by
    intro other
    rw [planAt_setSimulated]
    split
    · rename_i hslot
      rw [hslot, hscenarios]
    · rfl
  directories := rfl

end Alike

theorem rescan_alike (k : DeviceClass) (w : Bench) : Alike w (rescan k w).world := by
  obtain ⟨name, capacity, family⟩ := k
  cases family with
  | simulated slot plan =>
    obtain ⟨answer, after, hplan, hr⟩ := (w.simulatedAt slot).rescan_cases (w.planAt plan)
    simp only [rescan, hr]
    exact Alike.setSimulated rfl rfl hplan
  | serial | scripted => exact { Alike.refl w with }

theorem adopt_alike (k : DeviceClass) (id : DeviceId) (w : Bench) :
    Alike w (adopt k id w).world := by
  obtain ⟨name, capacity, family⟩ := k
  cases family with
  | simulated slot plan =>
    rcases (w.simulatedAt slot).adopt_cases (w.planAt plan) name id with
      ⟨_, after, hplan, hr⟩ | ⟨_, after, hplan, hr⟩ <;> simp only [adopt, hr]
    · exact Alike.setSimulated rfl rfl hplan
    · exact Alike.setSimulated rfl rfl hplan
  | serial | scripted => exact { Alike.refl w with }

theorem abandon_alike (k : DeviceClass) (info : DeviceInfo) (handle : Handle) (w : Bench) :
    Alike w (abandon k info handle w).world := by
  obtain ⟨name, capacity, family⟩ := k
  cases family with
  | simulated slot plan =>
    rcases (w.simulatedAt slot).abandon_cases (w.planAt plan) name info handle with
      ⟨_, _, after, _, _, _, hplan, _, hr⟩ | ⟨_, _, hr⟩ <;> simp only [abandon, hr]
    · exact Alike.setSimulated rfl rfl hplan
    · exact Alike.setSimulated rfl rfl rfl
  | serial | scripted => exact { Alike.refl w with }

/-- Classes report what they find in worlds that are alike. -/
theorem exists_of_mem_reports {k : DeviceClass} {ids : List DeviceId} {ks : List DeviceClass}
    (h : (k, ids) ∈ classes.reports w ks) :
    k ∈ ks ∧ ∃ w', Alike w w' ∧ ids = (rescan k w').answer.toOption.getD [] := by
  induction ks generalizing w with
  | nil => cases h
  | cons j rest ih =>
    rcases List.mem_cons.mp h with heq | hmem
    · cases heq
      exact ⟨List.mem_cons_self, w, .refl w, rfl⟩
    · obtain ⟨hk, w', halike, hids⟩ := ih hmem
      exact ⟨List.mem_cons_of_mem j hk, w', (rescan_alike j w).trans halike, hids⟩

end Bench

/-! ### What a reliable class gives out -/

namespace DeviceClass
variable {k : DeviceClass} {w w' : Bench} {id : DeviceId}

/-- Whether a class of one of the two families that keep a set gives out every device that it sees,
unless it has adopted the device already. -/
def Reliable (k : DeviceClass) (w : Bench) : Prop :=
  match k.family with
  | .simulated slot plan => (w.planAt plan).scenarios = [] ∧ (w.simulatedAt slot).Keyed
  | .serial slot directory =>
    (w.serialAt slot directory).adapters.All fun _ a => ∃ path, a.link.target = .node path
  | .scripted _ => False

/-- Whether the class sees a device. -/
def Offers (k : DeviceClass) (w : Bench) (id : DeviceId) : Prop :=
  match k.family with
  | .simulated slot _ => (w.simulatedAt slot).present.contains id = true
  | .serial slot directory => ∃ a, (w.serialAt slot directory).adapters.get? id = some a
  | .scripted _ => False

theorem adapters_alike (h : Bench.Alike w w') (slot : Nat) (directory : String) :
    (w'.serialAt slot directory).adapters = (w.serialAt slot directory).adapters := by
  simp only [Bench.serialAt, SerialFamily.adapters, SerialFamily.listing, h.directories]

theorem Reliable.alike (hk : k.Reliable w) (h : Bench.Alike w w') : k.Reliable w' := by
  obtain ⟨name, capacity, family⟩ := k
  cases family with
  | simulated slot plan =>
    obtain ⟨hscenarios, hkeyed⟩ := hk
    refine ⟨(h.scenarios plan).trans hscenarios, ?_⟩
    rw [SimulatedFamily.Keyed, h.catalogue]
    exact hkeyed
  | serial slot directory =>
    simp only [Reliable, adapters_alike h] at hk ⊢
    exact hk
  | scripted => exact hk

theorem Offers.alike (hk : k.Offers w id) (h : Bench.Alike w w') : k.Offers w' id := by
  obtain ⟨name, capacity, family⟩ := k
  cases family with
  | simulated slot plan =>
    simp only [Offers, h.present] at hk ⊢
    exact hk
  | serial slot directory =>
    simp only [Offers, adapters_alike h] at hk ⊢
    exact hk
  | scripted => exact hk

theorem info_id_of_simulated {slot plan : Nat} (hfamily : k.family = .simulated slot plan)
    (hkeyed : (w.simulatedAt slot).Keyed) {handle : Handle} {info : DeviceInfo}
    (h : (Bench.adopt k id w).answer = .ok (handle, info)) : info.id = id := by
  obtain ⟨name, capacity, family⟩ := k
  obtain rfl : family = .simulated slot plan := hfamily
  rcases (w.simulatedAt slot).adopt_cases (w.planAt plan) name id with
    ⟨_, _, _, hr⟩ | ⟨_, _, _, hr⟩ <;> simp only [Bench.adopt, hr] at h <;> cases h
  exact hkeyed.infoOf_id id

theorem info_id_of_serial {slot : Nat} {directory : String}
    (hfamily : k.family = .serial slot directory) {handle : Handle} {info : DeviceInfo}
    (h : (Bench.adopt k id w).answer = .ok (handle, info)) : info.id = id := by
  obtain ⟨name, capacity, family⟩ := k
  obtain rfl : family = .serial slot directory := hfamily
  rcases (w.serialAt slot directory).adopt_cases id with ⟨_, hr⟩ | ⟨_, _, hid, hr⟩ <;>
    simp only [Bench.adopt, hr] at h <;> cases h
  exact hid

theorem Reliable.keepsSet (hk : k.Reliable w) : k.KeepsSet := by
  intro slot hplace
  obtain ⟨name, capacity, family⟩ := k
  cases family with
  | simulated | serial => cases hplace
  | scripted => exact hk

namespace Reliable
variable (hk : k.Reliable w)
include hk

theorem offers (hid : id ∈ (Bench.rescan k w).answer.toOption.getD []) : k.Offers w id := by
  obtain ⟨name, capacity, family⟩ := k
  cases family with
  | simulated slot plan =>
    have hanswer := SimulatedFamily.rescan_of_no_scenarios (s := w.simulatedAt slot) hk.1
    simp only [Bench.rescan, hanswer, Except.toOption, Option.getD_some] at hid
    exact SortedMap.contains_eq_true_iff.mpr (SortedMap.mem_keys_iff.mp hid)
  | serial slot directory =>
    have hseen : id ∈ (w.serialAt slot directory).adapters.keys :=
      (w.serialAt slot directory).reported_eq ▸ hid
    exact SortedMap.mem_keys_iff.mp hseen
  | scripted => exact hk.elim

theorem info_id {handle : Handle} {info : DeviceInfo}
    (h : (Bench.adopt k id w).answer = .ok (handle, info)) : info.id = id := by
  obtain ⟨name, capacity, family⟩ := k
  cases family with
  | simulated slot plan => exact info_id_of_simulated rfl hk.2 h
  | serial slot directory => exact info_id_of_serial rfl h
  | scripted => exact hk.elim

theorem given_of_not_adopted (hoffers : k.Offers w id)
    (hadopted : (w.adoptedAt k.place).contains id = false) :
    ∃ info, Bench.classes.given k id w = some info ∧ info.id = id := by
  have hgiven : ∃ handle info, (Bench.adopt k id w).answer = .ok (handle, info) := by
    obtain ⟨name, capacity, family⟩ := k
    cases family with
    | simulated slot plan =>
      exact ⟨_, _, SimulatedFamily.adopt_of_no_scenarios hk.1 name hoffers hadopted⟩
    | serial slot directory =>
      obtain ⟨a, ha⟩ := hoffers
      obtain ⟨node, hnode⟩ := hk id a ha
      exact ⟨_, _, congrArg Bench.serialAnswer
        (SerialFamily.adopt_of_resolvable ha hnode hadopted)⟩
    | scripted => exact hk.elim
  obtain ⟨handle, info, hanswer⟩ := hgiven
  refine ⟨info, ?_, hk.info_id hanswer⟩
  change (Bench.adopt k id w).answer.toOption.map _ = _
  rw [hanswer]
  rfl

end Reliable

/-- Whether a class keeps a set and gives every device an info with its identifier, however often
the classes have been asked. -/
structure Labels (k : DeviceClass) (w : Bench) : Prop where
  keepsSet : k.KeepsSet
  info_id : ∀ {w' : Bench} {id : DeviceId} {handle : Handle} {info : DeviceInfo},
    Bench.Alike w w' → (Bench.adopt k id w').answer = .ok (handle, info) → info.id = id

theorem Reliable.labels (hk : k.Reliable w) : k.Labels w where
  keepsSet := hk.keepsSet
  info_id := fun halike hgiven => (hk.alike halike).info_id hgiven

theorem labels_of_serial {slot : Nat} {directory : String}
    (hfamily : k.family = .serial slot directory) : k.Labels w where
  keepsSet := by
    intro other hplace
    rw [place, hfamily] at hplace
    cases hplace
  info_id := fun _ hgiven => info_id_of_serial hfamily hgiven

theorem given_of_adopted (hk : k.KeepsSet)
    (hadopted : (w.adoptedAt k.place).contains id = true) :
    Bench.classes.given k id w = none := by
  have hdeclined : ∃ fault, (Bench.adopt k id w).answer = .error fault := by
    obtain ⟨name, capacity, family⟩ := k
    cases family with
    | simulated slot plan => exact SimulatedFamily.adopt_of_adopted _ _ name hadopted
    | serial slot directory =>
      obtain ⟨fault, hfault⟩ :=
        SerialFamily.adopt_of_adopted (s := w.serialAt slot directory) hadopted
      exact ⟨_, congrArg Bench.serialAnswer hfault⟩
    | scripted slot => exact absurd rfl (hk slot)
  obtain ⟨fault, hfault⟩ := hdeclined
  change (Bench.adopt k id w).answer.toOption.map _ = _
  rw [hfault]
  rfl

end DeviceClass

end LeaseBroker
