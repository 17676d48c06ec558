import LeaseBroker.Proofs.Accounting
import LeaseBroker.Proofs.Adoptions
import LeaseBroker.Proofs.Custody

/-!
# Devices are adopted exactly once

What custody of handles comes to for the built-in families. If nobody but the broker uses a class,
then what the class has adopted is what it holds in the registry, however its calls fail and
whoever reports its devices later.
-/

set_option autoImplicit false

namespace LeaseBroker

namespace Broker
variable {K H : Type}

/-- A set has the identifiers of the registered devices that a class holds. -/
structure HeldBy (entries : SortedMap DeviceId (Entry K H)) (k : K) (s : SortedSet DeviceId) :
    Prop where
  agree : ∀ {id : DeviceId}, s.contains id = true ↔ ∃ e, entries.get? id = some e ∧ e.holder = k

namespace HeldBy
variable {entries : SortedMap DeviceId (Entry K H)} {k : K} {s : SortedSet DeviceId}
  {id : DeviceId} {e : Entry K H}

theorem update (h : HeldBy entries k s) (he : entries.get? id = some e) {e' : Entry K H}
    (hholder : e'.holder = e.holder) : HeldBy (entries.insert id e') k s where
  agree := by
    intro i
    rw [h.agree, SortedMap.get?_insert]
    split
    · rename_i hi
      simp [hi, he, hholder]
    · rfl

theorem adopt (h : HeldBy entries k s) (hholder : e.holder = k) :
    HeldBy (entries.insert id e) k (s.add id) where
  agree := by
    intro i
    rw [SortedSet.contains_add, h.agree, SortedMap.get?_insert]
    split
    · rename_i hi
      simp [hi, hholder]
    · rename_i hi
      simp [hi]

theorem adoptElsewhere (h : HeldBy entries k s) (fresh : entries.get? id = none)
    (hholder : e.holder ≠ k) : HeldBy (entries.insert id e) k s where
  agree := by
    intro i
    rw [h.agree, SortedMap.get?_insert]
    split
    · rename_i hi
      simp [hi, fresh, hholder]
    · rfl

theorem forget (h : HeldBy entries k s) : HeldBy (entries.erase id) k (s.erase id) where
  agree := by
    intro i
    rw [SortedSet.contains_erase, h.agree, SortedMap.get?_erase]
    split
    · rename_i hi
      simp [hi]
    · rename_i hi
      simp [hi]

theorem forgetElsewhere (h : HeldBy entries k s) (he : entries.get? id = some e)
    (hholder : e.holder ≠ k) : HeldBy (entries.erase id) k s where
  agree := by
    intro i
    rw [h.agree, SortedMap.get?_erase]
    split
    · rename_i hi
      simp [hi, he, hholder]
    · rfl

theorem reject (h : HeldBy entries k s) (fresh : entries.get? id = none) :
    HeldBy entries k ((s.add id).erase id) where
  agree := by
    intro i
    rw [SortedSet.contains_erase, SortedSet.contains_add, ← h.agree]
    constructor
    · rintro ⟨hi, hadded⟩
      exact hadded.resolve_left hi
    · intro hi
      refine ⟨?_, Or.inr hi⟩
      rintro rfl
      obtain ⟨e, he, _⟩ := h.agree.mp hi
      rw [fresh] at he
      cases he

end HeldBy

/-! ### A class that only this broker uses -/

/-- What a registry has of a class that nobody else uses and that has adopted the devices of a set:
no other class is at its place, it would strike off what it holds, and it holds what it has
adopted. -/
structure Tended (k : DeviceClass) (r : Registry DeviceClass Handle)
    (adopted : SortedSet DeviceId) : Prop where
  classes : ∀ j ∈ r.classes, j.place = k.place → j = k
  owners : r.owners.All fun _ j => j.place = k.place → j = k
  holders : r.entries.All fun id e =>
    e.holder.place = k.place → e.holder = k ∧ k.Strikes id e.handle e.info
  adopted : HeldBy r.entries k adopted

namespace Tended
variable {k : DeviceClass} {r : Registry DeviceClass Handle} {s : SortedSet DeviceId}
  {id : DeviceId} {e : Entry DeviceClass Handle}

theorem start (access : AccessLists) : Tended k { access } ∅ where
  classes := nofun
  owners := SortedMap.All.empty
  holders := SortedMap.All.empty
  adopted := ⟨by simp [SortedMap.contains]⟩

theorem update (h : Tended k r s) (he : r.entries.get? id = some e) (leases : Nat) :
    Tended k { r with entries := r.entries.insert id { e with leases } } s where
  classes := h.classes
  owners := h.owners
  holders := h.holders.insert (h.holders id e he :)
  adopted := h.adopted.update he rfl

theorem adopt (h : Tended k r s) (hholder : e.holder = k)
    (hstrikes : k.Strikes id e.handle e.info) :
    Tended k { r with entries := r.entries.insert id e } (s.add id) where
  classes := h.classes
  owners := h.owners
  holders := h.holders.insert fun _ => ⟨hholder, hstrikes⟩
  adopted := h.adopted.adopt hholder

theorem adoptElsewhere (h : Tended k r s) (fresh : r.entries.get? id = none)
    (hplace : e.holder.place ≠ k.place) :
    Tended k { r with entries := r.entries.insert id e } s where
  classes := h.classes
  owners := h.owners
  holders := h.holders.insert fun hp => absurd hp hplace
  adopted := h.adopted.adoptElsewhere fresh fun hholder => hplace (congrArg _ hholder)

theorem forget (h : Tended k r s) :
    Tended k { r with entries := r.entries.erase id } (s.erase id) where
  classes := h.classes
  owners := h.owners
  holders := h.holders.erase id
  adopted := h.adopted.forget

theorem forgetElsewhere (h : Tended k r s) (he : r.entries.get? id = some e)
    (hplace : e.holder.place ≠ k.place) :
    Tended k { r with entries := r.entries.erase id } s where
  classes := h.classes
  owners := h.owners
  holders := h.holders.erase id
  adopted := h.adopted.forgetElsewhere he fun hholder => hplace (congrArg _ hholder)

end Tended

abbrev Tends (k : DeviceClass) (b : Broker Bench DeviceClass Handle) : Prop :=
  Tended k b.toRegistry (b.world.adoptedAt k.place)

namespace Tends
variable {k : DeviceClass} {b c : Broker Bench DeviceClass Handle}

theorem adopt (hk : k.KeepsSet) (h : Tends k b) {id : DeviceId} {j : DeviceClass}
    {handle : Handle} {info : DeviceInfo} (adoptable : b.Adoptable id j)
    (given : (Bench.adopt j id b.world).answer = .ok (handle, info)) :
    Tends k (b.adopted (Bench.adopt j id b.world) id j handle info) := by
  change Tended k _ ((Bench.adopt j id b.world).world.adoptedAt k.place)
  by_cases hplace : j.place = k.place
  · obtain rfl := h.owners id j adoptable.owned hplace
    obtain ⟨hadopted, hstrikes⟩ := Bench.adopt_adoptedAt_of_ok hk given
    rw [hadopted]
    exact { Tended.adopt h (e := { handle, info, holder := j }) rfl hstrikes with }
  · rw [Bench.adopt_adoptedAt_of_ne (Ne.symm hplace)]
    exact { Tended.adoptElsewhere h (e := { handle, info, holder := j }) adoptable.fresh
      hplace with }

theorem reject (hk : k.KeepsSet) (h : Tends k b) {id : DeviceId} {j : DeviceClass}
    {handle : Handle} {info : DeviceInfo} (adoptable : b.Adoptable id j)
    (given : (Bench.adopt j id b.world).answer = .ok (handle, info)) :
    Tends k ((b.accept (Bench.adopt j id b.world)).abandon Bench.classes id j info handle) := by
  rw [Tends, abandon_toRegistry, abandon_world]
  -- The identifier is added to the set and struck off again, and was not in it before.
  change Tended k b.toRegistry
    ((Bench.abandon j info handle (Bench.adopt j id b.world).world).world.adoptedAt k.place)
  by_cases hplace : j.place = k.place
  · obtain rfl := h.owners id j adoptable.owned hplace
    obtain ⟨hadopted, hstrikes⟩ := Bench.adopt_adoptedAt_of_ok hk given
    rw [Bench.abandon_adoptedAt hk hstrikes, hadopted]
    exact { h with adopted := h.adopted.reject adoptable.fresh }
  · rw [Bench.abandon_adoptedAt_of_ne (Ne.symm hplace),
      Bench.adopt_adoptedAt_of_ne (Ne.symm hplace)]
    exact h

theorem forget (hk : k.KeepsSet) (h : Tends k b) {id : DeviceId} {e : Entry DeviceClass Handle}
    (registered : b.entries.get? id = some e) :
    Tends k ((b.struckOff id e).abandon Bench.classes id e.holder e.info e.handle) := by
  rw [Tends, abandon_toRegistry, abandon_world]
  change Tended k _ ((Bench.abandon e.holder e.info e.handle b.world).world.adoptedAt k.place)
  by_cases hplace : e.holder.place = k.place
  · obtain ⟨hholder, hstrikes⟩ := h.holders id e registered hplace
    rw [hholder, Bench.abandon_adoptedAt hk hstrikes]
    exact { Tended.forget h with }
  · rw [Bench.abandon_adoptedAt_of_ne (Ne.symm hplace)]
    exact { Tended.forgetElsewhere h registered hplace with }

theorem deed (hk : k.KeepsSet) (hd : Deed Bench.classes b c) (h : Tends k b) : Tends k c := by
  cases hd with
  | lease acquirer started registered free => exact { h.update registered _ with }
  | endLease registered busy popped => exact { h.update registered _ with }
  | popInVain | access | note | clock => exact { h with }
  | adopt adoptable given unknown => exact h.adopt hk adoptable given
  | @decline id j fault adoptable declined =>
    change Tended k b.toRegistry ((Bench.adopt j id b.world).world.adoptedAt k.place)
    rw [Bench.adopt_adoptedAt_of_error declined]
    exact h
  | reject adoptable given known => exact h.reject hk adoptable given
  | forget registered idle => exact h.forget hk registered

theorem scan (h : Tends k b) : Tends k (b.scan Bench.classes) := by
  refine scan_preserve (P := Tends k) { h with owners := SortedMap.All.empty } ?_ ?_ ?_
  · intro c j _ hc
    change Tended k c.toRegistry ((Bench.rescan j c.world).world.adoptedAt k.place)
    rw [Bench.rescan_adoptedAt]
    exact hc
  · intro c j id hj hc
    exact { hc with owners := hc.owners.insert (h.classes j hj) }
  · exact fun _ _ _ hc => hc

theorem register (h : Tends k b) {j : DeviceClass} (hj : j.place = k.place → j = k) :
    Tends k (b.register Bench.classes j) := by
  refine { h with classes := fun i hi => ?_ }
  rcases List.mem_append.mp hi with hi | hi
  · exact h.classes i hi
  · rw [List.mem_singleton.mp hi]
    exact hj

end Tends

end Broker

/-- Whether an action is no reset, does not use a class behind the back of the broker and makes no
class known that is at its place. -/
def DeviceClass.Admits (k : DeviceClass) (w : Bench) : Action Bench DeviceClass → Prop
  | .reset => False
  | .register j => j.place = k.place → j = k
  | .world later => later.adoptedAt k.place = w.adoptedAt k.place
  | _ => True

namespace Pool

theorem ReachableUnder.tends {k : DeviceClass} (hk : k.KeepsSet)
    {p : Pool Bench DeviceClass Handle}
    (hp : ReachableUnder Bench.classes (fun w => w.adoptedAt k.place = ∅) k.Admits p) :
    p.broker.Tends k := by
  refine hp.preserve (P := Broker.Tends k) ?_ (fun hj h => h.register hj) (fun h => h.scan)
    (fun hreset _ => hreset.elim) ?_ (fun hd h => h.deed hk hd)
  · intro world access hworld
    rw [Broker.Tends, Broker.start, hworld]
    exact .start access
  · intro b world hadmits h
    have hadopted : world.adoptedAt k.place = b.world.adoptedAt k.place := hadmits
    rw [Broker.Tends, hadopted]
    exact h

/-- Whatever the classes, a broker that is not reset keeps every handle in custody: watching its
calls changes nothing that it does, and shows each handle in the one entry it was given out for
until it goes back, once, to the class that it comes from. So a class that keeps a set and that
nobody else uses has adopted exactly what it holds in the registry. -/
theorem handles_owned_once :
    (∀ {W K H : Type} (cls : DeviceClasses W K H) (world : W) (access : AccessLists)
      (actions : List (Action W K)), (∀ action ∈ actions, action ≠ .reset) →
      (watchedRun cls world access actions).image Watched.world Numbered.handle =
        Pool.run cls ⟨.start world access, []⟩ actions ∧
      (watchedRun cls world access actions).broker.InCustody ∧
      ∀ {id id' : DeviceId} {e e' : Entry K (Numbered H)},
        (watchedRun cls world access actions).broker.entries.get? id = some e →
        (watchedRun cls world access actions).broker.entries.get? id' = some e' →
        e.handle.number = e'.handle.number → id = id') ∧
    (∀ {k : DeviceClass} {p : Pool Bench DeviceClass Handle}, k.KeepsSet →
      ReachableUnder Bench.classes (fun w => w.adoptedAt k.place = ∅) k.Admits p →
      ∀ id, (p.broker.world.adoptedAt k.place).contains id = true ↔
        ∃ e, p.broker.entries.get? id = some e ∧ e.holder = k) := by
  constructor
  · intro W K H cls world access actions hreset
    have hstart : ReachableUnder cls.watched Watched.Fresh Watched.Admits
        (⟨.start ⟨world, []⟩ access, []⟩ : Pool (Watched W K H) K (Numbered H)) := .start access rfl
    have hcustody := (hstart.runWatched hreset).custody
    exact ⟨runWatched_image _ _, hcustody, hcustody.alone⟩
  · intro k p hk hp id
    exact (hp.tends hk).adopted.agree

/-- Two devices of a class that reports a failure whenever a device is given back to it. -/
def grudging : Bench :=
  ({} : Bench).setSimulated 0 0 (SimulatedFamily.ofDevices [{ id := "A" }, { id := "B" }])
    (({} : FaultPlan).inject (.always .abandon))

/-- A device is forgotten and found again. -/
def reopening : List (Action Bench DeviceClass) :=
  [.register sharedPhones, .rescan, .remove "A" false, .rescan]

theorem handles_owned_once_reopened :
    (watchedRun Bench.classes grudging {} reopening).broker.world.calls.length = 4 ∧
    (watchedRun Bench.classes grudging {} reopening).broker.InCustody ∧
    (Pool.run Bench.classes ⟨.start grudging {}, []⟩ reopening).broker.devices = ["A", "B"] ∧
    ((Pool.run Bench.classes ⟨.start grudging {}, []⟩ reopening).broker.world.adoptedAt
      (.simulated 0)).contains "B" = true ∧
    ∃ e, (Pool.run Bench.classes ⟨.start grudging {}, []⟩ reopening).broker.entries.get? "B" =
      some e ∧ e.holder = sharedPhones := by
  have hreset : ∀ action ∈ reopening, action ≠ .reset := by simp [reopening]
  have hadmits : ∀ action ∈ reopening, ∀ w, sharedPhones.Admits w action := by
    simp [reopening, DeviceClass.Admits]
  have hkeeps : sharedPhones.KeepsSet := by
    intro slot hplace
    cases hplace
  have hstart : ReachableUnder Bench.classes (fun w => w.adoptedAt sharedPhones.place = ∅)
      sharedPhones.Admits ⟨.start grudging {}, []⟩ := .start {} rfl
  have hadopted : ((Pool.run Bench.classes ⟨.start grudging {}, []⟩
      reopening).broker.world.adoptedAt (.simulated 0)).contains "B" = true := by decide +kernel
  exact ⟨by decide +kernel, (handles_owned_once.1 Bench.classes grudging {} reopening hreset).2.1,
    by decide +kernel, hadopted,
    (handles_owned_once.2 hkeeps (hstart.run hadmits) "B").mp hadopted⟩

end Pool

end LeaseBroker
