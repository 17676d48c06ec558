import LeaseBroker.Proofs.Accounting

/-!
# Capacity is never exceeded

As long as the classes keep their capacities, no device has more leases than its class permits,
whoever asks for them and in whatever order. A device that is adopted anew starts without leases,
so an earlier owner leaves nothing behind.
-/

set_option autoImplicit false

namespace LeaseBroker

def DeviceClasses.ConstantCapacity {W K H : Type} (cls : DeviceClasses W K H) : Prop :=
  ∀ (w v : W) (k : K), cls.capacity w k = cls.capacity v k

theorem Capacity.admits_iff {c : Capacity} {leases : Nat} :
    c.admits leases = true ↔ c = .unlimited ∨ ∃ max, c = .limited max ∧ leases < max := by
  cases c <;> simp [admits]

def Entry.Fits {W K H : Type} (cls : DeviceClasses W K H) (e : Entry K H) : Prop :=
  ∀ (w : W) (max : Nat), cls.capacity w e.holder = .limited max → e.leases ≤ max

namespace Broker
variable {W K H : Type} {cls : DeviceClasses W K H}

/-- No entry has more leases than the class that holds it permits. -/
def WithinCapacity (cls : DeviceClasses W K H) (entries : SortedMap DeviceId (Entry K H)) : Prop :=
  ∀ (id : DeviceId) (e : Entry K H), entries.get? id = some e → Entry.Fits cls e

namespace WithinCapacity
variable {entries : SortedMap DeviceId (Entry K H)}

theorem empty : WithinCapacity cls (∅ : SortedMap DeviceId (Entry K H)) := SortedMap.All.empty

theorem insert (h : WithinCapacity cls entries) {id : DeviceId} {e : Entry K H}
    (hfits : Entry.Fits cls e) : WithinCapacity cls (entries.insert id e) :=
  SortedMap.All.insert h hfits

theorem erase (h : WithinCapacity cls entries) (id : DeviceId) :
    WithinCapacity cls (entries.erase id) :=
  SortedMap.All.erase h id

theorem change (hconst : cls.ConstantCapacity) {b c : Broker W K H} (hc : Change cls b c)
    (h : WithinCapacity cls b.entries) : WithinCapacity cls c.entries := by
  cases hc with
  | @lease _ id e acquirer started registered free =>
    refine h.insert fun w max hmax => ?_
    -- The room for one more lease was seen in the present world.
    have hmax' : cls.capacity b.world e.holder = .limited max := (hconst b.world w _).trans hmax
    rw [isFree, hmax'] at free
    exact Nat.succ_le_of_lt (by simpa [Capacity.admits] using free)
  | endLease registered busy popped =>
    exact h.insert fun w max hmax => (Nat.sub_le _ 1).trans (h _ _ registered w max hmax)
  | adopt handle fresh unknown owned permitted => exact h.insert fun _ _ _ => Nat.zero_le _
  | forget registered idle => exact h.erase _
  | clear => exact empty
  | popInVain | classes | owners | access | accept | note | world | clock => exact h

end WithinCapacity

end Broker

namespace Pool
variable {W K H : Type} {cls : DeviceClasses W K H}

/-- Every registered device has room within the capacity of its class, and it is available exactly
if there is room for one more lease. -/
theorem capacity_never_exceeded (hconst : cls.ConstantCapacity) {p : Pool W K H}
    (hp : Reachable cls p) {id : DeviceId} {e : Entry K H}
    (he : p.broker.entries.get? id = some e) :
    (∀ max, cls.capacity p.broker.world e.holder = .limited max → e.leases ≤ max) ∧
    (∃ free, p.broker.available cls id = .ok free ∧
      (free = true ↔ cls.capacity p.broker.world e.holder = .unlimited ∨
        ∃ max, cls.capacity p.broker.world e.holder = .limited max ∧ e.leases < max)) := by
  have hwithin : Broker.WithinCapacity cls p.broker.entries :=
    hp.preserve (P := fun b => Broker.WithinCapacity cls b.entries) (fun _ _ => .empty)
      fun hc h => h.change hconst hc
  refine ⟨hwithin id e he p.broker.world, p.broker.isFree cls e, ?_, Capacity.admits_iff⟩
  simp only [Broker.available, Broker.entry, he, Except.map]

theorem capacity_never_exceeded_shared :
    ∃ e, sharedPool.broker.entries.get? "A" = some e ∧ e.leases = 2 ∧
      (∀ max, Bench.classes.capacity sharedPool.broker.world e.holder = .limited max →
        e.leases ≤ max) ∧
      (∃ free, sharedPool.broker.available Bench.classes "A" = .ok free ∧
        (free = true ↔ Bench.classes.capacity sharedPool.broker.world e.holder = .unlimited ∨
          ∃ max, Bench.classes.capacity sharedPool.broker.world e.holder = .limited max ∧
            e.leases < max)) := by
  have hsome : (sharedPool.broker.entries.get? "A").isSome = true := by decide +kernel
  have htwo : (sharedPool.broker.entries.get? "A").map (·.leases) = some 2 := by decide +kernel
  obtain ⟨e, he⟩ := Option.isSome_iff_exists.mp hsome
  rw [he] at htwo
  exact ⟨e, he, Option.some.inj htwo,
    capacity_never_exceeded (fun _ _ _ => rfl) sharedPool_reachable he⟩

end Pool

end LeaseBroker
