import LeaseBroker.Bench
import LeaseBroker.Proofs.SortedMap

/-!
# What the built-in families have adopted

Simulated and serial families keep a set of the devices that they have adopted and not been given
back. Each keeps it at a place of its own on the bench. Adopting a device under an identifier adds
the identifier, a failed adoption adds nothing, and a device that comes back is struck off whether
the call fails or not.
-/

set_option autoImplicit false

namespace LeaseBroker

/-! ### Calls of a family -/

theorem FaultPlan.scenarios_of_check {plan after : FaultPlan} {operation : Operation}
    {device : Option DeviceId} {cause : Option Scenario}
    (h : plan.check operation device = (cause, after)) : after.scenarios = plan.scenarios :=
  (congrArg (fun r => r.2.scenarios) h).symm

namespace SimulatedFamily
variable (s : SimulatedFamily) (plan : FaultPlan) (name : String)

theorem rescan_cases : ∃ answer after, after.scenarios = plan.scenarios ∧
    s.rescan plan = { answer, world := (s, after) } := by
  unfold rescan
  split <;> rename_i h
  · exact ⟨_, _, FaultPlan.scenarios_of_check h, rfl⟩
  · exact ⟨_, _, FaultPlan.scenarios_of_check h, rfl⟩

theorem adopt_cases (id : DeviceId) :
    (∃ fault after, after.scenarios = plan.scenarios ∧
      adopt name id s plan = { answer := .error fault, world := (s, after) }) ∨
    (∃ events after, after.scenarios = plan.scenarios ∧ adopt name id s plan =
      { answer := .ok (.simulated id, s.infoOf id)
        world := ({ s with adopted := s.adopted.add id, events }, after)
        notices := [.simulatedAdopted name id] }) := by
  unfold adopt
  split <;> rename_i h <;> have hplan := FaultPlan.scenarios_of_check h
  · exact Or.inl ⟨_, _, hplan, rfl⟩
  · split
    · exact Or.inl ⟨_, _, hplan, rfl⟩
    · split
      · exact Or.inl ⟨_, _, hplan, rfl⟩
      · exact Or.inr ⟨_, _, hplan, rfl⟩

theorem abandon_cases (info : DeviceInfo) (handle : Handle) :
    (∃ id events after answer notices, handle = .simulated id ∧ after.scenarios = plan.scenarios ∧
      notices ⊆ [.simulatedAbandoned name id] ∧ abandon name info handle s plan =
        { answer, world := ({ s with adopted := s.adopted.erase id, events }, after), notices }) ∨
    (∃ fault, (∀ id, handle ≠ .simulated id) ∧
      abandon name info handle s plan = { answer := .error fault, world := (s, plan) }) := by
  unfold abandon
  cases handle with
  | simulated id =>
    refine Or.inl ⟨id, s.events ++ [.abandoned id], ?_⟩
    dsimp only
    split <;> rename_i h <;> have hplan := FaultPlan.scenarios_of_check h
    · exact ⟨_, _, [], rfl, hplan, List.nil_subset _, rfl⟩
    · exact ⟨_, _, _, rfl, hplan, List.Subset.refl _, rfl⟩
  | _ => exact Or.inr ⟨_, nofun, rfl⟩

end SimulatedFamily

namespace SerialFamily
variable (s : SerialFamily)

theorem adopt_cases (id : DeviceId) :
    (∃ fault, s.adopt id = (.error fault, s)) ∨
    (∃ handle info, info.id = id ∧
      s.adopt id = (.ok (handle, info), { s with adopted := s.adopted.add id })) := by
  unfold adopt
  split
  · exact Or.inl ⟨_, rfl⟩
  · exact Or.inr ⟨_, _, rfl, rfl⟩

theorem abandon_adopted (info : DeviceInfo) (handle : Handle) :
    (s.abandon info handle).2.adopted = s.adopted.erase info.id := by
  unfold abandon
  dsimp only
  split <;> rfl

end SerialFamily

/-! ### Calls of a class -/

/-- Where a class keeps what it has adopted. Classes that keep it at one place are one class. -/
inductive Place where
  | simulated (slot : Nat)
  | serial (slot : Nat)
  | scripted (slot : Nat)
  deriving DecidableEq

namespace DeviceClass

def place (k : DeviceClass) : Place :=
  match k.family with
  | .simulated slot _ => .simulated slot
  | .serial slot _ => .serial slot
  | .scripted slot => .scripted slot

/-- Whether a class keeps a set of what it has adopted. -/
def KeepsSet (k : DeviceClass) : Prop := ∀ slot, k.place ≠ .scripted slot

/-- Whether a class strikes off an identifier when it is given back a handle with an info. -/
def Strikes (k : DeviceClass) (id : DeviceId) (handle : Handle) (info : DeviceInfo) : Prop :=
  match k.family with
  | .simulated .. => handle = .simulated id
  | .serial .. => info.id = id
  | .scripted _ => True

end DeviceClass

namespace Bench

def adoptedAt (w : Bench) : Place → SortedSet DeviceId
  | .simulated slot => (w.simulatedAt slot).adopted
  | .serial slot => (w.adopted.get? slot).getD ∅
  | .scripted _ => ∅

variable (w : Bench)

theorem simulatedAt_setSimulated (slot plan other : Nat) (s : SimulatedFamily) (p : FaultPlan) :
    (w.setSimulated slot plan s p).simulatedAt other =
      if other = slot then s else w.simulatedAt other := by
  simp only [simulatedAt, setSimulated, SortedMap.get?_insert]
  split <;> rfl

theorem planAt_setSimulated (slot plan other : Nat) (s : SimulatedFamily) (p : FaultPlan) :
    (w.setSimulated slot plan s p).planAt other = if other = plan then p else w.planAt other := by
  simp only [planAt, setSimulated, SortedMap.get?_insert]
  split <;> rfl

theorem adoptedAt_setSimulated (slot plan : Nat) (s : SimulatedFamily) (p : FaultPlan)
    (place : Place) : (w.setSimulated slot plan s p).adoptedAt place =
      if place = .simulated slot then s.adopted else w.adoptedAt place := by
  cases place with
  | simulated other =>
    simp only [adoptedAt, simulatedAt_setSimulated, Place.simulated.injEq]
    split <;> rfl
  | serial | scripted => rfl

theorem adoptedAt_setAdopted (slot : Nat) (ids : SortedSet DeviceId) (place : Place) :
    (w.setAdopted slot ids).adoptedAt place =
      if place = .serial slot then ids else w.adoptedAt place := by
  cases place with
  | serial other =>
    simp only [adoptedAt, setAdopted, SortedMap.get?_insert, Place.serial.injEq]
    split <;> rfl
  | simulated | scripted => rfl

theorem adoptedAt_setScripted (slot : Nat) (s : ScriptedFamily) (place : Place) :
    (w.setScripted slot s).adoptedAt place = w.adoptedAt place := by
  cases place <;> rfl

theorem rescan_adoptedAt (k : DeviceClass) (place : Place) :
    (rescan k w).world.adoptedAt place = w.adoptedAt place := by
  obtain ⟨name, capacity, family⟩ := k
  cases family with
  | simulated slot plan =>
    obtain ⟨answer, after, _, hr⟩ := (w.simulatedAt slot).rescan_cases (w.planAt plan)
    simp only [rescan, hr, adoptedAt_setSimulated]
    split
    · rename_i hplace
      rw [hplace]
      rfl
    · rfl
  | serial slot directory => rfl
  | scripted slot => exact w.adoptedAt_setScripted _ _ _

section OneClass
variable {w} {k : DeviceClass}

theorem adopt_adoptedAt_of_ne {place : Place} (h : place ≠ k.place) (id : DeviceId) :
    (adopt k id w).world.adoptedAt place = w.adoptedAt place := by
  obtain ⟨name, capacity, family⟩ := k
  cases family with
  | simulated slot plan => exact (w.adoptedAt_setSimulated _ _ _ _ _).trans (if_neg h)
  | serial slot directory => exact (w.adoptedAt_setAdopted _ _ _).trans (if_neg h)
  | scripted slot => exact w.adoptedAt_setScripted _ _ _

theorem abandon_adoptedAt_of_ne {place : Place} (h : place ≠ k.place) (info : DeviceInfo)
    (handle : Handle) : (abandon k info handle w).world.adoptedAt place = w.adoptedAt place := by
  obtain ⟨name, capacity, family⟩ := k
  cases family with
  | simulated slot plan => exact (w.adoptedAt_setSimulated _ _ _ _ _).trans (if_neg h)
  | serial slot directory => exact (w.adoptedAt_setAdopted _ _ _).trans (if_neg h)
  | scripted slot => exact w.adoptedAt_setScripted _ _ _

theorem adopt_adoptedAt_of_error {id : DeviceId} {fault : Fault}
    (h : (adopt k id w).answer = .error fault) (place : Place) :
    (adopt k id w).world.adoptedAt place = w.adoptedAt place := by
  by_cases hplace : place = k.place
  · subst hplace
    obtain ⟨name, capacity, family⟩ := k
    cases family with
    | simulated slot plan =>
      rcases (w.simulatedAt slot).adopt_cases (w.planAt plan) name id with
        ⟨_, after, _, hr⟩ | ⟨_, after, _, hr⟩
      · simp only [adopt, hr]
        exact (w.adoptedAt_setSimulated _ _ _ _ _).trans (if_pos rfl)
      · simp only [adopt, hr] at h
        cases h
    | serial slot directory =>
      rcases (w.serialAt slot directory).adopt_cases id with ⟨_, hr⟩ | ⟨_, _, _, hr⟩
      · simp only [adopt, hr]
        exact (w.adoptedAt_setAdopted _ _ _).trans (if_pos rfl)
      · simp only [adopt, hr] at h
        cases h
    | scripted slot => exact w.adoptedAt_setScripted _ _ _
  · exact adopt_adoptedAt_of_ne hplace id

theorem adopt_adoptedAt_of_ok (hk : k.KeepsSet) {id : DeviceId} {handle : Handle}
    {info : DeviceInfo} (h : (adopt k id w).answer = .ok (handle, info)) :
    (adopt k id w).world.adoptedAt k.place = (w.adoptedAt k.place).add id ∧
      k.Strikes id handle info := by
  obtain ⟨name, capacity, family⟩ := k
  cases family with
  | simulated slot plan =>
    rcases (w.simulatedAt slot).adopt_cases (w.planAt plan) name id with
      ⟨_, after, _, hr⟩ | ⟨_, after, _, hr⟩
    · simp only [adopt, hr] at h
      cases h
    · simp only [adopt, hr] at h ⊢
      cases h
      exact ⟨(w.adoptedAt_setSimulated _ _ _ _ _).trans (if_pos rfl), rfl⟩
  | serial slot directory =>
    rcases (w.serialAt slot directory).adopt_cases id with ⟨_, hr⟩ | ⟨_, _, hid, hr⟩
    · simp only [adopt, hr] at h
      cases h
    · simp only [adopt, hr] at h ⊢
      cases h
      exact ⟨(w.adoptedAt_setAdopted _ _ _).trans (if_pos rfl), hid⟩
  | scripted slot => exact absurd rfl (hk slot)

theorem abandon_adoptedAt (hk : k.KeepsSet) {id : DeviceId} {handle : Handle} {info : DeviceInfo}
    (h : k.Strikes id handle info) :
    (abandon k info handle w).world.adoptedAt k.place = (w.adoptedAt k.place).erase id := by
  obtain ⟨name, capacity, family⟩ := k
  cases family with
  | simulated slot plan =>
    rcases (w.simulatedAt slot).abandon_cases (w.planAt plan) name info handle with
      ⟨_, _, after, _, _, hhandle, _, _, hr⟩ | ⟨_, hforeign, _⟩
    · obtain rfl := Handle.simulated.inj (hhandle.symm.trans h)
      simp only [abandon, hr]
      exact (w.adoptedAt_setSimulated _ _ _ _ _).trans (if_pos rfl)
    · exact absurd h (hforeign id)
  | serial slot directory =>
    have hset := (w.adoptedAt_setAdopted slot ((w.serialAt slot directory).abandon info
      handle).2.adopted (.serial slot)).trans (if_pos rfl)
    exact hset.trans ((SerialFamily.abandon_adopted _ _ _).trans (congrArg _ h))
  | scripted slot => exact absurd rfl (hk slot)

end OneClass

end Bench

end LeaseBroker
