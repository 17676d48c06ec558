import LeaseBroker.Proofs.Adoptions
import LeaseBroker.Proofs.FaultHistories

/-!
# Shared fault plans

Any number of classes on a bench can share a fault plan. Each of their calls is a check of it, so
whatever the classes are asked, in any order and between changes of the plan, the plan has one
history, and the next call of a class fails as that history says.
-/

set_option autoImplicit false

namespace LeaseBroker

def DeviceClass.plan? (k : DeviceClass) : Option Nat :=
  match k.family with
  | .simulated _ plan => some plan
  | _ => none

theorem DeviceClass.family_of_plan? {k : DeviceClass} {plan : Nat} (h : k.plan? = some plan) :
    ∃ slot, k.family = .simulated slot plan := by
  obtain ⟨name, capacity, family⟩ := k
  cases family with
  | simulated slot other =>
    cases h
    exact ⟨slot, rfl⟩
  | serial | scripted => cases h

inductive BenchCall where
  | rescan (k : DeviceClass)
  | adopt (k : DeviceClass) (id : DeviceId)
  | abandon (k : DeviceClass) (info : DeviceInfo) (handle : Handle)
  | fault (plan : Nat) (action : FaultAction)

namespace BenchCall

/-- What a call does to a plan. A handle of another family is turned down before the plan is
asked. -/
def on (plan : Nat) : BenchCall → Option FaultAction
  | rescan k => if k.plan? = some plan then some (.check .rescan none) else none
  | adopt k id => if k.plan? = some plan then some (.check .adopt (some id)) else none
  | abandon k _ (.simulated id) =>
    if k.plan? = some plan then some (.check .abandon (some id)) else none
  | abandon .. => none
  | fault other action => if other = plan then some action else none

def history (plan : Nat) (calls : List BenchCall) : List FaultAction := calls.filterMap (on plan)

theorem history_append (plan : Nat) (calls later : List BenchCall) :
    history plan (calls ++ later) = history plan calls ++ history plan later :=
  List.filterMap_append

end BenchCall

/-! ### Calls as checks -/

def Scenario.decide {α : Type} : Option Scenario → Except Fault α → Except Fault α
  | some cause, _ => .error (.ofText cause.message)
  | none, answer => answer

namespace SimulatedFamily
variable (s : SimulatedFamily) (plan : FaultPlan)

theorem rescan_plan : (s.rescan plan).world.2 = plan.act (.check .rescan none) := by
  rw [rescan, FaultPlan.check_eq]
  cases plan.cause? .rescan none <;> rfl

theorem rescan_answer : (s.rescan plan).answer =
    Scenario.decide (plan.cause? .rescan none) (s.rescan {}).answer := by
  rw [rescan, rescan, FaultPlan.check_eq plan, FaultPlan.check_eq {}, FaultPlan.cause?_empty]
  cases plan.cause? .rescan none <;> rfl

theorem adopt_plan (name : String) (id : DeviceId) :
    (adopt name id s plan).world.2 = plan.act (.check .adopt (some id)) := by
  rw [adopt, FaultPlan.check_eq]
  cases plan.cause? .adopt (some id) with
  | some cause => rfl
  | none =>
    dsimp only
    split
    · rfl
    · split <;> rfl

theorem adopt_answer (name : String) (id : DeviceId) : (adopt name id s plan).answer =
    Scenario.decide (plan.cause? .adopt (some id)) (adopt name id s {}).answer := by
  rw [adopt, adopt, FaultPlan.check_eq plan, FaultPlan.check_eq {}, FaultPlan.cause?_empty]
  cases plan.cause? .adopt (some id) with
  | some cause => rfl
  | none =>
    dsimp only [Scenario.decide]
    split
    · rfl
    · split <;> rfl

theorem abandon_plan (name : String) (info : DeviceInfo) (id : DeviceId) :
    (abandon name info (.simulated id) s plan).world.2 =
      plan.act (.check .abandon (some id)) := by
  rw [abandon, FaultPlan.check_eq]
  cases plan.cause? .abandon (some id) <;> rfl

theorem abandon_answer (name : String) (info : DeviceInfo) (id : DeviceId) :
    (abandon name info (.simulated id) s plan).answer = Scenario.decide
      (plan.cause? .abandon (some id)) (abandon name info (.simulated id) s {}).answer := by
  rw [abandon, abandon, FaultPlan.check_eq plan, FaultPlan.check_eq {}, FaultPlan.cause?_empty]
  cases plan.cause? .abandon (some id) <;> rfl

end SimulatedFamily

namespace Bench
open BenchCall FaultAction
variable (w : Bench) (plan : Nat)

def setPlan (p : FaultPlan) : Bench := { w with plans := w.plans.insert plan p }

def call (w : Bench) : BenchCall → Bench
  | .rescan k => (Bench.rescan k w).world
  | .adopt k id => (Bench.adopt k id w).world
  | .abandon k info handle => (Bench.abandon k info handle w).world
  | .fault plan action => w.setPlan plan ((w.planAt plan).act action)

def run (calls : List BenchCall) : Bench := calls.foldl call w

theorem run_append (calls later : List BenchCall) :
    w.run (calls ++ later) = (w.run calls).run later :=
  List.foldl_append

theorem planAt_setPlan (slot : Nat) (p : FaultPlan) :
    (w.setPlan slot p).planAt plan = if plan = slot then p else w.planAt plan := by
  simp only [planAt, setPlan, SortedMap.get?_insert]
  split <;> rfl

/-! ### The history of a plan -/

/-- Setting one plan to what an action makes of it does that action to it and nothing to the
others. -/
theorem after_ite (slot : Nat) (action : FaultAction) :
    (if plan = slot then (w.planAt slot).act action else w.planAt plan) =
      (w.planAt plan).after (if slot = plan then some action else none).toList := by
  by_cases h : plan = slot
  · subst h
    rw [if_pos rfl, if_pos rfl]
    rfl
  · rw [if_neg h, if_neg (Ne.symm h)]
    rfl

theorem planAt_call (c : BenchCall) :
    (w.call c).planAt plan = (w.planAt plan).after (c.on plan).toList := by
  cases c with
  | rescan k =>
    obtain ⟨name, capacity, family⟩ := k
    cases family with
    | simulated slot other =>
      simp only [call, rescan, planAt_setSimulated, SimulatedFamily.rescan_plan, after_ite, on,
        DeviceClass.plan?, Option.some.injEq]
    | serial | scripted => rfl
  | adopt k id =>
    obtain ⟨name, capacity, family⟩ := k
    cases family with
    | simulated slot other =>
      simp only [call, adopt, planAt_setSimulated, SimulatedFamily.adopt_plan, after_ite, on,
        DeviceClass.plan?, Option.some.injEq]
    | serial | scripted => rfl
  | abandon k info handle =>
    obtain ⟨name, capacity, family⟩ := k
    cases family with
    | simulated slot other =>
      cases handle with
      | simulated id =>
        simp only [call, abandon, planAt_setSimulated, SimulatedFamily.abandon_plan, after_ite, on,
          DeviceClass.plan?, Option.some.injEq]
      | _ =>
        simp only [call, abandon, SimulatedFamily.abandon, planAt_setSimulated, on]
        split
        · rename_i h
          rw [h]
          rfl
        · rfl
    | serial | scripted => cases handle <;> rfl
  | fault other action =>
    rw [call, planAt_setPlan, after_ite, on]

theorem planAt_run (calls : List BenchCall) :
    (w.run calls).planAt plan = (w.planAt plan).after (history plan calls) := by
  induction calls using List.reverseRecOn with
  | nil => rfl
  | append_singleton calls c ih =>
    rw [run_append, history_append, FaultPlan.after_append, ← ih]
    have hlast : history plan [c] = (c.on plan).toList := by
      cases h : c.on plan <;> simp [history, h]
    rw [hlast]
    exact planAt_call (w.run calls) plan c

/-! ### What classes answer -/

def cause? (operation : Operation) (device : Option DeviceId) : Option Scenario :=
  (w.planAt plan).cause? operation device

/-- Whether the classes of a plan answer as a plan without scenarios would have them, apart from
what the plan makes fail. -/
structure FailsByPlan (w : Bench) (plan : Nat) (k : DeviceClass) : Prop where
  rescan : (Bench.rescan k w).answer =
    Scenario.decide (w.cause? plan .rescan none) (Bench.rescan k (w.setPlan plan {})).answer
  adopt : ∀ id, (Bench.adopt k id w).answer =
    Scenario.decide (w.cause? plan .adopt (some id)) (Bench.adopt k id (w.setPlan plan {})).answer
  abandon : ∀ info id, (Bench.abandon k info (.simulated id) w).answer =
    Scenario.decide (w.cause? plan .abandon (some id))
      (Bench.abandon k info (.simulated id) (w.setPlan plan {})).answer

theorem failsByPlan {k : DeviceClass} (hk : k.plan? = some plan) : FailsByPlan w plan k := by
  obtain ⟨name, capacity, family⟩ := k
  obtain ⟨slot, rfl⟩ := DeviceClass.family_of_plan? hk
  have hempty : (w.setPlan plan {}).planAt plan = {} := by rw [planAt_setPlan, if_pos rfl]
  constructor
  · simp only [Bench.rescan, hempty]
    exact SimulatedFamily.rescan_answer _ _
  · intro id
    simp only [Bench.adopt, hempty]
    exact SimulatedFamily.adopt_answer _ _ name id
  · intro info id
    simp only [Bench.abandon, hempty]
    exact SimulatedFamily.abandon_answer _ _ name info id

/-- Whether what a plan makes fail after some calls is what its history says, when it began with
some scenarios in force and nothing counted. -/
structure FaultsTold (w : Bench) (plan : Nat) (start : List Scenario) (calls : List BenchCall)
    (operation : Operation) (device : Option DeviceId) : Prop where
  /-- A check fails if a scenario in force hits it, counted from the last clear. -/
  fails_iff : ((w.run calls).cause? plan operation device).isSome = true ↔
    ∃ s ∈ inForce start (history plan calls),
      s.Hits operation device (checks operation (history plan calls) + 1)
  /-- Of the scenarios that hit it, the one that was put in first is the cause. -/
  earliest : ∀ s, (w.run calls).cause? plan operation device = some s ↔
    ∃ front back, inForce start (history plan calls) = front ++ s :: back ∧
      s.Hits operation device (checks operation (history plan calls) + 1) ∧
      ∀ t ∈ front, ¬ t.Hits operation device (checks operation (history plan calls) + 1)
  /-- Checks of other operations have no bearing on it. -/
  unconcerned : ∀ others, (history plan others).filter (concerns operation) =
      (history plan calls).filter (concerns operation) →
    (w.run others).cause? plan operation device = (w.run calls).cause? plan operation device
  /-- What fails after a number of calls fails until the plan is cleared, on every device. -/
  lasting : ∀ count later, .clear ∉ history plan later →
    checks operation (history plan (calls ++ later)) + 1 < UInt32.size →
    (w.run calls).cause? plan operation device = some (.failAfter operation count) →
    ∀ other, ((w.run (calls ++ later)).cause? plan operation other).isSome = true
  /-- A plan that was cleared is as one that was never used. -/
  cleared : ∀ later, (w.run (calls ++ .fault plan .clear :: later)).planAt plan =
    FaultPlan.after {} (history plan later)
  /-- The classes that share the plan fail by it, whichever of them made the calls. -/
  shared : ∀ k : DeviceClass, k.plan? = some plan → FailsByPlan (w.run calls) plan k

theorem faultsTold {start : List Scenario} (hstart : w.planAt plan = { scenarios := start })
    (calls : List BenchCall) (operation : Operation) (device : Option DeviceId)
    (hfew : checks operation (history plan calls) + 1 < UInt32.size) :
    FaultsTold w plan start calls operation device := by
  have hplan : ∀ calls, (w.run calls).planAt plan =
      FaultPlan.after { scenarios := start } (history plan calls) :=
    fun calls => hstart ▸ w.planAt_run plan calls
  have hrecords := FaultPlan.after_records start (history plan calls)
  have hearliest : ∀ s, (w.run calls).cause? plan operation device = some s ↔ _ :=
    fun s => (hplan calls).symm ▸ hrecords.cause?_eq_some_iff hfew
  constructor
  case fails_iff =>
    rw [cause?, hplan]
    exact hrecords.isSome_cause?_iff hfew
  case earliest => exact hearliest
  case unconcerned =>
    intro others hsame
    rw [cause?, cause?, hplan, hplan]
    exact FaultPlan.cause?_after_congr _ hsame device
  case lasting =>
    intro count later hlater hfew' hcause other
    obtain ⟨front, back, hsplit, hits, -⟩ := (hearliest _).mp hcause
    rw [cause?, hplan, history_append]
    rw [history_append] at hfew'
    refine FaultPlan.isSome_cause?_later ?_ hits hlater hfew' other
    rw [hsplit]
    exact List.mem_append_right front List.mem_cons_self
  case cleared =>
    intro later
    rw [hplan, history_append, FaultPlan.after_append]
    have hclear : history plan (.fault plan .clear :: later) = .clear :: history plan later := by
      rw [history, List.filterMap_cons_some]
      · rfl
      · exact if_pos rfl
    rw [hclear]
    rfl
  case shared => exact fun k hk => failsByPlan _ plan hk

/-- Two classes share a plan by which every scan but the first fails. Once the first class was
scanned, a scan of the second fails. -/
theorem faultsTold_two_classes :
    let start := [Scenario.failAfter .rescan 1]
    let w := ({} : Bench).setPlan 0 { scenarios := start }
    let phones : DeviceClass := { name := "phones", family := .simulated 0 0 }
    let tablets : DeviceClass := { name := "tablets", family := .simulated 1 0 }
    FaultsTold w 0 start [.rescan phones] .rescan none ∧
      (rescan tablets (w.run [.rescan phones])).answer =
        .error (.ofText "injected rescan failure after 1 operations") := by
  intro start w phones tablets
  have hstart : w.planAt 0 = { scenarios := start } := by rw [planAt_setPlan, if_pos rfl]
  have told : FaultsTold w 0 start [.rescan phones] .rescan none :=
    w.faultsTold 0 hstart _ _ _ (by decide)
  have hcause : (w.run [.rescan phones]).cause? 0 .rescan none = some (.failAfter .rescan 1) :=
    (told.earliest _).mpr ⟨[], [], rfl, .failAfter (by decide), nofun⟩
  refine ⟨told, ?_⟩
  rw [(told.shared tablets rfl).rescan, hcause]
  rfl

end Bench

end LeaseBroker
