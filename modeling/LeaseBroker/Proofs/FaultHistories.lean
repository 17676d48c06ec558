import LeaseBroker.Simulated.FaultPlan
import Mathlib.Data.List.DropRight

/-!
# Fault plans and their histories

What a check answers can be told from what was done to the plan before. The scenarios in force are
those that were put in since the plan was last cleared, and those that it began with if it never
was. Calls are counted from there on as well, whatever came of them. The counts are right as long as
there are no more calls than 32 bits can count.
-/

set_option autoImplicit false

namespace LeaseBroker

inductive FaultAction where
  | inject (scenario : Scenario)
  | clear
  | check (operation : Operation) (device : Option DeviceId)
  deriving DecidableEq

namespace FaultAction

def injected? : FaultAction → Option Scenario
  | inject scenario => some scenario
  | _ => none

def isCheckOf (operation : Operation) : FaultAction → Bool
  | check op _ => op = operation
  | _ => false

/-- Whether an action can have a bearing on the checks of an operation. -/
def concerns (operation : Operation) : FaultAction → Bool
  | check op _ => op = operation
  | _ => true

/-! ### Histories -/

def sinceClear (history : List FaultAction) : List FaultAction := history.rtakeWhile (· ≠ clear)

def inForce (start : List Scenario) (history : List FaultAction) : List Scenario :=
  (if clear ∈ history then [] else start) ++ (sinceClear history).filterMap injected?

def checks (operation : Operation) (history : List FaultAction) : Nat :=
  (sinceClear history).countP (isCheckOf operation)

variable (start : List Scenario) (history : List FaultAction) {later : List FaultAction}
  {operation : Operation}

theorem inForce_clear : inForce start (history ++ [clear]) = [] := by
  simp [inForce, sinceClear]

theorem checks_clear : checks operation (history ++ [clear]) = 0 := by
  simp [checks, sinceClear]

theorem sinceClear_concat {action : FaultAction} (h : action ≠ clear) :
    sinceClear (history ++ [action]) = sinceClear history ++ [action] := by
  simp [sinceClear, h]

theorem sinceClear_append (h : clear ∉ later) :
    sinceClear (history ++ later) = sinceClear history ++ later := by
  induction later using List.reverseRecOn with
  | nil => simp
  | append_singleton later action ih =>
    simp only [List.mem_append, List.mem_singleton, not_or] at h
    rw [← List.append_assoc, sinceClear_concat _ (Ne.symm h.2), ih h.1, List.append_assoc]

theorem inForce_append (h : clear ∉ later) : inForce start (history ++ later) =
    inForce start history ++ later.filterMap injected? := by
  simp [inForce, sinceClear_append history h, h]

theorem checks_append (h : clear ∉ later) : checks operation (history ++ later) =
    checks operation history + later.countP (isCheckOf operation) := by
  rw [checks, sinceClear_append history h, List.countP_append]
  rfl

end FaultAction

/-! ### Scenarios -/

/-- Which calls a scenario makes fail, when they are counted for each operation. -/
inductive Scenario.Hits (operation : Operation) (device : Option DeviceId) (call : Nat) :
    Scenario → Prop where
  | always : Hits operation device call (.always operation)
  | failAfter {count : Nat} (late : count < call) :
    Hits operation device call (.failAfter operation count)
  | adoptDevice {id : DeviceId} (adopts : operation = .adopt) (target : device = some id) :
    Hits operation device call (.adoptDevice id)

theorem Scenario.applies_iff {operation : Operation} {device : Option DeviceId} {call : Nat}
    {s : Scenario} : s.applies operation device call = true ↔ s.Hits operation device call := by
  constructor
  · intro h
    cases s with
    | always op =>
      obtain rfl : op = operation := by simpa [applies] using h
      exact .always
    | failAfter op count =>
      obtain ⟨rfl, late⟩ : op = operation ∧ count < call := by simpa [applies] using h
      exact .failAfter late
    | adoptDevice id =>
      obtain ⟨adopts, target⟩ : operation = .adopt ∧ device = some id := by
        simpa [applies] using h
      exact .adoptDevice adopts target
  · rintro (_ | late | ⟨adopts, target⟩)
    · simp [applies]
    · simp [applies, late]
    · simp [applies, adopts, target]

theorem Scenario.Hits.mono {operation : Operation} {device : Option DeviceId} {call more : Nat}
    {count : Nat} {device' : Option DeviceId}
    (h : (Scenario.failAfter operation count).Hits operation device call) (hle : call ≤ more) :
    (Scenario.failAfter operation count).Hits operation device' more := by
  cases h with
  | failAfter late => exact .failAfter (Nat.lt_of_lt_of_le late hle)

/-! ### Plans -/

namespace Tally
variable (t : Tally) {operation other : Operation}

theorem get_bump_self : (t.bump operation).get operation = t.get operation + 1 := by
  cases operation <;> rfl

theorem get_bump_of_ne (h : other ≠ operation) : (t.bump other).get operation = t.get operation := by
  cases other <;> cases operation <;> first | rfl | exact absurd rfl h

end Tally

namespace FaultPlan
open FaultAction
variable {plan plan' : FaultPlan} {operation : Operation} {device : Option DeviceId}

/-- Which scenario makes a check fail, if one does. -/
def cause? (plan : FaultPlan) (operation : Operation) (device : Option DeviceId) :
    Option Scenario :=
  (plan.check operation device).1

def act (plan : FaultPlan) : FaultAction → FaultPlan
  | .inject scenario => plan.inject scenario
  | .clear => plan.clear
  | .check operation device => (plan.check operation device).2

theorem check_eq (plan : FaultPlan) (operation : Operation) (device : Option DeviceId) :
    plan.check operation device =
      (plan.cause? operation device, plan.act (.check operation device)) :=
  rfl

theorem cause?_empty (operation : Operation) (device : Option DeviceId) :
    ({} : FaultPlan).cause? operation device = none :=
  rfl

def after (plan : FaultPlan) (history : List FaultAction) : FaultPlan := history.foldl act plan

theorem after_append (plan : FaultPlan) (history later : List FaultAction) :
    plan.after (history ++ later) = (plan.after history).after later :=
  List.foldl_append

structure Records (start : List Scenario) (history : List FaultAction) (plan : FaultPlan) :
    Prop where
  scenarios : plan.scenarios = inForce start history
  calls : ∀ operation, plan.calls.get operation = UInt32.ofNat (checks operation history)

theorem Records.act {start : List Scenario} {history : List FaultAction}
    (h : Records start history plan) (action : FaultAction) :
    Records start (history ++ [action]) (plan.act action) := by
  cases action with
  | inject scenario =>
    refine ⟨?_, fun operation => ?_⟩
    · rw [inForce_append start history (by simp), ← h.scenarios]
      rfl
    · rw [checks_append history (by simp)]
      exact h.calls operation
  | clear =>
    refine ⟨(inForce_clear start history).symm, fun operation => ?_⟩
    rw [checks_clear]
    cases operation <;> rfl
  | check op device =>
    refine ⟨?_, fun operation => ?_⟩
    · rw [inForce_append start history (by simp), ← h.scenarios]
      exact (List.append_nil _).symm
    · rw [checks_append history (by simp), List.countP_singleton]
      change (plan.calls.bump op).get operation = _
      by_cases hop : op = operation
      · subst hop
        rw [Tally.get_bump_self, h.calls, isCheckOf, decide_eq_true rfl, if_pos rfl,
          UInt32.ofNat_add]
        rfl
      · rw [Tally.get_bump_of_ne _ hop, h.calls]
        simp [isCheckOf, hop]

theorem after_records (start : List Scenario) (history : List FaultAction) :
    Records start history (after { scenarios := start } history) := by
  induction history using List.reverseRecOn with
  | nil =>
    refine ⟨(List.append_nil _).symm, fun operation => ?_⟩
    cases operation <;> rfl
  | append_singleton history action ih =>
    rw [after_append]
    exact ih.act action

/-- The check looks through the scenarios in force with the number that the call has. -/
theorem Records.cause?_eq {start : List Scenario} {history : List FaultAction}
    (h : Records start history plan) (hfew : checks operation history + 1 < UInt32.size) :
    plan.cause? operation device = (inForce start history).find?
      (·.applies operation device (checks operation history + 1)) := by
  have hcall : ((plan.calls.bump operation).get operation).toNat =
      checks operation history + 1 := by
    rw [Tally.get_bump_self, h.calls, ← UInt32.ofNat_one, ← UInt32.ofNat_add]
    exact UInt32.toNat_ofNat_of_lt' hfew
  simp only [cause?, check, hcall, h.scenarios]

section
variable {start : List Scenario} {history : List FaultAction} (h : Records start history plan)
  (hfew : checks operation history + 1 < UInt32.size)
include h hfew

theorem Records.isSome_cause?_iff : (plan.cause? operation device).isSome = true ↔
    ∃ s ∈ inForce start history, s.Hits operation device (checks operation history + 1) := by
  simp only [h.cause?_eq hfew, List.find?_isSome, Scenario.applies_iff]

theorem Records.cause?_eq_some_iff {s : Scenario} : plan.cause? operation device = some s ↔
    ∃ front back, inForce start history = front ++ s :: back ∧
      s.Hits operation device (checks operation history + 1) ∧
      ∀ t ∈ front, ¬ t.Hits operation device (checks operation history + 1) := by
  rw [h.cause?_eq hfew, List.find?_eq_some_iff_append]
  simp only [Scenario.applies_iff, Bool.not_eq_true', Bool.eq_false_iff, ne_eq]
  constructor
  · rintro ⟨hits, front, back, hsplit, hfront⟩
    exact ⟨front, back, hsplit, hits, hfront⟩
  · rintro ⟨front, back, hsplit, hits, hfront⟩
    exact ⟨hits, front, back, hsplit, hfront⟩

end

/-- Once a scenario has seen enough calls of its operation, every call fails until the plan is
cleared. -/
theorem isSome_cause?_later {start : List Scenario} {history later : List FaultAction}
    {count : Nat} (hmem : .failAfter operation count ∈ inForce start history)
    (hits : (Scenario.failAfter operation count).Hits operation device
      (checks operation history + 1)) (hlater : .clear ∉ later)
    (hfew : checks operation (history ++ later) + 1 < UInt32.size)
    (other : Option DeviceId) :
    ((after { scenarios := start } (history ++ later)).cause? operation other).isSome = true := by
  refine ((after_records start _).isSome_cause?_iff hfew).mpr ⟨_, ?_, hits.mono ?_⟩
  · rw [inForce_append start history hlater]
    exact List.mem_append_left _ hmem
  · rw [checks_append history hlater]
    omega

/-! ### Checks of other operations -/

/-- Whether two plans are the same for the checks of an operation. -/
structure Agree (operation : Operation) (plan plan' : FaultPlan) : Prop where
  scenarios : plan.scenarios = plan'.scenarios
  calls : plan.calls.get operation = plan'.calls.get operation

namespace Agree

theorem refl (operation : Operation) (plan : FaultPlan) : Agree operation plan plan := ⟨rfl, rfl⟩

theorem symm (h : Agree operation plan plan') : Agree operation plan' plan :=
  ⟨h.scenarios.symm, h.calls.symm⟩

theorem trans {plan'' : FaultPlan} (h : Agree operation plan plan')
    (h' : Agree operation plan' plan'') : Agree operation plan plan'' :=
  ⟨h.scenarios.trans h'.scenarios, h.calls.trans h'.calls⟩

theorem cause?_eq (h : Agree operation plan plan') (device : Option DeviceId) :
    plan.cause? operation device = plan'.cause? operation device := by
  simp only [cause?, check, Tally.get_bump_self, h.calls, h.scenarios]

theorem act (h : Agree operation plan plan') (action : FaultAction) :
    Agree operation (plan.act action) (plan'.act action) := by
  cases action with
  | inject scenario => exact ⟨congrArg (· ++ [scenario]) h.scenarios, h.calls⟩
  | clear => exact .refl operation {}
  | check op device =>
    refine ⟨h.scenarios, ?_⟩
    change (plan.calls.bump op).get operation = (plan'.calls.bump op).get operation
    by_cases hop : op = operation
    · subst hop
      rw [Tally.get_bump_self, Tally.get_bump_self, h.calls]
    · rw [Tally.get_bump_of_ne _ hop, Tally.get_bump_of_ne _ hop, h.calls]

theorem act_left (h : Agree operation plan plan') {action : FaultAction}
    (hother : action.concerns operation = false) : Agree operation (plan.act action) plan' := by
  cases action with
  | inject | clear => cases hother
  | check op device =>
    have hop : op ≠ operation := by simpa [concerns] using hother
    refine ⟨h.scenarios, ?_⟩
    exact (Tally.get_bump_of_ne plan.calls hop).trans h.calls

/-- All checks of other operations can be left out of a history. -/
theorem after_filter (h : Agree operation plan plan') (history : List FaultAction) :
    Agree operation (plan.after history) (plan'.after (history.filter (concerns operation))) := by
  induction history generalizing plan plan' with
  | nil => exact h
  | cons action rest ih =>
    cases hconcerns : action.concerns operation with
    | true =>
      rw [List.filter_cons_of_pos hconcerns]
      exact ih (h.act action)
    | false =>
      rw [List.filter_cons_of_neg (Bool.eq_false_iff.mp hconcerns)]
      exact ih (h.act_left hconcerns)

end Agree

theorem cause?_after_congr (plan : FaultPlan) {history other : List FaultAction}
    (h : history.filter (concerns operation) = other.filter (concerns operation))
    (device : Option DeviceId) : (plan.after history).cause? operation device =
      (plan.after other).cause? operation device := by
  have hhistory := Agree.after_filter (.refl operation plan) history
  have hother := Agree.after_filter (.refl operation plan) other
  rw [← h] at hother
  exact (hhistory.trans hother.symm).cause?_eq device

end FaultPlan

end LeaseBroker
