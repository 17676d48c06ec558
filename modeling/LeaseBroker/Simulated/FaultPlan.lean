import LeaseBroker.Device.Info

/-!
# Fault plans

A fault plan makes calls of a simulated family fail. It counts the calls of each operation, failed
ones included, and of the scenarios that apply to a call the one that was put in first decides. The
counts have 32 bits and start again from zero when they are full.
-/

set_option autoImplicit false

namespace LeaseBroker

inductive Operation where
  | rescan
  | adopt
  | abandon
  deriving DecidableEq

def Operation.name : Operation → String
  | rescan => "rescan"
  | adopt => "adopt"
  | abandon => "abandon"

inductive Scenario where
  | always (operation : Operation)
  | failAfter (operation : Operation) (count : Nat)
  | adoptDevice (id : DeviceId)
  deriving DecidableEq

namespace Scenario

/-- Whether the scenario makes a call fail, when it is call number `call` of its operation. -/
def applies (operation : Operation) (device : Option DeviceId) (call : Nat) : Scenario → Bool
  | always op => op = operation
  | failAfter op count => op = operation ∧ count < call
  | adoptDevice id => operation = .adopt ∧ device = some id

def message : Scenario → String
  | always op => s!"injected {op.name} failure"
  | failAfter op count => s!"injected {op.name} failure after {count} operations"
  | adoptDevice id => s!"permission denied opening \"{id}\""

end Scenario

structure Tally where
  rescan : UInt32 := 0
  adopt : UInt32 := 0
  abandon : UInt32 := 0
  deriving DecidableEq

namespace Tally

def get (t : Tally) : Operation → UInt32
  | .rescan => t.rescan
  | .adopt => t.adopt
  | .abandon => t.abandon

def bump (t : Tally) : Operation → Tally
  | .rescan => { t with rescan := t.rescan + 1 }
  | .adopt => { t with adopt := t.adopt + 1 }
  | .abandon => { t with abandon := t.abandon + 1 }

end Tally

/-- The scenarios in force, in the order in which they were put in, and the calls so far. -/
structure FaultPlan where
  scenarios : List Scenario := []
  calls : Tally := {}
  deriving DecidableEq

namespace FaultPlan

def inject (plan : FaultPlan) (scenario : Scenario) : FaultPlan :=
  { plan with scenarios := plan.scenarios ++ [scenario] }

def clear (_ : FaultPlan) : FaultPlan := {}

def check (plan : FaultPlan) (operation : Operation) (device : Option DeviceId) :
    Option Scenario × FaultPlan :=
  let calls := plan.calls.bump operation
  let call := (calls.get operation).toNat
  (plan.scenarios.find? (·.applies operation device call), { plan with calls })

end FaultPlan

end LeaseBroker
