import LeaseBroker.Device.Info

/-!
# The lease ledger

Who holds what. Every acquirer has a stack for each device that it holds, with the beginnings of
its outstanding leases, the oldest at the bottom. A stack that runs empty is dropped, and so is an
acquirer without a stack.
-/

set_option autoImplicit false

namespace LeaseBroker

/-- The name that leases are taken under; the empty name is the anonymous acquirer. -/
abbrev Acquirer := String

/-- A moment, in milliseconds since the clock started. -/
abbrev Moment := Nat

structure Holding where
  acquirer : Acquirer
  device : DeviceId
  deriving DecidableEq, Inhabited, Repr

abbrev Stacks := SortedMap DeviceId (List Moment)

structure Ledger where
  held : SortedMap Acquirer Stacks := ∅
  deriving Inhabited

namespace Ledger

def heldBy (ledger : Ledger) (acquirer : Acquirer) : Stacks :=
  (ledger.held.get? acquirer).getD ∅

def since (ledger : Ledger) (acquirer : Acquirer) (device : DeviceId) : List Moment :=
  ((ledger.heldBy acquirer).get? device).getD []

def count (ledger : Ledger) (acquirer : Acquirer) (device : DeviceId) : Nat :=
  (ledger.since acquirer device).length

/-- Replaces a stack, and drops what is empty then. -/
def setStack (ledger : Ledger) (acquirer : Acquirer) (device : DeviceId) (stack : List Moment) :
    Ledger :=
  let devices := (ledger.heldBy acquirer).set device ((some stack).filter (!·.isEmpty))
  ⟨ledger.held.set acquirer ((some devices).filter (!·.isEmpty))⟩

def record (ledger : Ledger) (acquirer : Acquirer) (device : DeviceId) (now : Moment) : Ledger :=
  let stack := ledger.since acquirer device ++ [now]
  ⟨ledger.held.insert acquirer ((ledger.heldBy acquirer).insert device stack)⟩

def pop (ledger : Ledger) (acquirer : Acquirer) (device : DeviceId) : Option Moment × Ledger :=
  match ledger.held.get? acquirer with
  | none => (none, ledger)
  | some devices =>
    match devices.get? device with
    | none => (none, ledger)
    | some stack => (stack.getLast?, ledger.setStack acquirer device stack.dropLast)

/-- The first acquirer in name order with a stack for a device. -/
def holderOf? (ledger : Ledger) (device : DeviceId) : Option Acquirer :=
  (ledger.held.toList.find? fun row => row.2.contains device).map (·.1)

def holdings (ledger : Ledger) (acquirer : Acquirer) : List DeviceId :=
  (ledger.heldBy acquirer).toList.flatMap fun row => List.replicate row.2.length row.1

def acquirers (ledger : Ledger) : List Acquirer := ledger.held.keys

def acquisitions (ledger : Ledger) : List (Holding × List Moment) :=
  ledger.held.toList.flatMap fun row => row.2.toList.map fun stack =>
    (⟨row.1, stack.1⟩, stack.2)

end Ledger

end LeaseBroker
