import LeaseBroker.Bench
import LeaseBroker.Broker.Reconcile
import LeaseBroker.Settings.Basic

/-!
# From settings to a broker

Every class of the settings gets the slot of its number on a bench and is registered in order. No
device is looked for yet.
-/

set_option autoImplicit false

namespace LeaseBroker.Settings

def deviceClass (slot : Nat) : ClassSettings → DeviceClass
  | .simulated s => ⟨s.name, s.capacity, .simulated slot slot⟩
  | .serial s => ⟨s.name, s.capacity, .serial slot s.directory⟩

def equip (w : Bench) (slot : Nat) : ClassSettings → Bench
  | .simulated s => w.setSimulated slot slot (SimulatedFamily.ofDevices s.devices) {}
  | .serial _ => w.setAdopted slot ∅

/-- Registers classes, the first of which gets the slot. -/
def registerFrom (slot : Nat) (b : Broker Bench DeviceClass Handle) :
    List ClassSettings → Broker Bench DeviceClass Handle
  | [] => b
  | c :: rest =>
    let b := { b with world := equip b.world slot c }
    registerFrom (slot + 1) (b.register Bench.classes (deviceClass slot c)) rest

def build (s : Settings) (directories : SortedMap String LinkDirectory) :
    Broker Bench DeviceClass Handle :=
  let start := Broker.start { directories } (.ofMembers s.broker.allow s.broker.deny)
  (registerFrom 0 start s.classes).note
    (.configured s.classes.length s.broker.allow.length s.broker.deny.length)

end LeaseBroker.Settings
