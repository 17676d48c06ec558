import LeaseBroker.Broker.Notice
import LeaseBroker.Device.Info

/-!
# Device classes as the broker sees them

A device class tells which devices of its kind are there, takes ownership of one and gives it
back. Classes act on a world of their own, which is a value here: every call takes the world and
answers with the world after it. The broker never looks into that world or into a handle.
-/

set_option autoImplicit false

namespace LeaseBroker

/-- What a call of a class comes to: its answer, the world after it and what it logged. -/
structure Reply (W α : Type) where
  answer : Except Fault α
  world : W
  notices : List Notice := []

/-- How device classes behave. `K` names the classes, `W` is the world that they act on and `H`
are the handles that they give out. -/
structure DeviceClasses (W K H : Type) where
  name : K → String
  capacity : W → K → Capacity
  methods : K → List Method
  rescan : K → W → Reply W (List DeviceId)
  adopt : K → DeviceId → W → Reply W (H × DeviceInfo)
  abandon : K → DeviceInfo → H → W → Reply W Unit

end LeaseBroker
