import LeaseBroker.Device.Capacity
import LeaseBroker.Device.Info

/-!
# Settings

What can be set: how the program calls itself and what it logs, which devices it tracks and how
often it looks for them, and which classes there are. All that is not set has a default.
-/

set_option autoImplicit false

namespace LeaseBroker

structure ApplicationSettings where
  name : String := "devpool"
  logLevel : String := "info"
  logFormat : String := "pretty"
  deriving DecidableEq

/-- The settings of the broker. The interval between rescans is counted in seconds. -/
structure BrokerSettings where
  rescanInterval : Nat := 5
  allow : List DeviceId := []
  deny : List DeviceId := []
  deriving DecidableEq

/-- The time from one rescan to the next, in milliseconds. -/
def BrokerSettings.period (s : BrokerSettings) : Nat := 1000 * s.rescanInterval

/-- A class of simulated devices, all of which are plugged in at the start. -/
structure SimulatedSettings where
  name : String
  capacity : Capacity := .exclusive
  devices : List DeviceInfo := []
  deriving DecidableEq

structure SerialSettings where
  name : String := "serial_by_id"
  directory : String := "/dev/serial/by-id"
  capacity : Capacity := .exclusive
  deriving DecidableEq

inductive ClassSettings where
  | simulated (s : SimulatedSettings)
  | serial (s : SerialSettings)
  deriving DecidableEq

namespace ClassSettings

def name : ClassSettings → String
  | simulated s => s.name
  | serial s => s.name

def kind : ClassSettings → String
  | simulated _ => "mock"
  | serial _ => "serial_by_id"

end ClassSettings

/-- All settings. Classes are listed in the order in which they are registered. -/
structure Settings where
  application : ApplicationSettings := {}
  broker : BrokerSettings := {}
  classes : List ClassSettings := []
  deriving DecidableEq

end LeaseBroker
