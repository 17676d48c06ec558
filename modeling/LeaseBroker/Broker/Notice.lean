import LeaseBroker.Device.Capacity
import LeaseBroker.Broker.Ledger
import LeaseBroker.Text.Quoted

/-!
# What the broker logs

Every event by cause, with its level, its message and its fields. How a line is laid out is the
business of whoever prints it.
-/

set_option autoImplicit false

namespace LeaseBroker

inductive Severity where
  | trace
  | debug
  | info
  | warn
  | error

def Severity.name : Severity → String
  | trace => "TRACE"
  | debug => "DEBUG"
  | info => "INFO"
  | warn => "WARN"
  | error => "ERROR"

inductive Notice.Value where
  | text (s : String)
  | number (n : Int)
  | flag (b : Bool)

/-- An event worth a line in the log. Plugins are named by the class that they are. -/
inductive Notice where
  | classRegistered (plugin : String) (capacity : Capacity)
  | configured (classes allowSize denySize : Nat)
  | scanFailed (plugin error : String)
  | reportedTwice (device : DeviceId) (plugin previous : String)
  | kept (device : DeviceId)
  | found (device : DeviceId) (plugin : String)
  | connectFailed (device : DeviceId) (plugin error : String)
  | forgot (device : DeviceId)
  | forgetFailed (device : DeviceId) (error : String)
  | scanned (new old gone failed : Nat)
  | setChanged (new gone : List DeviceId) (total : Nat)
  | loopStopped (passes : Nat)
  | abandonFailed (device : DeviceId) (plugin error : String)
  | added (device : DeviceId)
  | removed (device : DeviceId) (force : Bool)
  | droppedOnReset (device : DeviceId) (leases : Nat)
  | acquired (device : DeviceId) (acquirer : Acquirer) (waited : Nat)
  | released (device : DeviceId) (acquirer : Acquirer) (held : Int)
  | blocked (acquirer : Acquirer)
  | gaveUp (acquirer : Acquirer)
  | denied (device : DeviceId)
  | undenied (device : DeviceId)
  | allowed (device : DeviceId)
  | unallowed (device : DeviceId)
  | simulatedAdopted (plugin : String) (device : DeviceId)
  | simulatedAbandoned (plugin : String) (device : DeviceId)
  | serialAdopted (plugin : String) (device : DeviceId) (path : String)
  | directoryMissing (plugin directory : String)

namespace Notice

def severity : Notice → Severity
  | classRegistered .. | configured .. | found .. | forgot .. | setChanged .. | loopStopped ..
  | added .. | removed .. | acquired .. | released .. | denied .. | undenied .. | allowed ..
  | unallowed .. | serialAdopted .. => .info
  | kept .. | scanned .. | blocked .. | gaveUp .. | simulatedAdopted .. | simulatedAbandoned ..
  | directoryMissing .. => .debug
  | reportedTwice .. | connectFailed .. | forgetFailed .. | abandonFailed ..
  | droppedOnReset .. => .warn
  | scanFailed .. => .error

def message : Notice → String
  | classRegistered .. => "device class registered"
  | configured .. => "broker configured"
  | scanFailed .. => "rescan failed"
  | reportedTwice .. => "device reported by more than one class"
  | kept .. => "rescan kept"
  | found .. => "rescan found"
  | connectFailed .. => "rescan found but failed connecting"
  | forgot .. => "rescan forgot"
  | forgetFailed .. => "failed to forget device"
  | scanned .. => "rescan complete"
  | setChanged .. => "device set changed"
  | loopStopped .. => "rescan loop stopped"
  | abandonFailed .. => "abandon failed"
  | added .. => "device added"
  | removed .. => "device removed"
  | droppedOnReset .. => "dropping leased device on reset"
  | acquired .. => "device acquired"
  | released .. => "device released"
  | blocked .. => "acquire blocked"
  | gaveUp .. => "acquire cancelled"
  | denied .. => "denylisted"
  | undenied .. => "removed from denylist"
  | allowed .. => "allowlisted"
  | unallowed .. => "removed from allowlist"
  | simulatedAdopted .. => "mock device adopted"
  | simulatedAbandoned .. => "mock device abandoned"
  | serialAdopted .. => "serial adapter adopted"
  | directoryMissing .. => "by-id directory not available"

def fields : Notice → List (String × Value)
  | classRegistered plugin capacity => [("plugin", .text plugin), ("capacity", .text capacity.text)]
  | configured classes allowSize denySize =>
    [("classes", .number classes), ("allowlist", .number allowSize), ("denylist", .number denySize)]
  | scanFailed plugin error => [("plugin", .text plugin), ("error", .text error)]
  | reportedTwice device plugin previous =>
    [("device", .text device), ("plugin", .text plugin), ("previous", .text previous)]
  | kept device | forgot device | added device | denied device | undenied device
  | allowed device | unallowed device => [("device", .text device)]
  | found device plugin => [("device", .text device), ("plugin", .text plugin)]
  | connectFailed device plugin error | abandonFailed device plugin error =>
    [("device", .text device), ("plugin", .text plugin), ("error", .text error)]
  | forgetFailed device error => [("device", .text device), ("error", .text error)]
  | scanned new old gone failed =>
    [("found", .number new), ("kept", .number old), ("forgot", .number gone),
      ("failed", .number failed)]
  | setChanged new gone total =>
    [("found", .text (Text.quotedList new)), ("forgot", .text (Text.quotedList gone)),
      ("total", .number total)]
  | loopStopped passes => [("passes", .number passes)]
  | removed device force => [("device", .text device), ("force", .flag force)]
  | droppedOnReset device leases => [("device", .text device), ("leases", .number leases)]
  | acquired device acquirer waited =>
    [("device", .text device), ("acquirer", .text acquirer), ("waited_ms", .number waited)]
  | released device acquirer held =>
    [("device", .text device), ("acquirer", .text acquirer), ("held_ms", .number held)]
  | blocked acquirer | gaveUp acquirer => [("acquirer", .text acquirer)]
  | simulatedAdopted plugin device | simulatedAbandoned plugin device =>
    [("plugin", .text plugin), ("device", .text device)]
  | serialAdopted plugin device path =>
    [("plugin", .text plugin), ("device", .text device), ("path", .text path)]
  | directoryMissing plugin directory => [("plugin", .text plugin), ("dir", .text directory)]

end Notice

end LeaseBroker
