import LeaseBroker.Json.Basic
import LeaseBroker.Settings.Basic

/-!
# Writing settings

Settings as JSON values, in the form in which they are read.
-/

set_option autoImplicit false

namespace LeaseBroker

def Json.ofTexts (texts : List String) : Json := .array (texts.map .string)

def DeviceInfo.toJson (i : DeviceInfo) : Json :=
  .object [("id", .string i.id), ("type", .string i.kind), ("sw", .string i.software),
    ("hw", .string i.hardware), ("display", .string i.display)]

def ApplicationSettings.toJson (s : ApplicationSettings) : Json :=
  .object [("name", .string s.name), ("log_level", .string s.logLevel),
    ("log_format", .string s.logFormat)]

def BrokerSettings.toJson (s : BrokerSettings) : Json :=
  .object [("rescan_interval_secs", .whole s.rescanInterval), ("allowlist", .ofTexts s.allow),
    ("denylist", .ofTexts s.deny)]

/-- The members of a class of simulated devices apart from its kind. -/
def SimulatedSettings.members (s : SimulatedSettings) : List (String × Json) :=
  [("name", .string s.name), ("capacity", .whole s.capacity.toInt),
    ("devices", .array (s.devices.map DeviceInfo.toJson))]

/-- The members of a class of serial adapters apart from its kind. -/
def SerialSettings.members (s : SerialSettings) : List (String × Json) :=
  [("name", .string s.name), ("dir", .string s.directory), ("capacity", .whole s.capacity.toInt)]

def ClassSettings.toJson (s : ClassSettings) : Json :=
  .object <| ("kind", .string s.kind) :: match s with
    | .simulated s => s.members
    | .serial s => s.members

def Settings.toJson (s : Settings) : Json :=
  .object [("application", s.application.toJson), ("broker", s.broker.toJson),
    ("classes", .array (s.classes.map ClassSettings.toJson))]

end LeaseBroker
