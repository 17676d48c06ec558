import LeaseBroker.Collections.SortedMap
import LeaseBroker.Settings.Basic
import LeaseBroker.Text.Unicode.LowerCase

/-!
# Checking settings

Settings that can be read may still make no sense together. The level and the format of the log are
checked first, then the names of the classes, then the two lists. The level may be named in capital
letters, the format may not.
-/

set_option autoImplicit false

namespace LeaseBroker

inductive SettingsFault where
  | logLevel (level : String)
  | logFormat (format : String)
  | duplicateClass (name : String)
  | listedTwice (device : DeviceId)
  deriving DecidableEq

def SettingsFault.reason : SettingsFault → String
  | logLevel level =>
    s!"Invalid log_level '{level}'. Must be one of: trace, debug, info, warn, error"
  | logFormat format => s!"Invalid log_format '{format}'. Must be one of: pretty, compact, json"
  | duplicateClass name => s!"Duplicate class name: {name}"
  | listedTwice device => s!"Device '{device}' is on both the allowlist and the denylist"

def SettingsFault.message (f : SettingsFault) : String := "invalid configuration: " ++ f.reason

/-- The first member of a list that also stands further ahead in it. -/
def firstRepeated? (seen : SortedSet String) : List String → Option String
  | [] => none
  | name :: rest => if seen.contains name then some name else firstRepeated? (seen.add name) rest

namespace Settings

def levelNames : List String := ["trace", "debug", "info", "warn", "error"]

def formatNames : List String := ["pretty", "compact", "json"]

def duplicateClass? (s : Settings) : Option String :=
  firstRepeated? ∅ (s.classes.map ClassSettings.name)

def listedTwice? (s : Settings) : Option DeviceId :=
  let denied := SortedSet.ofList s.broker.deny
  s.broker.allow.find? denied.contains

def check (s : Settings) : Except SettingsFault Unit :=
  if !levelNames.contains (Unicode.lowercase s.application.logLevel) then
    .error (.logLevel s.application.logLevel)
  else if !formatNames.contains s.application.logFormat then
    .error (.logFormat s.application.logFormat)
  else match s.duplicateClass? with
    | some name => .error (.duplicateClass name)
    | none =>
      match s.listedTwice? with
      | some id => .error (.listedTwice id)
      | none => .ok ()

end Settings

end LeaseBroker
