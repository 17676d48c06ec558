import LeaseBroker.Broker.Notice
import LeaseBroker.Settings.Basic
import LeaseBroker.Text.Numeral
import LeaseBroker.Text.Unicode.LowerCase

/-!
# Log settings

A log level is named in any case of its ASCII letters, or numbered from 1, the gravest, to 5. A log
format is what the text names when it is written in small letters.
-/

set_option autoImplicit false

namespace LeaseBroker

inductive LogFormat where
  | pretty
  | compact
  | json
  deriving DecidableEq

namespace LogFormat

def name : LogFormat → String
  | pretty => "pretty"
  | compact => "compact"
  | json => "json"

def ofName? (name : String) : Option LogFormat :=
  match Unicode.lowercase name with
  | "pretty" => some pretty
  | "compact" => some compact
  | "json" => some json
  | _ => none

end LogFormat

def Severity.ofName? (name : String) : Option Severity :=
  match name.toLower with
  | "trace" => some trace
  | "debug" => some debug
  | "info" => some info
  | "warn" => some warn
  | "error" => some error
  | _ => none

def Severity.ofNumber? : Nat → Option Severity
  | 1 => some error
  | 2 => some warn
  | 3 => some info
  | 4 => some debug
  | 5 => some trace
  | _ => none

def Severity.ofText? (s : String) : Option Severity :=
  ((Text.unsigned? s).bind Severity.ofNumber?) <|> Severity.ofName? s

/-- Why log settings cannot be used. -/
inductive LogFault where
  | unknownLevel (level : String)
  | unknownFormat (format : String)

def LogFault.message : LogFault → String
  | unknownLevel level => s!"unknown log level '{level}'"
  | unknownFormat format =>
    s!"unknown log format '{format}' (expected pretty, compact or json)"

def LogFormat.ofText (s : String) : Except LogFault LogFormat :=
  match LogFormat.ofName? s with
  | some f => .ok f
  | none => .error (.unknownFormat s)

/-- What is logged and how. -/
structure LogSettings where
  level : Severity
  format : LogFormat

namespace LogSettings

def coloured (s : LogSettings) : Bool := s.format = .pretty

def ofSettings (s : Settings) : Except LogFault LogSettings :=
  match Severity.ofText? s.application.logLevel with
  | none => .error (.unknownLevel s.application.logLevel)
  | some level => (LogFormat.ofText s.application.logFormat).map fun format => { level, format }

end LogSettings

end LeaseBroker
