import LeaseBroker.Text.Numeral

/-!
# Commands

What can be asked for on the command line, and why no command can be run. The arguments may also
ask for help, or ask for nothing at all.
-/

set_option autoImplicit false

namespace LeaseBroker

inductive ValueOption where
  | config
  | acquirer
  | wait
  deriving DecidableEq

namespace ValueOption

def name : ValueOption → String
  | config => "config"
  | acquirer => "acquirer"
  | wait => "wait"

def letter? : ValueOption → Option Char
  | config => some 'c'
  | _ => none

def label (o : ValueOption) : String := s!"--{o.name} <{o.name.toUpper}>"

end ValueOption

inductive CommandWord where
  | scan
  | plugins
  | matching
  | acquire
  | daemon
  deriving DecidableEq

namespace CommandWord

def name : CommandWord → String
  | scan => "scan"
  | plugins => "plugins"
  | matching => "match"
  | acquire => "acquire"
  | daemon => "daemon"

def ofName? : String → Option CommandWord
  | "scan" => some scan
  | "plugins" => some plugins
  | "match" => some matching
  | "acquire" => some acquire
  | "daemon" => some daemon
  | _ => none

def options : CommandWord → List ValueOption
  | acquire => [.acquirer, .wait]
  | _ => []

def takesCriteria : CommandWord → Bool
  | matching | acquire => true
  | _ => false

end CommandWord

/-- A command. Criteria are pairs of key and value; waiting is counted in seconds. -/
inductive Command where
  | scan
  | plugins
  | matching (criteria : List (String × String))
  | acquire (criteria : List (String × String)) (acquirer : String) (wait : Option Nat)
  | daemon
  deriving DecidableEq

structure Invocation where
  config : String := "config/devpool.toml"
  command : Command
  deriving DecidableEq

inductive PairFault where
  | noEquals
  | emptyKey

def PairFault.message : PairFault → String
  | noEquals => "expected key=value"
  | emptyKey => "empty key"

inductive NoCommand where
  | helpAsked
  | nothingAsked
  | missingCommand
  | unknownCommand (word : String)
  | unexpected (argument : String)
  | helpTakesNone (value : String)
  | missingValue (option : ValueOption)
  | repeated (option : ValueOption)
  | invalidWait (text : String) (fault : Text.NumeralFault)
  | invalidCriterion (text : String) (fault : PairFault)

namespace NoCommand

def about : String := "Discover shared devices and lease them to concurrent users"

def message : NoCommand → String
  | helpAsked | nothingAsked => about
  | missingCommand => "error: 'devpool' requires a subcommand but one was not provided"
  | unknownCommand word => s!"error: unrecognized subcommand '{word}'"
  | unexpected argument => s!"error: unexpected argument '{argument}' found"
  | helpTakesNone value =>
    s!"error: unexpected value '{value}' for '--help' found; no more were expected"
  | missingValue option =>
    s!"error: a value is required for '{option.label}' but none was supplied"
  | repeated option => s!"error: the argument '{option.label}' cannot be used multiple times"
  | invalidWait text fault =>
    s!"error: invalid value '{text}' for '{ValueOption.wait.label}': {fault.message}"
  | invalidCriterion text fault =>
    s!"error: invalid value '{text}' for '[CRITERIA]...': " ++
      s!"invalid criterion '{text}': {fault.message}"

end NoCommand

end LeaseBroker
