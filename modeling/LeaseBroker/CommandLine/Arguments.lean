import LeaseBroker.CommandLine.Command
import LeaseBroker.Text.Split

/-!
# Reading the arguments

Arguments are read from first to last, those after the word of a command by the rules of that
command. An option without an attached value waits for the next argument. Values that have been
collected are looked at when the next option begins or the arguments end, so an argument that fits
nowhere is found before a bad value in front of it.
-/

set_option autoImplicit false

namespace LeaseBroker.Arguments

structure Given where
  config : Option String := none
  acquirer : Option String := none
  wait : Option Nat := none
  criteria : List (String × String) := []

namespace Given

def has (g : Given) : ValueOption → Bool
  | .config => g.config.isSome
  | .acquirer => g.acquirer.isSome
  | .wait => g.wait.isSome

/-- Gives an option a value. An option takes one value, and a file has a name. -/
def set (g : Given) (o : ValueOption) (text : String) : Except NoCommand Given :=
  if g.has o then .error (.repeated o)
  else match o with
    | .config =>
      if text.isEmpty then .error (.missingValue o) else .ok { g with config := some text }
    | .acquirer => .ok { g with acquirer := some text }
    | .wait =>
      match Text.readNumeral text with
      | .ok n => .ok { g with wait := some n }
      | .error fault => .error (.invalidWait text fault)

def pair (text : String) : Except NoCommand (String × String) :=
  match Text.cutFirst? ['='] text.toList with
  | none => .error (.invalidCriterion text .noEquals)
  | some ([], _) => .error (.invalidCriterion text .emptyKey)
  | some (key, value) => .ok (String.ofList key, String.ofList value)

def addCriterion (g : Given) (text : String) : Except NoCommand Given :=
  (pair text).map fun p => { g with criteria := g.criteria ++ [p] }

end Given

/-- What has been collected and not looked at yet: an option with or without its value, or criteria
of which the last one stands first. -/
inductive Pending where
  | nothing
  | value (o : ValueOption) (text : Option String)
  | criteria (texts : List String)

/-- How far the arguments have been read. After two dashes no argument is an option. -/
structure Progress where
  given : Given := {}
  pending : Pending := .nothing
  literal : Bool := false

namespace Progress

def settled (p : Progress) : Except NoCommand Given :=
  match p.pending with
  | .nothing => .ok p.given
  | .value o none => .error (.missingValue o)
  | .value o (some text) => p.given.set o text
  | .criteria texts => texts.reverse.foldlM Given.addCriterion p.given

def awaiting? (p : Progress) : Option ValueOption :=
  match p.literal, p.pending with
  | false, .value o none => some o
  | _, _ => none

/-- Begins an option, which may have its value attached. -/
def begin (p : Progress) (o : ValueOption) (attached : Option String) :
    Except NoCommand Progress := do
  let given ← p.settled
  match attached with
  | none => pure { p with given, pending := .value o none }
  | some text => pure { p with given := ← given.set o text, pending := .nothing }

/-- Ends with help, unless something that is pending is wrong. -/
def help (p : Progress) : Except NoCommand Progress := do
  let _ ← p.settled
  throw .helpAsked

def takeLong (options : List ValueOption) (p : Progress) (text : List Char) :
    Except NoCommand Progress :=
  let (name, attached) := match Text.cutFirst? ['='] text with
    | some (name, value) => (String.ofList name, some (String.ofList value))
    | none => (String.ofList text, none)
  if name = "help" then
    match attached with
    | some value => .error (.helpTakesNone value)
    | none => p.help
  else match options.find? (·.name == name) with
    | some o => p.begin o attached
    | none => .error (.unexpected ("--" ++ name))

def takeShort (options : List ValueOption) (p : Progress) (c : Char) (text : List Char) :
    Except NoCommand Progress :=
  if c = 'h' then p.help
  else match options.find? (·.letter? == some c) with
    | some o =>
      p.begin o <| match text with
        | [] => none
        | '=' :: value => some (String.ofList value)
        | value => some (String.ofList value)
    | none => .error (.unexpected (String.ofList ['-', c]))

def takeCriterion (p : Progress) (arg : String) : Except NoCommand Progress :=
  match p.pending with
  | .criteria texts => .ok { p with pending := .criteria (arg :: texts) }
  | _ => p.settled.map fun given => { p with given, pending := .criteria [arg] }

def takePlain (word : Option CommandWord) (p : Progress) (arg : String) :
    Except NoCommand Progress :=
  match p.awaiting?, word with
  | some o, _ => .ok { p with pending := .value o (some arg) }
  | none, some w => if w.takesCriteria then p.takeCriterion arg else .error (.unexpected arg)
  | none, none =>
    if p.literal && (arg = "help" || (CommandWord.ofName? arg).isSome) then
      .error (.unexpected arg)
    else .error (.unknownCommand arg)

def take (word : Option CommandWord) (p : Progress) (arg : String) : Except NoCommand Progress :=
  let options := match word with
    | none => [.config]
    | some w => w.options
  if p.literal then p.takePlain word arg
  else match arg.toList with
    | ['-', '-'] => .ok { p with literal := true }
    | '-' :: '-' :: text => p.takeLong options text
    | '-' :: c :: text => p.takeShort options c text
    | _ => p.takePlain word arg

end Progress

def helpWith : List String → NoCommand
  | [] => .helpAsked
  | word :: rest =>
    if word = "help" || (CommandWord.ofName? word).isSome then
      match rest with
      | [] => .helpAsked
      | other :: _ => .unknownCommand other
    else .unknownCommand word

def readOuter (p : Progress) : List String →
    Except NoCommand (Progress × Option (CommandWord × List String))
  | [] => .ok (p, none)
  | arg :: rest =>
    let word? := if p.literal || p.awaiting?.isSome then none else CommandWord.ofName? arg
    match word? with
    | some word => .ok (p, some (word, rest))
    | none =>
      if arg = "help" && !p.literal && p.awaiting?.isNone then .error (helpWith rest)
      else do readOuter (← p.take none arg) rest

def command (g : Given) : CommandWord → Command
  | .scan => .scan
  | .plugins => .plugins
  | .matching => .matching g.criteria
  | .acquire => .acquire g.criteria (g.acquirer.getD "") g.wait
  | .daemon => .daemon

def parse (args : List String) : Except NoCommand Invocation := do
  match ← readOuter {} args with
  | (p, some (word, rest)) =>
    let inner ← (← rest.foldlM (Progress.take (some word)) {}).settled
    let outer ← p.settled
    match outer.config with
    | some config => pure { config, command := command inner word }
    | none => pure { command := command inner word }
  | (p, none) =>
    let outer ← p.settled
    throw (if outer.config.isSome then .missingCommand else .nothingAsked)

end LeaseBroker.Arguments
