import LeaseBroker.Broker.RescanLoop
import LeaseBroker.CommandLine.Arguments
import LeaseBroker.Json.Printer
import LeaseBroker.Settings.Build
import LeaseBroker.Settings.Check
import LeaseBroker.Settings.Layers
import LeaseBroker.Settings.Logging
import LeaseBroker.Settings.Writing

/-!
# Running a command

Every command loads the settings, checks them and builds a broker. What is shown is computed first
and printed afterwards, so that views of the same broker can be compared.
-/

set_option autoImplicit false

namespace LeaseBroker

/-- What a command finds around it: the texts of files and the directories of links by their paths,
and the environment. -/
structure Surroundings where
  text? : String → Option String
  links? : String → Option LinkDirectory
  environment : List (String × String)

inductive CommandFault where
  | loading (path : String) (fault : Settings.LoadFault)
  | settings (fault : SettingsFault)
  | log (fault : LogFault)
  | refused (refusal : Refusal)

def CommandFault.message : CommandFault → String
  | loading path _ => s!"loading {path}"
  | settings fault => fault.message
  | log fault => fault.message
  | refused refusal => refusal.message

namespace Command

abbrev BenchPool := Pool Bench DeviceClass Handle

def loadSettings (s : Surroundings) (path : String) : Except CommandFault Settings :=
  match Settings.load (s.text? path) s.environment with
  | .error fault => .error (.loading path fault)
  | .ok settings =>
    match settings.check, LogSettings.ofSettings settings with
    | .error fault, _ => .error (.settings fault)
    | .ok (), .error fault => .error (.log fault)
    | .ok (), .ok _ => .ok settings

def directories (s : Surroundings) (settings : Settings) : SortedMap String LinkDirectory :=
  .ofList <| settings.classes.filterMap fun
    | .serial c => (s.links? c.directory).map fun d => (c.directory, d)
    | .simulated _ => none

def pool (s : Surroundings) (settings : Settings) : BenchPool :=
  ⟨settings.build (directories s settings), []⟩

def infos (p : BenchPool) (ids : List DeviceId) : Except Refusal (List DeviceInfo) :=
  ids.mapM p.broker.info

def scanView (p : BenchPool) : Except Refusal (RescanReport × List DeviceInfo) :=
  let (report, p) := p.rescan Bench.classes
  (infos p p.broker.devices).map fun all => (report, all)

def matchView (p : BenchPool) (pairs : List (String × String)) :
    Except Refusal (List DeviceInfo) := do
  let (_, p) := p.rescan Bench.classes
  infos p (p.broker.matching Bench.classes (← Criteria.ofPairs pairs))

/-- Leases a device. If none is free, waits for one until the time is over; nobody else acts in the
meantime. -/
def obtain (p : BenchPool) (criteria : Criteria) (acquirer : Acquirer) (wait : Option Nat)
    (pick : Nat) : Except Refusal DeviceId × BenchPool :=
  match wait with
  | none => p.quietly (·.tryAcquire Bench.classes criteria acquirer pick)
  | some seconds =>
    let now := p.broker.now
    let patience : Patience := .limited (now + 1000 * seconds)
    let waiter : Waiter := { name := acquirer, criteria, acquirer, started := now, patience }
    match p.park Bench.classes waiter pick false with
    | (some answer, p) => (answer, p)
    | (none, p) =>
      match (p.advance (1000 * seconds)).settle Bench.classes (fun _ => pick) false with
      | ((_, some answer) :: _, p) => (answer, p)
      | (_, p) => (.error .cancelled, p)

def lend (p : BenchPool) (criteria : Criteria) (acquirer : Acquirer) (wait : Option Nat)
    (pick : Nat) : Except Refusal ((DeviceInfo × List Method) × BenchPool) := do
  let (answer, p) := obtain p criteria acquirer wait pick
  let id ← answer
  let info ← p.broker.acquired id
  let methods ← p.broker.methods Bench.classes id
  let (released, p) := p.release id acquirer
  let _ ← released
  pure ((info, methods), p)

def acquireView (p : BenchPool) (pairs : List (String × String)) (acquirer : Acquirer)
    (wait : Option Nat) (pick : Nat) :
    Except Refusal ((DeviceInfo × List Method) × BenchPool) := do
  let (_, p) := p.rescan Bench.classes
  lend p (← Criteria.ofPairs pairs) acquirer wait pick

def printed (j : Json) : String := j.pretty ++ "\n"

def reportJson (r : RescanReport) : Json :=
  .object [("found", .ofTexts r.found), ("kept", .ofTexts r.kept), ("forgot", .ofTexts r.forgot),
    ("failed", .ofTexts r.failed)]

def scanText (report : RescanReport) (all : List DeviceInfo) : String :=
  let devices := Json.array (all.map DeviceInfo.toJson)
  printed (Json.object [("report", reportJson report), ("devices", devices)]).sorted

def matchText (found : List DeviceInfo) : String := printed (.array (found.map DeviceInfo.toJson))

def acquireText (info : DeviceInfo) (methods : List Method) : String :=
  let api := Json.ofTexts (methods.map Method.text)
  printed (Json.object [("device", info.toJson), ("api", api)]).sorted

def output (p : BenchPool) (pick : Nat) : Command → Except Refusal (Option String)
  | scan => (scanView p).map fun (report, all) => some (scanText report all)
  | plugins =>
    .ok (some (String.join ((p.broker.classNames Bench.classes).map (· ++ "\n"))))
  | matching pairs => (matchView p pairs).map fun found => some (matchText found)
  | acquire pairs acquirer wait => (acquireView p pairs acquirer wait pick).map
    fun ((info, methods), _) => some (acquireText info methods)
  | daemon => .ok none

end Command

/-- How a program ends: its exit code, what it has printed and the first line of what it says about
a failure. -/
structure Ending where
  code : Nat
  output : String := ""
  complaint : String := ""

/-- A program that is to rescan with a period in milliseconds, or its end. -/
inductive Program where
  | finished (ending : Ending)
  | rescanning (pool : Command.BenchPool) (period : Nat)

namespace Program

def firstLine (text : String) : String :=
  match Text.cutFirst? ['\n'] text.toList with
  | none => text
  | some (line, _) =>
    match line.reverse with
    | '\r' :: rest => String.ofList rest.reverse
    | _ => String.ofList line

def refuse (n : NoCommand) : Ending :=
  match n with
  | .helpAsked => { code := 0, output := n.message ++ "\n" }
  | _ => { code := 2, complaint := firstLine n.message }

def fail (fault : CommandFault) : Ending :=
  { code := 1, complaint := firstLine ("Error: " ++ fault.message) }

/-- Runs the program with some arguments. Of several free devices a number picks one. -/
def start (args : List String) (s : Surroundings) (pick : Nat) : Program :=
  match Arguments.parse args with
  | .error n => finished (refuse n)
  | .ok invocation =>
    match Command.loadSettings s invocation.config with
    | .error fault => finished (fail fault)
    | .ok settings =>
      let pool := Command.pool s settings
      match invocation.command.output pool pick with
      | .error refusal => finished (fail (.refused refusal))
      | .ok (some text) => finished { code := 0, output := text }
      | .ok none => rescanning pool settings.broker.period

end Program

end LeaseBroker
