import LeaseBroker.CommandLine.Run

/-!
# The program

Reads the settings file and the environment, runs the command and prints what it has to say. Links
of serial adapters cannot be listed from here, so their directories count as missing. Only
variables with the usual names are looked up.
-/

set_option autoImplicit false

namespace LeaseBroker

def overrideNames : List String :=
  ["DEVPOOL_APPLICATION", "DEVPOOL_APPLICATION__LOG_FORMAT", "DEVPOOL_APPLICATION__LOG_LEVEL",
    "DEVPOOL_APPLICATION__NAME", "DEVPOOL_BROKER", "DEVPOOL_BROKER__ALLOWLIST",
    "DEVPOOL_BROKER__DENYLIST", "DEVPOOL_BROKER__RESCAN_INTERVAL_SECS", "DEVPOOL_CLASSES"]

def readEnvironment (names : List String) : IO (List (String × String)) :=
  names.filterMapM fun name => do
    return (← IO.getEnv name).map fun value => (name, value)

def readText? (path : String) : IO (Option String) := do
  try
    return some (← IO.FS.readFile path)
  catch _ => return none

/-- Rescans at once and after each period, without an end. -/
partial def rescanForever (pool : Command.BenchPool) (period : Nat) : IO UInt32 := do
  let pool := pool.pass Bench.classes
  IO.sleep (min period (UInt32.size - 1)).toUInt32
  rescanForever pool period

def runProgram (args : List String) : IO UInt32 := do
  let environment ← readEnvironment overrideNames
  let text ← match Arguments.parse args with
    | .ok invocation => readText? invocation.config
    | .error _ => pure none
  match Program.start args ⟨fun _ => text, fun _ => none, environment⟩ (← IO.rand 0 0xffff) with
  | .finished ending =>
    IO.print ending.output
    if !ending.complaint.isEmpty then IO.eprintln ending.complaint
    return ending.code.toUInt32
  | .rescanning pool period =>
    match Ticker.start? pool.broker.now period with
    | none =>
      IO.eprintln "there has to be an interval between rescans"
      return 101
    | some ticker => rescanForever pool ticker.period

end LeaseBroker

def main (args : List String) : IO UInt32 := LeaseBroker.runProgram args
