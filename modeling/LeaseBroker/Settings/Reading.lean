import LeaseBroker.Document.Reading
import LeaseBroker.Settings.Basic

/-!
# Reading settings

Reads settings from a document. A class is a table with a member `kind`, or a list whose first item
is the kind; the rest of it is the content of the class. A fault in the content is located at the
class.
-/

set_option autoImplicit false

namespace LeaseBroker.Document

def applicationShape (mode : Mode) : Shape ApplicationSettings where
  name := "ApplicationConfig"
  fields := ["name", "log_level", "log_format"]
  start := {}
  put := fun s field d =>
    match field with
    | "name" => do pure { s with name := ← d.readString mode }
    | "log_level" => do pure { s with logLevel := ← d.readString mode }
    | "log_format" => do pure { s with logFormat := ← d.readString mode }
    | _ => .ok s

def brokerShape (mode : Mode) : Shape BrokerSettings where
  name := "BrokerConfig"
  fields := ["rescan_interval_secs", "allowlist", "denylist"]
  start := {}
  put := fun s field d =>
    match field with
    | "rescan_interval_secs" => do pure { s with rescanInterval := ← d.readUnsigned }
    | "allowlist" => do pure { s with allow := ← d.readList (readString mode) }
    | "denylist" => do pure { s with deny := ← d.readList (readString mode) }
    | _ => .ok s

def simulatedShape (mode : Mode) : Shape (Option String × SimulatedSettings) where
  name := "MockDeviceClassConfig"
  fields := ["name", "capacity", "devices"]
  start := (none, { name := "" })
  put := fun (name, s) field d =>
    match field with
    | "name" => do pure (some (← d.readString mode), s)
    | "capacity" => do pure (name, { s with capacity := ← d.readCapacity })
    | "devices" => do pure (name, { s with devices := ← d.readList (readInfo mode) })
    | _ => .ok (name, s)

def readSimulated (mode : Mode) (d : Document) : Read SimulatedSettings := do
  let (name, s) ← (simulatedShape mode).read mode d
  let name ← (simulatedShape mode).required d "name" name
  pure { s with name }

def serialShape (mode : Mode) : Shape SerialSettings where
  name := "SerialByIdConfig"
  fields := ["name", "dir", "capacity"]
  start := {}
  put := fun s field d =>
    match field with
    | "name" => do pure { s with name := ← d.readString mode }
    | "dir" => do pure { s with directory := ← d.readPath mode }
    | "capacity" => do pure { s with capacity := ← d.readCapacity }
    | _ => .ok s

def readSerial (mode : Mode) (d : Document) : Read SerialSettings := (serialShape mode).read mode d

inductive Kind where
  | simulated
  | serial

/-- Reads a kind. Layered settings may also give its number. -/
def readKind (mode : Mode) (d : Document) : Read Kind :=
  let ofName (name : String) : Read Kind :=
    match name with
    | "mock" => .ok .simulated
    | "serial_by_id" => .ok .serial
    | _ => fail (.unknownVariant name ["mock", "serial_by_id"])
  match mode.wording, d with
  | _, text s => ofName s
  | .layered, char c => ofName (String.singleton c)
  | .layered, unsigned 0 => .ok .simulated
  | .layered, unsigned 1 => .ok .serial
  | .layered, unsigned n => fail (.wrongValue (unsigned n) "variant index 0 <= i < 2")
  | _, d => fail (.wrongType d "variant identifier")

def readContent (mode : Mode) (kind : Kind) (d : Document) : Read ClassSettings :=
  let mode := { mode with content := true }
  let answer : Read ClassSettings := match kind with
    | .simulated => (readSimulated mode d).map .simulated
    | .serial => (readSerial mode d).map .serial
  answer.mapError fun f => { f with path := [] }

def readClass (mode : Mode) (d : Document) : Read ClassSettings :=
  match d with
  | table members =>
    match memberOf? members "kind" with
    | none => fail (.missing "kind")
    | some tag => do
      let kind ← inside "kind" (readKind mode tag)
      readContent mode kind (table (members.filter (·.1 != "kind")))
  | list [] => fail (.missing "kind")
  | list (tag :: rest) => do
    let kind ← inside "0" (readKind mode tag)
    readContent mode kind (list rest)
  | _ => fail (.wrongType d "internally tagged enum ClassDefinition")

def settingsShape (mode : Mode) : Shape Settings where
  name := "DevpoolConfig"
  fields := ["application", "broker", "classes"]
  start := {}
  put := fun s field d =>
    match field with
    | "application" => do pure { s with application := ← (applicationShape mode).read mode d }
    | "broker" => do pure { s with broker := ← (brokerShape mode).read mode d }
    | "classes" => do pure { s with classes := ← d.readList (readClass mode) }
    | _ => .ok s

def readSettings (mode : Mode) (d : Document) : Read Settings := (settingsShape mode).read mode d

end LeaseBroker.Document

namespace LeaseBroker.Settings

def ofJson (j : Json) : Document.Read Settings := (Document.ofJson j).readSettings ⟨.json, false⟩

end LeaseBroker.Settings
