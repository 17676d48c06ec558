import LeaseBroker.Device.Info
import LeaseBroker.Document.Fault

/-!
# Reading documents

Readers for the values that settings are made of. The members of a table are read in ascending
order of their names and the items of a list from first to last, and the first fault counts. A
record may be written as a table or as a list of its fields, of which those with a default can be
left out at the end. Unknown members of a table are ignored.
-/

set_option autoImplicit false

namespace LeaseBroker.Document

abbrev Read (α : Type) := Except Fault α

/-- How documents are read: which wording they are for, and whether the value is the content of a
variant, which is held to stricter rules. -/
structure Mode where
  wording : Wording
  content : Bool := false

def fail {α : Type} (cause : Cause) : Read α := .error { cause }

def inside {α : Type} (step : String) : Read α → Read α
  | .ok a => .ok a
  | .error f => .error { f with path := step :: f.path }

def readText (mode : Mode) (d : Document) (expected : String) : Read String :=
  match d with
  | text s => .ok s
  | char c => if mode.content then fail (.wrongType d expected) else .ok (String.singleton c)
  | _ => fail (.wrongType d expected)

def readString (mode : Mode) (d : Document) : Read String := d.readText mode "a string"

def readPath (mode : Mode) (d : Document) : Read String := d.readText mode "path string"

def readSigned (d : Document) : Read Int :=
  match d with
  | signed n => .ok n
  | unsigned n => if n < Word.signedLimit then .ok n else fail (.wrongValue d "i64")
  | _ => fail (.wrongType d "i64")

def readUnsigned (d : Document) : Read Nat :=
  match d with
  | unsigned n => .ok n
  | signed n => if 0 ≤ n then .ok n.toNat else fail (.wrongValue d "u64")
  | _ => fail (.wrongType d "u64")

def readCapacity (d : Document) : Read Capacity :=
  match d.readSigned with
  | .error f => .error f
  | .ok n =>
    match Capacity.ofInt n with
    | .ok c => .ok c
    | .error e => fail (.capacity e)

def readEach {α : Type} (item : Document → Read α) : Nat → List Document → Read (List α)
  | _, [] => .ok []
  | i, d :: rest => do
    let a ← inside (toString i) (item d)
    pure (a :: (← readEach item (i + 1) rest))

def readList {α : Type} (item : Document → Read α) (d : Document) : Read (List α) :=
  match d with
  | list items => readEach item 0 items
  | _ => fail (.wrongType d "a sequence")

/-- Refuses a list that has more items than a record has fields. Layered settings do not mind. -/
def checkLength (mode : Mode) (fields items : Nat) : Read Unit :=
  if items ≤ fields then .ok ()
  else if mode.content then
    fail (.wrongLength items s!"{fields} elements in sequence")
  else match mode.wording with
    | .json => fail (.wrongLength items "fewer elements in array")
    | .layered => .ok ()

/-- A record that is read from a document: its name, its fields in order, and what the value of a
field does to what has been read so far. -/
structure Shape (σ : Type) where
  name : String
  fields : List String
  start : σ
  put : σ → String → Document → Read σ

namespace Shape
variable {σ : Type}

def readMembers (shape : Shape σ) (s : σ) : List (String × Document) → Read σ
  | [] => .ok s
  | (name, d) :: rest => do
    let s ← inside name (shape.put s name d)
    shape.readMembers s rest

def readItems (shape : Shape σ) (s : σ) (i : Nat) : List (String × Document) → Read σ
  | [] => .ok s
  | (name, d) :: rest => do
    let s ← inside (toString i) (shape.put s name d)
    shape.readItems s (i + 1) rest

def read (shape : Shape σ) (mode : Mode) (d : Document) : Read σ :=
  match d with
  | table members => shape.readMembers shape.start (sortedMembers members)
  | list items => do
    let s ← shape.readItems shape.start 0 (shape.fields.zip items)
    checkLength mode shape.fields.length items.length
    pure s
  | _ => fail (.wrongType d s!"struct {shape.name}")

def required {α : Type} (shape : Shape σ) (d : Document) (field : String) (value : Option α) :
    Read α :=
  match value, d with
  | some a, _ => .ok a
  | none, list _ =>
    fail (.wrongLength 0 s!"struct {shape.name} with {shape.fields.length} elements")
  | none, _ => fail (.missing field)

end Shape

/-- What is read of a device info: its identifier, if it is there, and the other fields. -/
def infoShape (mode : Mode) : Shape (Option DeviceId × DeviceInfo) where
  name := "DeviceInfo"
  fields := ["id", "type", "sw", "hw", "display"]
  start := (none, { id := "" })
  put := fun (id, info) field d =>
    match field with
    | "id" => do pure (some (← d.readString mode), info)
    | "type" => do pure (id, { info with kind := ← d.readString mode })
    | "sw" => do pure (id, { info with software := ← d.readString mode })
    | "hw" => do pure (id, { info with hardware := ← d.readString mode })
    | "display" => do pure (id, { info with display := ← d.readString mode })
    | _ => .ok (id, info)

def readInfo (mode : Mode) (d : Document) : Read DeviceInfo := do
  let (id, info) ← (infoShape mode).read mode d
  let id ← (infoShape mode).required d "id" id
  pure { info with id }

end LeaseBroker.Document
