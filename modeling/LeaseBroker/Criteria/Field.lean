import LeaseBroker.Device.Info

/-!
# Fields that patterns are tried on

Every field of a `DeviceInfo` has a name under which criteria refer to it.
-/

set_option autoImplicit false

namespace LeaseBroker

inductive Field where
  | id
  | kind
  | software
  | hardware
  | display
  deriving DecidableEq, Inhabited, Repr

namespace Field

/-- The key of the field in criteria and in data files. -/
def name : Field → String
  | id => "id"
  | kind => "type"
  | software => "sw"
  | hardware => "hw"
  | display => "display"

def ofName? : String → Option Field
  | "id" => some id
  | "type" => some kind
  | "sw" => some software
  | "hw" => some hardware
  | "display" => some display
  | _ => none

theorem ofName?_name (f : Field) : ofName? f.name = some f := by cases f <;> rfl

def value (f : Field) (info : DeviceInfo) : String :=
  match f with
  | id => info.id
  | kind => info.kind
  | software => info.software
  | hardware => info.hardware
  | display => info.display

end Field

end LeaseBroker
