import LeaseBroker.Broker.Refusal
import LeaseBroker.Pattern.Builder

/-!
# Criteria

A device is selected when every criterion holds; no criteria select every device. Patterns have to
match from the start of their field and may stop before its end. The criteria `free` and `busy`
ask whether the device can take another lease; of several the last one of each counts.
-/

set_option autoImplicit false

namespace LeaseBroker

structure Criteria where
  patterns : List (Field × Pattern) := []
  free : Option Bool := none
  busy : Option Bool := none
  deriving Inhabited

namespace Criteria

/-- Asks that a pattern match from the start of a field. -/
def withPattern (c : Criteria) (field : Field) (pattern : String) : Except Refusal Criteria :=
  match Pattern.anchored pattern with
  | .ok p => .ok { c with patterns := c.patterns ++ [(field, p)] }
  | .error fault => .error (.invalidPattern field fault)

def withFree (c : Criteria) (free : Bool) : Criteria := { c with free := some free }

def withBusy (c : Criteria) (busy : Bool) : Criteria := { c with busy := some busy }

def field (name : String) : Except Refusal Field :=
  match Field.ofName? name with
  | some f => .ok f
  | none => .error (.invalidCriterion (.unknownField name))

def flag (key value : String) : Except Refusal Bool :=
  match value.toLower with
  | "true" => .ok true
  | "false" => .ok false
  | _ => .error (.invalidCriterion (.notFlag key value))

def withPair (c : Criteria) (key value : String) : Except Refusal Criteria :=
  match key with
  | "free" => (flag key value).map c.withFree
  | "busy" => (flag key value).map c.withBusy
  | _ => do c.withPattern (← field key) value

/-- The criteria that pairs of key and value stand for; the first pair that fails decides. -/
def ofPairs (pairs : List (String × String)) : Except Refusal Criteria :=
  pairs.foldlM (fun c p => c.withPair p.1 p.2) {}

def isEmpty (c : Criteria) : Bool := c.patterns.isEmpty && c.free.isNone && c.busy.isNone

def matchesInfo (c : Criteria) (info : DeviceInfo) : Bool :=
  c.patterns.all fun (f, p) => p.isMatch (f.value info)

def matchesAvailability (c : Criteria) (available : Bool) : Bool :=
  c.free.all (· == available) && c.busy.all (· == !available)

end Criteria

end LeaseBroker
