import LeaseBroker.Number.Basic

/-!
# Lease capacity

How many leases a device takes at once. Written as an integer, `-1` stands for no limit. A limit
too large for a signed 64-bit integer is written as the largest one.
-/

set_option autoImplicit false

namespace LeaseBroker

/-- The number of simultaneous leases that a device class permits per device. -/
inductive Capacity where
  | limited (max : Nat)
  | unlimited
  deriving DecidableEq, Inhabited, Repr

/-- The only fault of a written capacity: a negative number other than `-1`. -/
structure NegativeCapacity where
  value : Int
  deriving DecidableEq, Repr

def NegativeCapacity.message (e : NegativeCapacity) : String :=
  s!"invalid capacity {e.value}: must be -1 (unlimited) or non-negative"

namespace Capacity

def exclusive : Capacity := .limited 1

def admits (c : Capacity) (leases : Nat) : Bool :=
  match c with
  | .limited max => leases < max
  | .unlimited => true

def ofInt (v : Int) : Except NegativeCapacity Capacity :=
  if v = -1 then .ok .unlimited
  else if 0 ≤ v then .ok (.limited v.toNat)
  else .error ⟨v⟩

def maxWritten : Nat := Word.signedLimit - 1

def toInt : Capacity → Int
  | .limited max => (min max maxWritten : Nat)
  | .unlimited => -1

def text : Capacity → String
  | .limited max => toString max
  | .unlimited => "unlimited"

end Capacity

end LeaseBroker
