import LeaseBroker.Collections.SortedMap

/-!
# Devices

A `DeviceInfo` says what a device is. Records are compared field by field, in the order in which
the fields stand, so that they can be the keys of a map. A handle stands for the ownership of an
adopted device. A class of devices declares the methods of its handles for listings, and reports a
failure as a chain of texts, the outermost first.
-/

set_option autoImplicit false

namespace LeaseBroker

/-- The name under which a device is known, a serial number as a rule. -/
abbrev DeviceId := String

structure DeviceInfo where
  id : DeviceId
  kind : String := ""
  software : String := ""
  hardware : String := ""
  display : String := ""
  deriving DecidableEq, Inhabited, Repr

namespace DeviceInfo

def order : DeviceInfo → DeviceInfo → Ordering :=
  compareLex (compareOn id) <| compareLex (compareOn kind) <| compareLex (compareOn software) <|
    compareLex (compareOn hardware) (compareOn display)

instance : Ord DeviceInfo := ⟨order⟩

instance : Std.TransOrd DeviceInfo := inferInstanceAs (Std.TransCmp (compareLex _ _))

theorem eq_of_order_eq {a b : DeviceInfo} (h : order a b = .eq) : a = b := by
  simp only [order, compareLex, Ordering.then_eq_eq, compareOn, Std.LawfulEqCmp.compare_eq_iff_eq] at h
  cases a
  cases b
  simp_all

instance : Std.LawfulEqOrd DeviceInfo where
  eq_of_compare := eq_of_order_eq

end DeviceInfo

/-! ### Handles and methods -/

/-- A handle by the family that gave it out. A handle of no known family is foreign to all. -/
inductive Handle where
  | simulated (id : DeviceId)
  | serial (link node : String)
  | scripted (id : DeviceId)
  | foreign

/-- One operation of a handle with the names of its parameters in call order. -/
structure Method where
  name : String
  params : List String
  deriving DecidableEq, Inhabited, Repr

def Method.text (m : Method) : String :=
  m.name ++ "(" ++ ", ".intercalate m.params ++ ")"

/-! ### Faults -/

structure Fault where
  chain : List String
  deriving DecidableEq, Inhabited, Repr

namespace Fault

def ofText (text : String) : Fault := ⟨[text]⟩

def message (f : Fault) : String := ": ".intercalate f.chain

end Fault

end LeaseBroker
