import LeaseBroker.Device.Capacity
import LeaseBroker.Document.Basic
import LeaseBroker.Number.Layout
import LeaseBroker.Text.Quoted

/-!
# Faults of documents

Why a document does not say what it should, and where in it. There are two ways to word a fault:
one for JSON documents and one for layered settings, which come from a file and the environment.
-/

set_option autoImplicit false

namespace LeaseBroker.Document

inductive Wording where
  | json
  | layered
  deriving DecidableEq

inductive Cause where
  | wrongType (found : Document) (expected : String)
  | wrongValue (found : Document) (expected : String)
  | wrongLength (found : Nat) (expected : String)
  | missing (field : String)
  | unknownVariant (found : String) (known : List String)
  | capacity (cause : NegativeCapacity)

/-- What is wrong and the way to it from the root of the document. -/
structure Fault where
  path : List String := []
  cause : Cause

/-- What stands in a document at a place, as faults name it. -/
def described (wording : Wording) (d : Document) : String :=
  match wording, d with
  | _, null => "null"
  | .json, bool b => s!"boolean `{b}`"
  | .layered, bool b => s!"bool {b}"
  | .json, signed n => s!"integer `{n}`"
  | .layered, signed n => s!"signed int `{n}`"
  | .json, unsigned n => s!"integer `{n}`"
  | .layered, unsigned n => s!"unsigned int `{n}`"
  | .json, float x => s!"floating point `{x.compactText}`"
  | .layered, float x => s!"float `{x.plainText}`"
  | _, char c => s!"char '{c}'"
  | _, text s => "string " ++ Text.quoted s
  | _, list _ => "sequence"
  | _, table _ => "map"

def alternatives (known : List String) : String :=
  let quoted := known.map fun k => "`" ++ k ++ "`"
  match quoted with
  | [a, b] => a ++ " or " ++ b
  | [a] => a
  | _ => "one of " ++ ", ".intercalate quoted

def Cause.message (wording : Wording) (cause : Cause) : String :=
  match wording, cause with
  | .json, wrongType found expected =>
    s!"invalid type: {found.described .json}, expected {expected}"
  | .layered, wrongType found expected =>
    s!"invalid type: found {found.described .layered}, expected {expected}"
  | .json, wrongValue found expected =>
    s!"invalid value: {found.described .json}, expected {expected}"
  | .layered, wrongValue found expected =>
    s!"invalid value {found.described .layered}, expected {expected}"
  | _, wrongLength found expected => s!"invalid length {found}, expected {expected}"
  | _, missing field => s!"missing field `{field}`"
  | .json, unknownVariant found known =>
    s!"unknown variant `{found}`, expected {alternatives known}"
  | .layered, unknownVariant found known =>
    s!"unknown variant: found `{found}`, expected `{alternatives known}`"
  | _, capacity cause => cause.message

end LeaseBroker.Document
