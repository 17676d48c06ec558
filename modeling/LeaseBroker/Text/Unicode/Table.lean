import LeaseBroker.Text.CharSet
import LeaseBroker.Text.Numeral

/-!
# Tables of characters

The tables list ranges of code points in hexadecimal, such as `41-5A AA B5`, ascending and apart.
A class of characters goes by names written in small letters without spaces or marks.
-/

set_option autoImplicit false

namespace LeaseBroker.Unicode

/-- A class of characters with its names and its ranges as written. -/
structure CharClass where
  names : List String
  ranges : String

/-- A range that is being read: its first code point, once the dash is passed, and the number so
far. -/
structure PartialRange where
  first : Option Nat := none
  current : Option Nat := none

def PartialRange.finish (p : PartialRange) : List (Nat × Nat) :=
  match p.current with
  | none => []
  | some hi => [(p.first.getD hi, hi)]

def readRanges (p : PartialRange) : List Char → List (Nat × Nat)
  | [] => p.finish
  | c :: rest =>
    match Text.hexDigit? c with
    | some d => readRanges { p with current := some (p.current.getD 0 * 16 + d) } rest
    | none =>
      if c = '-' then readRanges ⟨p.current, none⟩ rest
      else p.finish ++ readRanges {} rest

namespace CharClass

def chars (c : CharClass) : CharSet := ⟨readRanges {} c.ranges.toList⟩

def find? (table : List CharClass) (name : String) : Option CharSet :=
  (table.find? fun c => c.names.contains name).map chars

/-- The characters of the classes that go by any of the names. -/
def select (table : List CharClass) (names : List String) : CharSet :=
  .ofRanges <| table.flatMap fun c =>
    if names.any c.names.contains then c.chars.ranges else []

end CharClass

end LeaseBroker.Unicode
