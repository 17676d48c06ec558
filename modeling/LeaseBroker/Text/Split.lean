/-!
# Cutting texts

Cuts a list in two at the first or at the last place where a separator stands. The separator
itself is dropped.
-/

set_option autoImplicit false

namespace LeaseBroker.Text
variable {α : Type} [BEq α]

def dropFront? (pre : List α) (s : List α) : Option (List α) :=
  if pre.isPrefixOf s then some (s.drop pre.length) else none

/-- Cuts at the first place where `sep` stands. -/
def cutFirst? (sep : List α) : List α → Option (List α × List α)
  | [] => (dropFront? sep []).map fun rest => ([], rest)
  | c :: s =>
    match dropFront? sep (c :: s) with
    | some rest => some ([], rest)
    | none => (cutFirst? sep s).map fun (a, b) => (c :: a, b)

def cutLast? (sep : List α) : List α → Option (List α × List α)
  | [] => (dropFront? sep []).map fun rest => ([], rest)
  | c :: s =>
    match cutLast? sep s with
    | some (a, b) => some (c :: a, b)
    | none => (dropFront? sep (c :: s)).map fun rest => ([], rest)

end LeaseBroker.Text
