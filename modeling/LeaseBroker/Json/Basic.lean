import LeaseBroker.Collections.SortedMap
import LeaseBroker.Number.Basic

/-!
# JSON values

Numbers are whole if they are written without a fraction or an exponent and fit 64 bits, signed or
unsigned. All others are decimals and keep the value as it is written. The members of an object
stand in the order in which they are read or put together.
-/

set_option autoImplicit false

namespace LeaseBroker

inductive Json where
  | null
  | bool (b : Bool)
  | whole (n : Int)
  | decimal (d : Decimal)
  | string (s : String)
  | array (items : List Json)
  | object (members : List (String × Json))
  deriving Inhabited

namespace Json

/-- The least and the greatest whole number. -/
def minWhole : Int := -Word.signedLimit
def maxWhole : Int := Word.unsignedLimit - 1

mutual

/-- The value with the members of every object in ascending order of names. Of several members of a
name the last one counts. -/
def sorted : Json → Json
  | array items => array (sortedItems items)
  | object members => object (SortedMap.ofList (sortedValues members)).toList
  | j => j

def sortedItems : List Json → List Json
  | [] => []
  | j :: rest => j.sorted :: sortedItems rest

def sortedValues : List (String × Json) → List (String × Json)
  | [] => []
  | (name, j) :: rest => (name, j.sorted) :: sortedValues rest

end

def member? (name : String) : Json → Option Json
  | object members => (members.reverse.find? (·.1 == name)).map (·.2)
  | _ => none

end Json

end LeaseBroker
