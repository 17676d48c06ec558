import LeaseBroker.Json.Basic
import LeaseBroker.Number.Double

/-!
# Documents

A document is a tree of values that settings are read from, whatever it was written in. Whole
numbers remember whether they were read as signed ones.
-/

set_option autoImplicit false

namespace LeaseBroker

inductive Document where
  | null
  | bool (b : Bool)
  | signed (n : Int)
  | unsigned (n : Nat)
  | float (x : Double)
  | char (c : Char)
  | text (s : String)
  | list (items : List Document)
  | table (members : List (String × Document))
  deriving Inhabited

namespace Document

mutual

def ofJson : Json → Document
  | .null => .null
  | .bool b => .bool b
  | .whole n => if n < 0 then .signed n else .unsigned n.toNat
  | .decimal d => .float (Double.ofDecimal d)
  | .string s => .text s
  | .array items => .list (ofItems items)
  | .object members => .table (ofMembers members)

def ofItems : List Json → List Document
  | [] => []
  | j :: rest => ofJson j :: ofItems rest

def ofMembers : List (String × Json) → List (String × Document)
  | [] => []
  | (name, j) :: rest => (name, ofJson j) :: ofMembers rest

end

/-- The members of a table, the last one of a name counting, in ascending order of names. -/
def sortedMembers (members : List (String × Document)) : List (String × Document) :=
  (SortedMap.ofList members).toList

def memberOf? (members : List (String × Document)) (name : String) : Option Document :=
  (SortedMap.ofList members).get? name

/-- Puts something under a name, in place of an earlier thing of that name. -/
def putMember {α : Type} (name : String) (a : α) : List (String × α) → List (String × α)
  | [] => [(name, a)]
  | (n, old) :: rest => if n = name then (n, a) :: rest else (n, old) :: putMember name a rest

end Document

end LeaseBroker
