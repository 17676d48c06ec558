/-!
# Sets of characters

A set is a list of ranges of code points, ascending and apart from each other. Code points that
are no characters may lie inside a range; they change nothing about which characters belong.
-/

set_option autoImplicit false

namespace LeaseBroker

/-- A set of characters as ranges of code points. -/
structure CharSet where
  ranges : List (Nat × Nat)
  deriving DecidableEq, Inhabited

namespace CharSet

def maxCode : Nat := 0x10FFFF

def containsCode (s : CharSet) (c : Nat) : Bool :=
  s.ranges.any fun r => r.1 ≤ c && c ≤ r.2

def contains (s : CharSet) (c : Char) : Bool := s.containsCode c.toNat

def empty : CharSet := ⟨[]⟩

def all : CharSet := ⟨[(0, maxCode)]⟩

/-- Adds a range to a list of ranges and joins those that it touches. -/
def addRange (lo hi : Nat) : List (Nat × Nat) → List (Nat × Nat)
  | [] => [(lo, hi)]
  | (a, b) :: rest =>
    if hi + 1 < a then (lo, hi) :: (a, b) :: rest
    else if b + 1 < lo then (a, b) :: addRange lo hi rest
    else addRange (min lo a) (max hi b) rest

/-- The set of the characters in any of the ranges, given in any order. -/
def ofRanges (rs : List (Nat × Nat)) : CharSet :=
  ⟨rs.foldr (fun r acc => addRange r.1 r.2 acc) []⟩

def singleton (c : Char) : CharSet := ⟨[(c.toNat, c.toNat)]⟩

def range (lo hi : Char) : CharSet := ⟨[(lo.toNat, hi.toNat)]⟩

def union (s t : CharSet) : CharSet :=
  ⟨s.ranges.foldr (fun r acc => addRange r.1 r.2 acc) t.ranges⟩

/-- What lies between ascending ranges, from `lo` on. -/
def gaps (lo : Nat) : List (Nat × Nat) → List (Nat × Nat)
  | [] => if lo ≤ maxCode then [(lo, maxCode)] else []
  | (a, b) :: rest => if lo < a then (lo, a - 1) :: gaps (b + 1) rest else gaps (b + 1) rest

def complement (s : CharSet) : CharSet := ⟨gaps 0 s.ranges⟩

def inter (s t : CharSet) : CharSet := (s.complement.union t.complement).complement

def diff (s t : CharSet) : CharSet := s.inter t.complement

def symmDiff (s t : CharSet) : CharSet := (s.diff t).union (t.diff s)

def isAscii (s : CharSet) : Bool := s.ranges.all fun r => r.2 < 128

/-- Adds the other case of every ASCII letter of the set. -/
def foldAsciiCase (s : CharSet) : CharSet :=
  let lower := s.inter ⟨[(97, 122)]⟩
  let upper := s.inter ⟨[(65, 90)]⟩
  (s.union ⟨lower.ranges.map fun r => (r.1 - 32, r.2 - 32)⟩).union
    ⟨upper.ranges.map fun r => (r.1 + 32, r.2 + 32)⟩

end CharSet

end LeaseBroker
