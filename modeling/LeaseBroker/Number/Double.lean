import LeaseBroker.Number.Basic

/-!
# Doubles

Numbers with 53 binary digits. A decimal number is rounded to the nearest double, and of two that
are equally near to the one with an even mantissa. A double is written with the fewest decimal
digits that are rounded back to it, and of the numbers with so few digits the nearest one is taken.
-/

set_option autoImplicit false

namespace LeaseBroker

/-- A double. A finite one has the magnitude `mantissa * 2 ^ exponent`. -/
inductive Double where
  | finite (negative : Bool) (mantissa : Nat) (exponent : Int)
  | infinite (negative : Bool)
  | nan
  deriving DecidableEq, Inhabited

namespace Double

def minExponent : Int := -1074

def maxExponent : Int := 971

def normalMantissa : Nat := 4503599627370496

def scaled (n d base : Nat) (power : Int) : Nat × Nat :=
  match power with
  | .ofNat k => (n * Nat.pow base k, d)
  | .negSucc k => (n, d * Nat.pow base (k + 1))

/-- The whole number nearest to `n / d`, an even one if there are two. -/
def roundedQuotient (n d : Nat) : Nat :=
  let q := n / d
  let twice := 2 * (n % d)
  if twice < d then q
  else if d < twice then q + 1
  else q + q % 2

def ofFraction (negative : Bool) (n d : Nat) : Double :=
  let guess : Int := (n.log2 : Int) - d.log2 - 52
  let (a, b) := scaled n d 2 (-guess)
  let exponent := max minExponent (if a / b < normalMantissa then guess - 1 else guess)
  let (a, b) := scaled n d 2 (-exponent)
  let m := roundedQuotient a b
  let (m, exponent) := if m = 2 * normalMantissa then (normalMantissa, exponent + 1) else (m, exponent)
  if maxExponent < exponent then .infinite negative else .finite negative m exponent

def ofDecimal (d : Decimal) : Double :=
  let size : Int := d.exponent + Decimal.digitCount d.mantissa
  if d.mantissa = 0 ∨ size < -330 then .finite d.negative 0 minExponent
  else if 330 < size then .infinite d.negative
  else
    let (n, den) := scaled d.mantissa 1 10 d.exponent
    ofFraction d.negative n den

/-- The fractions that are rounded to a double, as the two ends of an interval and whether the ends
belong to it. All three are multiples of `2 ^ (exponent - 2)`. -/
structure Interval where
  low : Nat
  high : Nat
  closed : Bool

/-- What is rounded to `mantissa * 2 ^ exponent`. Below a power of two doubles lie closer. -/
def interval (mantissa : Nat) (exponent : Int) : Interval :=
  let narrow := mantissa = normalMantissa ∧ minExponent < exponent
  ⟨4 * mantissa - (if narrow then 1 else 2), 4 * mantissa + 2, mantissa % 2 = 0⟩

def Interval.contains (i : Interval) (unit : Int) (c : Nat) (power : Int) : Bool :=
  let (a, b) := scaled c 1 10 power
  let (a, b) := scaled a b 2 (-unit)
  if i.closed then i.low * b ≤ a ∧ a ≤ i.high * b else i.low * b < a ∧ a < i.high * b

/-- The number `c` with `c * 10 ^ power` in the interval that is nearest to `n / d`, if there is
one. -/
def nearestOnGrid (i : Interval) (unit : Int) (n d : Nat) (power : Int) : Option Nat :=
  let (a, b) := scaled n d 10 (-power)
  let near := roundedQuotient a b
  let other := if near = a / b then near + 1 else a / b
  [near, other].find? fun c => i.contains unit c power

def shortestMagnitude (mantissa : Nat) (exponent : Int) : Decimal :=
  let (n, d) := scaled mantissa 1 2 exponent
  let guess : Int := (Decimal.digitCount n : Int) - Decimal.digitCount d
  let (a, b) := scaled n d 10 (-guess)
  let size := if a < b then guess else guess + 1
  let i := interval mantissa exponent
  let found := (List.range 17).findSome? fun (k : Nat) =>
    let power : Int := size - (k + 1 : Nat)
    (nearestOnGrid i (exponent - 2) n d power).map fun c => (⟨false, c, power⟩ : Decimal)
  found.getD ⟨false, mantissa, 0⟩

def shortest (negative : Bool) (mantissa : Nat) (exponent : Int) : Decimal :=
  if mantissa = 0 then ⟨negative, 0, 0⟩
  else { shortestMagnitude mantissa exponent with negative }

end Double

end LeaseBroker
