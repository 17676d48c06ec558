/-!
# Numbers

The limits of whole numbers that are kept in 64 bits, with a sign or without one, and numbers as
they are written in decimal digits, with a power of ten.
-/

set_option autoImplicit false

namespace LeaseBroker

namespace Word

/-- The first number that is too large with a sign. -/
def signedLimit : Nat := 9223372036854775808

def unsignedLimit : Nat := 18446744073709551616

def fitsSigned (n : Int) : Bool := -(signedLimit : Int) ≤ n && n < signedLimit

end Word

/-- The number `mantissa * 10 ^ exponent` with a sign, which zero has too. -/
structure Decimal where
  negative : Bool := false
  mantissa : Nat
  exponent : Int
  deriving DecidableEq, Inhabited

namespace Decimal

def ofDigits (digits : List Char) : Nat :=
  digits.foldl (fun n c => n * 10 + (c.toNat - 48)) 0

def digitCount (n : Nat) : Nat := (Nat.toDigits 10 n).length

/-- The digits of the mantissa and the power of ten that the last of them counts, without zeros at
the end. -/
def digits (d : Decimal) : List Char × Int :=
  let all := Nat.toDigits 10 d.mantissa
  let kept := (all.reverse.dropWhile (· = '0')).reverse
  (kept, d.exponent + (all.length - kept.length : Nat))

end Decimal

end LeaseBroker
