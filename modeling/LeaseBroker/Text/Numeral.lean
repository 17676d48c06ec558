import LeaseBroker.Number.Basic

/-!
# Numerals

Reads unsigned numbers of 64 bits from text. A plus sign may stand in front. The first character
that cannot be part of such a number decides what is wrong. Hexadecimal digits are read and written
one by one.
-/

set_option autoImplicit false

namespace LeaseBroker.Text

inductive NumeralFault where
  | empty
  | invalidDigit
  | tooLarge

def NumeralFault.message : NumeralFault → String
  | empty => "cannot parse integer from empty string"
  | invalidDigit => "invalid digit found in string"
  | tooLarge => "number too large to fit in target type"

def readDigits (n : Nat) : List Char → Except NumeralFault Nat
  | [] => .ok n
  | c :: rest =>
    if !c.isDigit then .error .invalidDigit
    else
      let n := n * 10 + (c.toNat - 48)
      if n < Word.unsignedLimit then readDigits n rest else .error .tooLarge

def readNumeral (s : String) : Except NumeralFault Nat :=
  match s.toList with
  | [] => .error .empty
  | '+' :: [] => .error .invalidDigit
  | '+' :: digits => readDigits 0 digits
  | digits => readDigits 0 digits

def unsigned? (s : String) : Option Nat := (readNumeral s).toOption

/-- The signed number of 64 bits that a text writes, with or without a sign. -/
def signed? (s : String) : Option Int :=
  match s.toList with
  | '-' :: c :: digits =>
    match readDigits 0 (c :: digits) with
    | .ok n => if n ≤ Word.signedLimit then some (-n) else none
    | .error _ => none
  | _ => (unsigned? s).bind fun n => if n < Word.signedLimit then some (n : Int) else none

def hexDigit? (c : Char) : Option Nat :=
  if '0' ≤ c ∧ c ≤ '9' then some (c.toNat - 48)
  else if 'A' ≤ c ∧ c ≤ 'F' then some (c.toNat - 55)
  else if 'a' ≤ c ∧ c ≤ 'f' then some (c.toNat - 87)
  else none

/-- The digit, in small letters, of the last place of a number. -/
def lastHexDigit (n : Nat) : Char := "0123456789abcdef".toList.getD (n % 16) '0'

end LeaseBroker.Text
