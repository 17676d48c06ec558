import LeaseBroker.Number.Double

/-!
# How doubles are written

There are two layouts. The plain one never has an exponent, and a whole number has no point. The
compact one always has a point or an exponent: the point is used for numbers from `1e-5` on and
below `1e16`.
-/

set_option autoImplicit false

namespace LeaseBroker.Double

def zeros (n : Nat) : List Char := List.replicate n '0'

def signed (negative : Bool) (text : List Char) : String :=
  String.ofList (if negative then '-' :: text else text)

/-- Digits with a point before, among or after them. `whole` is put after a whole number. -/
def positional (digits : List Char) (power : Int) (whole : List Char) : List Char :=
  let point : Int := digits.length + power
  if 0 ≤ power then digits ++ zeros power.toNat ++ whole
  else if 0 < point then digits.take point.toNat ++ ['.'] ++ digits.drop point.toNat
  else ['0', '.'] ++ zeros (-point).toNat ++ digits

/-- Digits with a point after the first and an exponent. -/
def exponential (digits : List Char) (power : Int) : List Char :=
  let exponent : Int := digits.length + power - 1
  let fraction := match digits.drop 1 with
    | [] => []
    | rest => '.' :: rest
  digits.take 1 ++ fraction ++ ['e'] ++ (toString exponent).toList

def plainText : Double → String
  | nan => "NaN"
  | infinite negative => signed negative "inf".toList
  | finite negative m e =>
    if m = 0 then signed negative ['0']
    else
      let (digits, power) := (shortest negative m e).digits
      signed negative (positional digits power [])

def compactText : Double → String
  | nan => "NaN"
  | infinite negative => signed negative "inf".toList
  | finite negative m e =>
    if m = 0 then signed negative "0.0".toList
    else
      let (digits, power) := (shortest negative m e).digits
      let point : Int := digits.length + power
      if -5 < point ∧ point ≤ 16 then signed negative (positional digits power ['.', '0'])
      else signed negative (exponential digits power)

end LeaseBroker.Double
