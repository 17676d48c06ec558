import LeaseBroker.Json.Basic
import LeaseBroker.Text.Numeral

/-!
# Reading JSON

Reads a JSON text into a value. A text that is no JSON has no value.
-/

set_option autoImplicit false

namespace LeaseBroker.Json

def isBlank (c : Char) : Bool := c = ' ' || c = '\t' || c = '\n' || c = '\r'

def hexQuad? (a b c d : Char) : Option Nat := do
  pure (((← Text.hexDigit? a) * 16 + (← Text.hexDigit? b)) * 256 + (← Text.hexDigit? c) * 16 + (← Text.hexDigit? d))

def shortEscape? : Char → Option Char
  | '"' => some '"'
  | '\\' => some '\\'
  | '/' => some '/'
  | 'b' => some '\x08'
  | 'f' => some '\x0c'
  | 'n' => some '\n'
  | 'r' => some '\r'
  | 't' => some '\t'
  | _ => none

/-- Reads the rest of a string after its opening quote. A pair of surrogates makes one character. -/
def readString (done : List Char) : List Char → Option (String × List Char)
  | '"' :: rest => some (String.ofList done.reverse, rest)
  | '\\' :: 'u' :: a :: b :: c :: d :: '\\' :: 'u' :: a' :: b' :: c' :: d' :: rest => do
    let high ← hexQuad? a b c d
    if 0xD800 ≤ high ∧ high < 0xDC00 then
      let low ← hexQuad? a' b' c' d'
      if 0xDC00 ≤ low ∧ low < 0xE000 then
        let code := 0x10000 + (high - 0xD800) * 0x400 + (low - 0xDC00)
        readString (Char.ofNat code :: done) rest
      else none
    else if high.isValidChar then
      readString (Char.ofNat high :: done) ('\\' :: 'u' :: a' :: b' :: c' :: d' :: rest)
    else none
  | '\\' :: 'u' :: a :: b :: c :: d :: rest => do
    let code ← hexQuad? a b c d
    if code.isValidChar then readString (Char.ofNat code :: done) rest else none
  | '\\' :: c :: rest => do
    let c ← shortEscape? c
    readString (c :: done) rest
  | c :: rest => if c.toNat < 32 then none else readString (c :: done) rest
  | [] => none

def readExponent (s : List Char) : Option (Int × List Char) :=
  let (negative, s) := match s with
    | '-' :: rest => (true, rest)
    | '+' :: rest => (false, rest)
    | rest => (false, rest)
  match s.takeWhile Char.isDigit with
  | [] => none
  | digits =>
    let n : Int := Decimal.ofDigits digits
    some (if negative then -n else n, s.dropWhile Char.isDigit)

def readNumber (s : List Char) : Option (Json × List Char) := do
  let (negative, s) := match s with
    | '-' :: rest => (true, rest)
    | rest => (false, rest)
  let digits := s.takeWhile Char.isDigit
  let rest := s.dropWhile Char.isDigit
  if digits.isEmpty || (digits.length > 1 && digits.head? == some '0') then none
  else
    let (fraction, rest) ← match rest with
      | '.' :: rest =>
        match rest.takeWhile Char.isDigit with
        | [] => none
        | fraction => some (some fraction, rest.dropWhile Char.isDigit)
      | rest => some (none, rest)
    let (exponent, rest) ← match rest with
      | c :: after =>
        if c = 'e' ∨ c = 'E' then (readExponent after).map fun (e, rest) => (some e, rest)
        else some (none, c :: after)
      | [] => some (none, [])
    let magnitude := Decimal.ofDigits digits
    let value : Int := if negative then -(magnitude : Int) else magnitude
    match fraction, exponent with
    | none, none =>
      if minWhole ≤ value ∧ value ≤ maxWhole ∧ !(negative && magnitude == 0) then
        pure (.whole value, rest)
      else pure (.decimal ⟨negative, magnitude, 0⟩, rest)
    | _, _ =>
      let fraction := fraction.getD []
      pure (.decimal ⟨negative, Decimal.ofDigits (digits ++ fraction),
        exponent.getD 0 - fraction.length⟩, rest)

def skip (s : List Char) : List Char := s.dropWhile isBlank

mutual

/-- Reads a value. Every value takes at least one character, so a text of `fuel` characters is
read to its end. -/
def readValue : Nat → List Char → Option (Json × List Char)
  | 0, _ => none
  | fuel + 1, s =>
    match skip s with
    | 'n' :: 'u' :: 'l' :: 'l' :: rest => some (.null, rest)
    | 't' :: 'r' :: 'u' :: 'e' :: rest => some (.bool true, rest)
    | 'f' :: 'a' :: 'l' :: 's' :: 'e' :: rest => some (.bool false, rest)
    | '"' :: rest => (readString [] rest).map fun (s, rest) => (.string s, rest)
    | '[' :: rest =>
      match skip rest with
      | ']' :: rest => some (.array [], rest)
      | rest => (readItems fuel rest).map fun (items, rest) => (.array items, rest)
    | '\x7b' :: rest =>
      match skip rest with
      | '\x7d' :: rest => some (.object [], rest)
      | rest => (readMembers fuel rest).map fun (members, rest) => (.object members, rest)
    | rest => readNumber rest

def readItems : Nat → List Char → Option (List Json × List Char)
  | 0, _ => none
  | fuel + 1, s => do
    let (item, rest) ← readValue fuel s
    match skip rest with
    | ',' :: rest => (readItems fuel rest).map fun (items, rest) => (item :: items, rest)
    | ']' :: rest => pure ([item], rest)
    | _ => none

def readMembers : Nat → List Char → Option (List (String × Json) × List Char)
  | 0, _ => none
  | fuel + 1, s =>
    match skip s with
    | '"' :: rest => do
      let (name, rest) ← readString [] rest
      match skip rest with
      | ':' :: rest =>
        let (value, rest) ← readValue fuel rest
        match skip rest with
        | ',' :: rest =>
          (readMembers fuel rest).map fun (members, rest) => ((name, value) :: members, rest)
        | '\x7d' :: rest => pure ([(name, value)], rest)
        | _ => none
      | _ => none
    | _ => none

end

def parse? (text : String) : Option Json := do
  let s := text.toList
  let (value, rest) ← readValue (s.length + 1) s
  if (skip rest).isEmpty then pure value else none

end LeaseBroker.Json
