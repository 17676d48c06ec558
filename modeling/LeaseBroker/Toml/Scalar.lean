import LeaseBroker.Document.Basic
import LeaseBroker.Number.Basic
import LeaseBroker.Text.Numeral
import LeaseBroker.Text.Split

/-!
# Numbers, truth values and times in TOML

All of these are written as one word. Underscores may stand between digits. Whole numbers have 64
bits and a sign. A date, a time or both become a table with a single member.
-/

set_option autoImplicit false

namespace LeaseBroker.Toml

/-- Drops the underscores from digits. Each of them has to stand between two digits. -/
def digitGroup? (isDigit : Char → Bool) : List Char → Option (List Char)
  | [] => none
  | [c] => if isDigit c then some [c] else none
  | c :: '_' :: rest => if isDigit c then (digitGroup? isDigit rest).map (c :: ·) else none
  | c :: rest => if isDigit c then (digitGroup? isDigit rest).map (c :: ·) else none

/-- The digits of a whole number without sign. Only zero begins with a zero. -/
def wholeDigits? (s : List Char) : Option (List Char) :=
  match s with
  | ['0'] => some ['0']
  | '0' :: _ => none
  | _ => digitGroup? Char.isDigit s

def takeSign : List Char → Bool × List Char
  | '-' :: rest => (true, rest)
  | '+' :: rest => (false, rest)
  | s => (false, s)

def ofBase (base : Nat) (digits : List Char) : Nat :=
  digits.foldl (fun n c => n * base + (Text.hexDigit? c).getD 0) 0

def based? (base : Nat) (digits : List Char) : Option Int := do
  let digits ← digitGroup? (fun c => (Text.hexDigit? c).any (· < base)) digits
  let n : Int := ofBase base digits
  if Word.fitsSigned n then pure n else none

def whole? (s : List Char) : Option Int :=
  match s with
  | '0' :: 'x' :: digits => based? 16 digits
  | '0' :: 'o' :: digits => based? 8 digits
  | '0' :: 'b' :: digits => based? 2 digits
  | _ => do
    let (negative, s) := takeSign s
    let n : Int := Decimal.ofDigits (← wholeDigits? s)
    let n := if negative then -n else n
    if Word.fitsSigned n then pure n else none

def fractionDigits? : Option (List Char) → Option (List Char)
  | none => some []
  | some digits => digitGroup? Char.isDigit digits

def exponent? : Option (List Char) → Option Int
  | none => some 0
  | some s => do
    let (negative, s) := takeSign s
    let n : Int := Decimal.ofDigits (← digitGroup? Char.isDigit s)
    pure (if negative then -n else n)

def cutExponent (s : List Char) : List Char × Option (List Char) :=
  let front := s.takeWhile fun c => c ≠ 'e' ∧ c ≠ 'E'
  match s.dropWhile fun c => c ≠ 'e' ∧ c ≠ 'E' with
  | [] => (front, none)
  | _ :: rest => (front, some rest)

/-- A number with a point or an exponent. One that is too large is refused if it is positive. -/
def float? (s : List Char) : Option Double := do
  let (negative, s) := takeSign s
  if s = "inf".toList then pure (.infinite negative)
  else if s = "nan".toList then pure .nan
  else
    let (front, exponent) := cutExponent s
    let (front, fraction) := match Text.cutFirst? ['.'] front with
      | some (a, b) => (a, some b)
      | none => (front, none)
    if fraction.isNone && exponent.isNone then none
    else
      let front ← wholeDigits? front
      let fraction ← fractionDigits? fraction
      let exponent ← exponent? exponent
      let x := Double.ofDecimal
        ⟨negative, Decimal.ofDigits (front ++ fraction), exponent - fraction.length⟩
      if x = .infinite false then none else pure x

def fixed? (count low high : Nat) (s : List Char) : Option (Nat × List Char) :=
  let digits := s.take count
  if digits.length = count ∧ digits.all Char.isDigit then
    let n := Decimal.ofDigits digits
    if low ≤ n ∧ n ≤ high then some (n, s.drop count) else none
  else none

def after? (c : Char) : List Char → Option (List Char)
  | d :: rest => if c = d then some rest else none
  | [] => none

def daysIn (year month : Nat) : Nat :=
  if month = 2 then
    if year % 4 = 0 ∧ (year % 100 ≠ 0 ∨ year % 400 = 0) then 29 else 28
  else if month = 4 ∨ month = 6 ∨ month = 9 ∨ month = 11 then 30
  else 31

def date? (s : List Char) : Option (List Char) := do
  let (year, s) ← fixed? 4 0 9999 s
  let (month, s) ← fixed? 2 1 12 (← after? '-' s)
  let (_, s) ← fixed? 2 1 (daysIn year month) (← after? '-' s)
  pure s

def time? (s : List Char) : Option (List Char) := do
  let (_, s) ← fixed? 2 0 23 s
  let (_, s) ← fixed? 2 0 59 (← after? ':' s)
  let (_, s) ← fixed? 2 0 60 (← after? ':' s)
  match s with
  | '.' :: rest => if (rest.takeWhile Char.isDigit).isEmpty then none else pure (rest.dropWhile Char.isDigit)
  | s => pure s

def offset? : List Char → Option (List Char)
  | 'Z' :: rest => some rest
  | 'z' :: rest => some rest
  | c :: rest =>
    if c = '+' ∨ c = '-' then do
      let (_, s) ← fixed? 2 0 23 rest
      let (_, s) ← fixed? 2 0 59 (← after? ':' s)
      pure s
    else none
  | [] => none

/-- Whether a text is a time of day, perhaps with its distance to universal time. -/
def isOffsetTime (s : List Char) : Bool :=
  match time? s with
  | some [] => true
  | some rest => (offset? rest).any List.isEmpty
  | none => false

def isDate (s : List Char) : Bool := (date? s).any List.isEmpty

def isMoment (s : List Char) : Bool :=
  (time? s).any List.isEmpty ||
    match date? s with
    | some [] => true
    | some (c :: rest) => (c = 'T' || c = 't') && isOffsetTime rest
    | none => false

def momentValue (s : List Char) : Document :=
  .table [("moment", .text (String.ofList s))]

def word? (s : List Char) : Option Document :=
  if s = "true".toList then some (.bool true)
  else if s = "false".toList then some (.bool false)
  else if isMoment s then some (momentValue s)
  else ((whole? s).map .signed) <|> ((float? s).map .float)

def isWordChar (c : Char) : Bool :=
  c.isAlphanum || c = '+' || c = '-' || c = '.' || c = '_' || c = ':'

/-- Reads a word. A blank may separate a date from a time. -/
def readWord (s : List Char) : Option (Document × List Char) :=
  let word := s.takeWhile isWordChar
  let rest := s.dropWhile isWordChar
  match rest with
  | ' ' :: more =>
    let time := more.takeWhile isWordChar
    if isDate word && isOffsetTime time then
      some (momentValue (word ++ ' ' :: time), more.dropWhile isWordChar)
    else (word? word).map fun d => (d, rest)
  | _ => (word? word).map fun d => (d, rest)

end LeaseBroker.Toml
