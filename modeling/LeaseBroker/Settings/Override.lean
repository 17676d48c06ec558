import LeaseBroker.Document.Basic
import LeaseBroker.Text.CharSet
import LeaseBroker.Text.Numeral
import LeaseBroker.Text.Split

/-!
# Overrides from the environment

A variable whose name begins with `DEVPOOL_`, in any case of letters, overrides a setting. Two
underscores in the rest of its name, or a point, lead into a table. Its value has a syntax of its
own: truth values, numbers, quoted texts, `[a, b]` and `{k = v}`; anything that does not fit the
syntax as a whole is a text as it stands.
-/

set_option autoImplicit false

namespace LeaseBroker.Override

def blanks : CharSet :=
  ⟨[(9, 13), (32, 32), (0x85, 0x85), (0xA0, 0xA0), (0x1680, 0x1680), (0x2000, 0x200A),
    (0x2028, 0x2029), (0x202F, 0x202F), (0x205F, 0x205F), (0x3000, 0x3000)]⟩

def trim (s : List Char) : List Char :=
  ((s.dropWhile blanks.contains).reverse.dropWhile blanks.contains).reverse

def isBlank (c : Char) : Bool := c = ' ' || c = '\t' || c = '\n' || c = '\r' || c = '\x0c'

def skipBlanks (s : List Char) : List Char := s.dropWhile isBlank

def isSeparator (c : Char) : Bool := c = ',' || c = '\x7b' || c = '\x7d' || c = '[' || c = ']'

/-- The digits of a decimal fraction, of which one side of the point may be empty. -/
def fraction? (s : List Char) : Option (Nat × Nat) := do
  let (front, back) ← Text.cutFirst? ['.'] s
  if front.all Char.isDigit && back.all Char.isDigit && !(front.isEmpty && back.isEmpty) then
    pure (Decimal.ofDigits (front ++ back), back.length)
  else none

def exponent? : List Char → Option Int
  | [] => some 0
  | _ :: s =>
    let (negative, digits) := match s with
      | '-' :: rest => (true, rest)
      | '+' :: rest => (false, rest)
      | rest => (false, rest)
    if digits.isEmpty || !digits.all Char.isDigit then none
    else
      let n : Int := Decimal.ofDigits digits
      some (if negative then -n else n)

def float? (s : List Char) : Option Double := do
  let (negative, s) := match s with
    | '-' :: rest => (true, rest)
    | '+' :: rest => (false, rest)
    | rest => (false, rest)
  let isMark (c : Char) : Bool := c = 'e' || c = 'E'
  let (mantissa, places) ← fraction? (s.takeWhile (!isMark ·))
  let exponent ← exponent? (s.dropWhile (!isMark ·))
  pure (Double.ofDecimal ⟨negative, mantissa, exponent - places⟩)

/-- The value of a text that is neither quoted nor a list nor a table. -/
def bare (s : List Char) : Document :=
  let text := String.ofList (trim s)
  match float? (trim s), Text.unsigned? text, Text.signed? text with
  | some x, _, _ => .float x
  | none, some n, _ => .unsigned n
  | none, none, some n => .signed n
  | none, none, none => .text text

def codeChar? (digits : List Char) : Option Char := do
  let code ← digits.foldlM (fun n c => (Text.hexDigit? c).map (n * 16 + ·)) 0
  if code.isValidChar then pure (Char.ofNat code) else none

def shortEscape? : Char → Option Char
  | 'b' => some '\x08'
  | 't' => some '\t'
  | 'n' => some '\n'
  | 'f' => some '\x0c'
  | 'r' => some '\r'
  | '"' => some '"'
  | '\\' => some '\\'
  | _ => none

def readQuoted (done : List Char) : List Char → Option (String × List Char)
  | [] => none
  | '"' :: rest => some (String.ofList done.reverse, rest)
  | '\\' :: 'u' :: a :: b :: c :: d :: rest => do
    readQuoted ((← codeChar? [a, b, c, d]) :: done) rest
  | '\\' :: 'U' :: a :: b :: c :: d :: e :: f :: g :: h :: rest => do
    readQuoted ((← codeChar? [a, b, c, d, e, f, g, h]) :: done) rest
  | '\\' :: c :: rest => do readQuoted ((← shortEscape? c) :: done) rest
  | c :: rest =>
    if c = '\t' ∨ (32 ≤ c.toNat ∧ c.toNat ≠ 127) then readQuoted (c :: done) rest else none

abbrev Reader (α : Type) := List Char → Option (α × List Char)

/-- Reads things with commas between them up to a closing bracket. A comma may stand in front of
the bracket. -/
def readEach {α : Type} (item : Reader α) (close : Char) : Nat → Reader (List α)
  | 0, _ => none
  | fuel + 1, s =>
    match s with
    | [] => none
    | c :: after =>
      if c = close then some ([], after)
      else do
        let (a, rest) ← item s
        match rest with
        | ',' :: rest =>
          let (items, rest) ← readEach item close fuel rest
          pure (a :: items, rest)
        | c :: rest => if c = close then pure ([a], rest) else none
        | [] => none

def isNameChar (c : Char) : Bool := c.isAlphanum || c = '_' || c = '-'

def readName : Reader String
  | '"' :: rest => readQuoted [] rest
  | s =>
    match s.takeWhile isNameChar with
    | [] => none
    | name => some (String.ofList name, s.dropWhile isNameChar)

def readMember (value : Reader Document) (s : List Char) : Option ((String × Document) × List Char) :=
  do
    let (name, rest) ← readName (skipBlanks s)
    match skipBlanks rest with
    | '=' :: rest =>
      let (d, rest) ← value rest
      pure ((name, d), rest)
    | _ => none

/-- Reads a value with the blanks around it. Every list or table takes two characters, so `fuel`
bounds how deep they are nested. -/
def readValue : Nat → Reader Document
  | 0, _ => none
  | fuel + 1, s =>
    let answer : Option (Document × List Char) := match skipBlanks s with
      | 't' :: 'r' :: 'u' :: 'e' :: rest => some (.bool true, rest)
      | 'f' :: 'a' :: 'l' :: 's' :: 'e' :: rest => some (.bool false, rest)
      | '[' :: rest =>
        (readEach (readValue fuel) ']' (rest.length + 1) rest).map fun (items, rest) =>
          (.list items, rest)
      | '\x7b' :: rest =>
        (readEach (readMember (readValue fuel)) '\x7d' (rest.length + 1) rest).map
          fun (members, rest) => (.table members, rest)
      | '"' :: rest => (readQuoted [] rest).map fun (t, rest) => (.text t, rest)
      | '\'' :: rest =>
        match rest with
        | c :: '\'' :: rest => some (.char c, rest)
        | _ => none
      | s => some (bare (s.takeWhile (!isSeparator ·)), s.dropWhile (!isSeparator ·))
    answer.map fun (d, rest) => (d, skipBlanks rest)

def value (text : String) : Document :=
  match readValue (text.length + 1) text.toList with
  | some (d, []) => d
  | _ => .text text

def marker : List Char := "devpool_".toList

/-- Puts a point in the place of every two underscores. -/
def markSteps : List Char → List Char
  | '_' :: '_' :: rest => '.' :: markSteps rest
  | c :: rest => c :: markSteps rest
  | [] => []

def steps : List Char → List (List Char)
  | [] => [[]]
  | c :: rest =>
    if c = '.' then [] :: steps rest
    else match steps rest with
      | [] => [[c]]
      | first :: others => (c :: first) :: others

/-- The way to the setting that a variable overrides, if it overrides one. -/
def path? (name : String) : Option (List String) := do
  let rest ← Text.dropFront? marker ((trim name.toList).map Char.toLower)
  let parts := steps (trim (markSteps rest))
  if parts.any List.isEmpty then none else pure (parts.map String.ofList)

def nested (d : Document) : List String → Document
  | [] => d
  | step :: rest => .table [(step, nested d rest)]

/-- The document that a variable adds to the settings, if it overrides one. -/
def document? (name text : String) : Option Document :=
  (path? name).map (nested (value text))

end LeaseBroker.Override
