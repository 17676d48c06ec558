import LeaseBroker.Pattern.Flags
import LeaseBroker.Text.Split
import LeaseBroker.Text.Unicode.CaseFolding

/-!
# Blanks and escapes in patterns

What a backslash introduces, and the blanks and comments that the verbose flag lets stand between
the parts of a pattern. Texts are lists of characters; each reader gives back what is left.
-/

set_option autoImplicit false

namespace LeaseBroker.Pattern

def isBlank (c : Char) : Bool := Unicode.whiteSpace.contains c

def dropBlanks (inComment : Bool) : List Char → List Char
  | [] => []
  | c :: rest =>
    if inComment then dropBlanks (c ≠ '\n') rest
    else if isBlank c then dropBlanks false rest
    else if c = '#' then dropBlanks true rest
    else c :: rest

def skip (verbose : Bool) (s : List Char) : List Char :=
  if verbose then dropBlanks false s else s

inductive Shorthand where
  | digit
  | space
  | word
  deriving DecidableEq

namespace Shorthand

def chars (unicode : Bool) : Shorthand → CharSet
  | digit => if unicode then Unicode.decimalDigits else ⟨[(48, 57)]⟩
  | space => if unicode then Unicode.whiteSpace else ⟨[(9, 13), (32, 32)]⟩
  | word => if unicode then Unicode.wordChars else asciiWordChars

/-- The set that a shorthand or its negation stands for. Without letters outside ASCII a negation
would let in bytes that are no text. -/
def set? (unicode negated : Bool) (s : Shorthand) : Option CharSet :=
  if !negated then some (s.chars unicode)
  else if unicode then some (s.chars unicode).complement
  else none

end Shorthand

/-- A zero-width test as written. What it means depends on the flags. -/
inductive Assertion where
  | lineStart
  | lineEnd
  | textStart
  | textEnd
  | wordEdge
  | notWordEdge
  | wordStart
  | wordEnd
  | wordStartHalf
  | wordEndHalf
  deriving DecidableEq

def Assertion.look (flags : Flags) : Assertion → Look
  | lineStart =>
    if flags.multiLine then if flags.crlf then .crlfStart else .lineStart else .textStart
  | lineEnd => if flags.multiLine then if flags.crlf then .crlfEnd else .lineEnd else .textEnd
  | textStart => .textStart
  | textEnd => .textEnd
  | wordEdge => .wordEdge flags.unicode
  | notWordEdge => .notWordEdge flags.unicode
  | wordStart => .wordStart flags.unicode
  | wordEnd => .wordEnd flags.unicode
  | wordStartHalf => .wordStartHalf flags.unicode
  | wordEndHalf => .wordEndHalf flags.unicode

/-- The smallest parts of a pattern. A character written as a byte is told apart, since it is one
only below 128 when letters outside ASCII are off. -/
inductive Atom where
  | literal (c : Char) (asByte : Bool)
  | shorthand (s : Shorthand) (negated : Bool)
  | property (query : Unicode.Query) (negated : Bool)
  | assertion (a : Assertion)

def charOfCode? (n : Nat) : Option Char :=
  if n.isValidChar then some (Char.ofNat n) else none

def readDigits (verbose : Bool) (value : Nat) : Nat → List Char → Option (Nat × List Char)
  | 0, s => some (value, s)
  | count + 1, s =>
    match s with
    | [] => none
    | c :: rest => do
      let d ← Text.hexDigit? c
      readDigits verbose (value * 16 + d) count (skip verbose rest)

/-- Reads characters up to a closing brace, which is dropped. In verbose patterns blanks and
comments between them do not count. -/
def readBraced (verbose inComment : Bool) (done : List Char) :
    List Char → Option (List Char × List Char)
  | [] => none
  | c :: rest =>
    if verbose && inComment then readBraced verbose (c ≠ '\n') done rest
    else if verbose && isBlank c then readBraced verbose false done rest
    else if verbose && c = '#' then readBraced verbose true done rest
    else if c = '\x7d' then some (done, rest)
    else readBraced verbose false (done ++ [c]) rest

def readHex (verbose : Bool) (kind : Char) (s : List Char) : Option (Atom × List Char) :=
  match skip verbose s with
  | [] => none
  | '\x7b' :: rest => do
    let (digits, rest) ← readBraced verbose false [] rest
    let values ← digits.mapM Text.hexDigit?
    let c ← if values.isEmpty then none else charOfCode? (values.foldl (fun n d => n * 16 + d) 0)
    pure (.literal c false, skip verbose rest)
  | rest => do
    let count := if kind = 'x' then 2 else if kind = 'u' then 4 else 8
    let (n, rest) ← readDigits verbose 0 count rest
    let c ← charOfCode? n
    pure (.literal c (kind = 'x'), rest)

def propertyQuery (text : List Char) : Unicode.Query :=
  match (Text.cutFirst? ['!', '='] text) <|> (Text.cutFirst? [':'] text) <|> (Text.cutFirst? ['='] text) with
  | some (property, value) => .valued (String.ofList property) (String.ofList value)
  | none => .named (String.ofList text)

def readProperty (verbose negated : Bool) (s : List Char) : Option (Atom × List Char) :=
  match skip verbose s with
  | [] => none
  | '\x7b' :: rest => do
    let (text, rest) ← readBraced verbose false [] rest
    pure (.property (propertyQuery text) negated, rest)
  | c :: rest =>
    if c = '\\' then none
    else some (.property (.named (String.singleton c)) negated, skip verbose rest)

def readEdgeName (verbose inComment : Bool) (done : List Char) :
    List Char → List Char × List Char
  | [] => (done, [])
  | c :: rest =>
    if verbose && inComment then readEdgeName verbose (c ≠ '\n') done rest
    else if verbose && isBlank c then readEdgeName verbose false done rest
    else if verbose && c = '#' then readEdgeName verbose true done rest
    else if c.isAlpha || c = '-' then readEdgeName verbose false (done ++ [c]) rest
    else (done, c :: rest)

def edgeNamed? : String → Option Assertion
  | "start" => some .wordStart
  | "end" => some .wordEnd
  | "start-half" => some .wordStartHalf
  | "end-half" => some .wordEndHalf
  | _ => none

/-- Reads what follows `\b`. A brace begins the name of an edge if a letter or a dash comes first
in it, and the count of a repetition otherwise. -/
def readWordEdge (verbose : Bool) (s : List Char) : Option (Atom × List Char) :=
  match s with
  | '\x7b' :: rest =>
    match skip verbose rest with
    | [] => none
    | c :: _ =>
      if c.isAlpha || c = '-' then
        match readEdgeName verbose false [] rest with
        | (name, '\x7d' :: rest) =>
          (edgeNamed? (String.ofList name)).map fun a => (.assertion a, rest)
        | _ => none
      else some (.assertion .wordEdge, s)
  | _ => some (.assertion .wordEdge, s)

/-- Whether an escaped character stands for itself: every ASCII character that is no letter, digit
or angle bracket. -/
def standsForItself (c : Char) : Bool :=
  c.toNat < 128 && !c.isAlphanum && c ≠ '<' && c ≠ '>'

def readEscape (verbose : Bool) : List Char → Option (Atom × List Char)
  | [] => none
  | c :: rest =>
    if c = 'x' ∨ c = 'u' ∨ c = 'U' then readHex verbose c rest
    else if c = 'p' ∨ c = 'P' then readProperty verbose (c = 'P') rest
    else if standsForItself c then some (.literal c false, rest)
    else match c with
      | 'd' => some (.shorthand .digit false, rest)
      | 'D' => some (.shorthand .digit true, rest)
      | 's' => some (.shorthand .space false, rest)
      | 'S' => some (.shorthand .space true, rest)
      | 'w' => some (.shorthand .word false, rest)
      | 'W' => some (.shorthand .word true, rest)
      | 'a' => some (.literal '\x07' false, rest)
      | 'f' => some (.literal '\x0c' false, rest)
      | 't' => some (.literal '\t' false, rest)
      | 'n' => some (.literal '\n' false, rest)
      | 'r' => some (.literal '\r' false, rest)
      | 'v' => some (.literal '\x0b' false, rest)
      | 'A' => some (.assertion .textStart, rest)
      | 'z' => some (.assertion .textEnd, rest)
      | 'b' => readWordEdge verbose rest
      | 'B' => some (.assertion .notWordEdge, rest)
      | '<' => some (.assertion .wordStart, rest)
      | '>' => some (.assertion .wordEnd, rest)
      | _ => none

def foldFor (flags : Flags) (s : CharSet) : CharSet :=
  if !flags.ignoreCase then s else if flags.unicode then s.foldCase else s.foldAsciiCase

def propertySet? (flags : Flags) (query : Unicode.Query) (negated : Bool) : Option CharSet := do
  let s ← if flags.unicode then query.find? else none
  let s := foldFor flags s
  pure (if negated then s.complement else s)

end LeaseBroker.Pattern
