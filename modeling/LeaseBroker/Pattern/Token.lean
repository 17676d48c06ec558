import LeaseBroker.Pattern.Bracket

/-!
# Parts of a pattern

Cuts a pattern into its parts: things that stand for themselves, repetitions, flag settings,
bars and parentheses. The flags in force decide what a part means, so each part is read with them.
-/

set_option autoImplicit false

namespace LeaseBroker.Pattern

/-- A pattern with the depth of its notation. Flag settings are pieces that cannot be repeated. -/
structure Piece where
  pattern : Pattern
  depth : Nat := 0
  repeatable : Bool := true

inductive Opening where
  | capture (name : Option String)
  | plain (setting : Setting)

inductive Token where
  | piece (p : Piece)
  | repetition (min : Nat) (max : Option Nat)
  | bar
  | opening (o : Opening)
  | closing
  | setting (s : Setting)

/-- The piece for an atom. A byte from 128 on is no text by itself. -/
def atomPiece? (flags : Flags) : Atom → Option Piece
  | .literal c asByte =>
    if !flags.unicode && asByte && 128 ≤ c.toNat then none
    else some ⟨.chars (foldFor flags (.singleton c)), 0, true⟩
  | .shorthand s negated => (s.set? flags.unicode negated).map fun set => ⟨.chars set, 0, true⟩
  | .property query negated => (propertySet? flags query negated).map fun set => ⟨.chars set, 0, true⟩
  | .assertion a => some ⟨.look (a.look flags), 0, true⟩

def dotPiece? (flags : Flags) : Option Piece :=
  if !flags.unicode then none
  else if flags.dotAll then some ⟨.chars .all, 0, true⟩
  else if flags.crlf then some ⟨.chars (CharSet.ofRanges [(10, 10), (13, 13)]).complement, 0, true⟩
  else some ⟨.chars (CharSet.singleton '\n').complement, 0, true⟩

def dropLazyMark : List Char → List Char
  | '?' :: rest => rest
  | s => s

def readDecimalDigits (verbose inComment : Bool) (done : List Nat) :
    List Char → List Nat × List Char
  | [] => (done, [])
  | c :: rest =>
    if verbose && inComment then readDecimalDigits verbose (c ≠ '\n') done rest
    else if verbose && !done.isEmpty && isBlank c then readDecimalDigits verbose false done rest
    else if verbose && !done.isEmpty && c = '#' then readDecimalDigits verbose true done rest
    else if c.isDigit then readDecimalDigits verbose false (done ++ [c.toNat - 48]) rest
    else (done, c :: rest)

def countLimit : Nat := 4294967296

def readCount (verbose : Bool) (s : List Char) : Option (Nat × List Char) :=
  match readDecimalDigits verbose false [] (s.dropWhile isBlank) with
  | ([], _) => none
  | (digits, rest) =>
    let n := digits.foldl (fun n d => n * 10 + d) 0
    if n < countLimit then some (n, skip verbose (rest.dropWhile isBlank)) else none

/-- Reads the greatest number of rounds behind the least: the same without a comma, none if nothing
follows the comma. -/
def readMax (verbose : Bool) (min : Nat) : List Char → Option (Option Nat × List Char)
  | ',' :: rest =>
    match skip verbose rest with
    | '\x7d' :: rest => some (none, '\x7d' :: rest)
    | rest => (readCount verbose rest).map fun (n, rest) => (some n, rest)
  | rest => some (some min, rest)

def readBounds (verbose : Bool) (s : List Char) : Option (Token × List Char) := do
  let (min, rest) ← readCount verbose (skip verbose s)
  let (max, rest) ← readMax verbose min rest
  match rest with
  | '\x7d' :: rest =>
    if max.all (min ≤ ·) then pure (.repetition min max, dropLazyMark (skip verbose rest)) else none
  | _ => none

def isNameChar (first : Bool) (c : Char) : Bool :=
  c = '_' || Unicode.alphabetic.contains c ||
    (!first && (c = '.' || c = '[' || c = ']' || Unicode.numeric.contains c))

def readGroupName (done : List Char) : List Char → Option (String × List Char)
  | [] => none
  | c :: rest =>
    if c = '>' then if done.isEmpty then none else some (String.ofList done, rest)
    else if isNameChar done.isEmpty c then readGroupName (done ++ [c]) rest
    else none

/-- Reads a flag setting up to the colon of a group that has it, or to the closing parenthesis of one
for the rest of the group around it, which must not be empty. -/
def readSetting (s : List Char) : Option (Token × List Char) := do
  let (setting, rest) ← Setting.read true [] s
  match rest with
  | ':' :: rest => pure (.opening (.plain setting), rest)
  | _ :: rest => if setting.isEmpty then none else pure (.setting setting, rest)
  | [] => none

/-- Reads what follows an opening parenthesis. Tests of the text around are not supported. -/
def readOpeningParen (verbose : Bool) (s : List Char) : Option (Token × List Char) :=
  match skip verbose s with
  | '?' :: '=' :: _ | '?' :: '!' :: _ | '?' :: '<' :: '=' :: _ | '?' :: '<' :: '!' :: _ => none
  | '?' :: 'P' :: '<' :: rest | '?' :: '<' :: rest =>
    (readGroupName [] rest).map fun (name, rest) => (.opening (.capture (some name)), rest)
  | '?' :: rest => readSetting rest
  | rest => some (.opening (.capture none), rest)

/-- Reads the part in front of a pattern that is not empty and does not begin with a blank to be
skipped. -/
def readToken (flags : Flags) : List Char → Option (Token × List Char)
  | [] => none
  | c :: rest =>
    let piece (p : Option Piece) (rest : List Char) : Option (Token × List Char) :=
      p.map fun p => (.piece p, rest)
    match c with
    | '(' => readOpeningParen flags.verbose rest
    | ')' => some (.closing, rest)
    | '|' => some (.bar, rest)
    | '[' => do
      let (cls, rest) ← readClass flags rest
      pure (.piece ⟨.chars cls.set, cls.depth, true⟩, rest)
    | '?' => some (.repetition 0 (some 1), dropLazyMark rest)
    | '*' => some (.repetition 0 none, dropLazyMark rest)
    | '+' => some (.repetition 1 none, dropLazyMark rest)
    | '\x7b' => readBounds flags.verbose rest
    | '\\' => do
      let (atom, rest) ← readEscape flags.verbose rest
      piece (atomPiece? flags atom) rest
    | '.' => piece (dotPiece? flags) rest
    | '^' => piece (atomPiece? flags (.assertion .lineStart)) rest
    | '$' => piece (atomPiece? flags (.assertion .lineEnd)) rest
    | c => piece (atomPiece? flags (.literal c false)) rest

end LeaseBroker.Pattern
