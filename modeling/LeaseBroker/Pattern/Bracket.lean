import LeaseBroker.Pattern.Escape

/-!
# Bracketed classes

Reads a class such as `[a-f[:digit:]&&[^3]]` into the set that it stands for. Brackets nest, and
what stands side by side is united before `&&`, `--` and `~~` apply, from left to right. How deep
a class is nested is counted along the way, because patterns have a limit on it.
-/

set_option autoImplicit false

namespace LeaseBroker.Pattern

def asciiClass? : String → Option CharSet
  | "alnum" => some ⟨[(48, 57), (65, 90), (97, 122)]⟩
  | "alpha" => some ⟨[(65, 90), (97, 122)]⟩
  | "ascii" => some ⟨[(0, 127)]⟩
  | "blank" => some ⟨[(9, 9), (32, 32)]⟩
  | "cntrl" => some ⟨[(0, 31), (127, 127)]⟩
  | "digit" => some ⟨[(48, 57)]⟩
  | "graph" => some ⟨[(33, 126)]⟩
  | "lower" => some ⟨[(97, 122)]⟩
  | "print" => some ⟨[(32, 126)]⟩
  | "punct" => some ⟨[(33, 47), (58, 64), (91, 96), (123, 126)]⟩
  | "space" => some ⟨[(9, 13), (32, 32)]⟩
  | "upper" => some ⟨[(65, 90)]⟩
  | "word" => some asciiWordChars
  | "xdigit" => some ⟨[(48, 57), (65, 70), (97, 102)]⟩
  | _ => none

/-- The set or its complement, with case ignored if the flags say so. Without letters outside ASCII
a complement would let in bytes that are no text. -/
def finishSet? (flags : Flags) (negated : Bool) (s : CharSet) : Option CharSet :=
  let s := foldFor flags s
  if !negated then some s else if flags.unicode then some s.complement else none

structure Nested where
  set : CharSet
  depth : Nat

/-- Sets standing side by side: how many, their union and the depth of the deepest. -/
structure Side where
  count : Nat := 0
  set : CharSet := .empty
  depth : Nat := 0

namespace Side

def push (s : Side) (x : Nested) : Side :=
  ⟨s.count + 1, s.set.union x.set, Nat.max s.depth x.depth⟩

/-- Two or more sets side by side are one level deeper than the deepest. -/
def nested (s : Side) : Nested := ⟨s.set, if s.count ≤ 1 then s.depth else s.depth + 1⟩

end Side

inductive SetOp where
  | inter
  | diff
  | symmDiff

def SetOp.eval : SetOp → CharSet → CharSet → CharSet
  | inter => CharSet.inter
  | diff => CharSet.diff
  | symmDiff => CharSet.symmDiff

/-- A bracket that is open: whether it is negated, and what stands in front of the operator that
waits for its right side. -/
structure OpenBracket where
  negated : Bool
  pending : Option (Nested × SetOp) := none

def OpenBracket.close (flags : Flags) (b : OpenBracket) (side : Side) : Nested :=
  let right := side.nested
  match b.pending with
  | none => right
  | some (left, op) =>
    ⟨op.eval (foldFor flags left.set) (foldFor flags right.set), Nat.max left.depth right.depth + 1⟩

def literalCode? (flags : Flags) (c : Char) : Option Char :=
  if flags.unicode || c.toNat < 128 then some c else none

def atomSet? (flags : Flags) : Atom → Option CharSet
  | .literal c _ => (literalCode? flags c).map .singleton
  | .shorthand s negated => s.set? flags.unicode negated
  | .property query negated => propertySet? flags query negated
  | .assertion _ => none

def readMember (flags : Flags) : List Char → Option (Atom × List Char)
  | [] => none
  | c :: rest =>
    if c = '\\' then readEscape flags.verbose rest else some (.literal c false, rest)

/-- The character that follows, seen past blanks and one comment mark. -/
def peekPast (inComment : Bool) (otherwise : Option Char) : List Char → Option Char
  | [] => otherwise
  | c :: rest =>
    if isBlank c then peekPast inComment otherwise rest
    else if !inComment && c = '#' then peekPast true otherwise rest
    else some c

def peek (verbose : Bool) (s : List Char) : Option Char :=
  if verbose then peekPast false s.head? s else s.head?

/-- Reads a member or a range of characters. A dash before a closing bracket or another dash makes
no range. -/
def readRange (flags : Flags) (s : List Char) : Option (CharSet × List Char) := do
  let (first, rest) ← readMember flags s
  let next := skip flags.verbose rest
  match next with
  | [] => none
  | c :: after =>
    let follower := peek flags.verbose after
    if c ≠ '-' || follower == some ']' || follower == some '-' then
      let set ← atomSet? flags first
      pure (set, next)
    else
      let (last, rest) ← readMember flags (skip flags.verbose after)
      match first, last with
      | .literal lo _, .literal hi _ =>
        let lo ← literalCode? flags lo
        let hi ← literalCode? flags hi
        if lo ≤ hi then pure (.range lo hi, rest) else none
      | _, _ => none

def readClassName (negated : Bool) (s : List Char) : Option (Bool × CharSet × List Char) :=
  match s.dropWhile (· ≠ ':') with
  | ':' :: ']' :: rest =>
    (asciiClass? (String.ofList (s.takeWhile (· ≠ ':')))).map fun set => (negated, set, rest)
  | _ => none

def readAsciiClass : List Char → Option (Bool × CharSet × List Char)
  | ':' :: '^' :: rest => readClassName true rest
  | ':' :: rest => readClassName false rest
  | _ => none

def readDashes (verbose inComment : Bool) (side : Side) : List Char → Option (Side × List Char)
  | [] => none
  | c :: rest =>
    if verbose && inComment then readDashes verbose (c ≠ '\n') side rest
    else if verbose && isBlank c then readDashes verbose false side rest
    else if verbose && c = '#' then readDashes verbose true side rest
    else if c = '-' then readDashes verbose false (side.push ⟨.singleton '-', 0⟩) rest
    else some (side, c :: rest)

def readFirst (flags : Flags) (negated : Bool) (s : List Char) :
    Option (OpenBracket × Side × List Char) := do
  let (side, s) ← readDashes flags.verbose false {} s
  match s with
  | ']' :: rest =>
    if side.count = 0 then
      let rest := skip flags.verbose rest
      if rest.isEmpty then none
      else pure (⟨negated, none⟩, side.push ⟨.singleton ']', 0⟩, rest)
    else pure (⟨negated, none⟩, side, s)
  | _ => pure (⟨negated, none⟩, side, s)

def readOpening (flags : Flags) (s : List Char) : Option (OpenBracket × Side × List Char) :=
  match skip flags.verbose s with
  | '^' :: rest => readFirst flags true rest
  | rest => readFirst flags false rest

/-- A class that is being read: the innermost open bracket with its last side, and the brackets
around it. -/
structure ClassReader where
  bracket : OpenBracket
  side : Side
  enclosing : List (OpenBracket × Side) := []

namespace ClassReader

def push (r : ClassReader) (set : CharSet) : ClassReader :=
  { r with side := r.side.push ⟨set, 0⟩ }

def operator (flags : Flags) (r : ClassReader) (op : SetOp) : ClassReader :=
  { r with bracket := { r.bracket with pending := some (r.bracket.close flags r.side, op) }, side := {} }

def close? (flags : Flags) (r : ClassReader) : Option (Nested ⊕ ClassReader) := do
  let inner := r.bracket.close flags r.side
  let set ← finishSet? flags r.bracket.negated inner.set
  let done : Nested := ⟨set, inner.depth + 1⟩
  match r.enclosing with
  | [] => pure (.inl done)
  | (bracket, side) :: enclosing => pure (.inr ⟨bracket, side.push done, enclosing⟩)

/-- Reads the next part of a class: what it makes of the reader, or the finished class. -/
def next? (flags : Flags) (r : ClassReader) :
    List Char → Option ((Nested ⊕ ClassReader) × List Char)
  | [] => none
  | '[' :: rest =>
    match readAsciiClass rest with
    | some (negated, set, rest) => do
      let set ← finishSet? flags negated set
      pure (.inr (r.push set), rest)
    | none => do
      let (bracket, side, rest) ← readOpening flags rest
      pure (.inr ⟨bracket, side, (r.bracket, r.side) :: r.enclosing⟩, rest)
  | ']' :: rest => (r.close? flags).map (·, rest)
  | '&' :: '&' :: rest => some (.inr (r.operator flags .inter), rest)
  | '-' :: '-' :: rest => some (.inr (r.operator flags .diff), rest)
  | '~' :: '~' :: rest => some (.inr (r.operator flags .symmDiff), rest)
  | c :: rest => do
    let (set, rest) ← readRange flags (c :: rest)
    pure (.inr (r.push set), rest)

/-- Reads on to the end of the class. Every part takes at least one character. -/
def run (flags : Flags) (r : ClassReader) (s : List Char) : Option (Nested × List Char) :=
  match r.next? flags (skip flags.verbose s) with
  | none => none
  | some (.inl done, rest) => some (done, rest)
  | some (.inr r', rest) => if rest.length < s.length then run flags r' rest else none
termination_by s.length

end ClassReader

def readClass (flags : Flags) (s : List Char) : Option (Nested × List Char) := do
  let (bracket, side, rest) ← readOpening flags s
  ClassReader.run flags { bracket, side } rest

end LeaseBroker.Pattern
