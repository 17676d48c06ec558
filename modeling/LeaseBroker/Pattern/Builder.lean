import LeaseBroker.Pattern.Token
import LeaseBroker.Pattern.Size

/-!
# Putting a pattern together

The parts of a pattern are added one after another to a builder, which keeps the groups that are
still open. A pattern is refused when a part does not fit, a group stays open, the notation is
nested too deep or the pattern is too large.
-/

set_option autoImplicit false

namespace LeaseBroker.Pattern

/-- A group that is open: what stood before it, and the flags to go back to when it closes. -/
structure OpenGroup where
  captures : Bool
  flags : Flags
  choices : List Piece
  items : List Piece

/-- A pattern in the making. `items` is the current choice and `choices` are the earlier ones of
the innermost group, both with the last one first. -/
structure Builder where
  flags : Flags := {}
  names : List String := []
  choices : List Piece := []
  items : List Piece := []
  groups : List OpenGroup := []

/-- Pieces in a row, given with the last one first. More than one are a level deeper. -/
def joinItems (items : List Piece) : Piece :=
  match items with
  | [] => ⟨.empty, 0, true⟩
  | [x] => x
  | xs =>
    ⟨xs.foldl (fun acc x => x.pattern.andThen acc) .empty,
      (xs.foldl (fun d x => Nat.max d x.depth) 0) + 1, true⟩

def joinChoices (last : Piece) (earlier : List Piece) : Piece :=
  match earlier with
  | [] => last
  | xs =>
    ⟨xs.foldl (fun acc x => .alt x.pattern acc) last.pattern,
      (xs.foldl (fun d x => Nat.max d x.depth) last.depth) + 1, true⟩

namespace Builder

def current (b : Builder) : Piece := joinChoices (joinItems b.items) b.choices

def repeatLast? (b : Builder) (min : Nat) (max : Option Nat) : Option Builder :=
  match b.items with
  | [] => none
  | x :: xs =>
    if x.repeatable then
      some { b with items := ⟨x.pattern.repeated min max, x.depth + 1, true⟩ :: xs }
    else none

def open? (b : Builder) (opening : Opening) : Option Builder :=
  let group (captures : Bool) : OpenGroup := ⟨captures, b.flags, b.choices, b.items⟩
  match opening with
  | .capture none => some { b with choices := [], items := [], groups := group true :: b.groups }
  | .capture (some name) =>
    if b.names.contains name then none
    else some { b with
      names := name :: b.names, choices := [], items := [], groups := group true :: b.groups }
  | .plain setting =>
    some { b with
      flags := b.flags.apply setting, choices := [], items := [], groups := group false :: b.groups }

/-- Closes the innermost group and brings back the flags from before it. -/
def close? (b : Builder) : Option Builder :=
  match b.groups with
  | [] => none
  | g :: groups =>
    let inner := b.current
    let pattern := if g.captures then .group inner.pattern else inner.pattern
    some { b with
      flags := g.flags, choices := g.choices, items := ⟨pattern, inner.depth + 1, true⟩ :: g.items,
      groups := groups }

def add? (b : Builder) : Token → Option Builder
  | .piece p => some { b with items := p :: b.items }
  | .repetition min max => b.repeatLast? min max
  | .bar => some { b with choices := joinItems b.items :: b.choices, items := [] }
  | .opening o => b.open? o
  | .closing => b.close?
  | .setting s => some { b with flags := b.flags.apply s, items := ⟨.empty, 0, false⟩ :: b.items }

def addAll? (b : Builder) (s : List Char) : Option Builder :=
  match skip b.flags.verbose s with
  | [] => some b
  | c :: rest =>
    match readToken b.flags (c :: rest) with
    | none => none
    | some (token, rest) =>
      match b.add? token with
      | none => none
      | some b' => if rest.length < s.length then addAll? b' rest else none
termination_by s.length

def finish? (b : Builder) : Option Piece :=
  if b.groups.isEmpty then some b.current else none

end Builder

def nestLimit : Nat := 250

def ofChars (s : List Char) : Except PatternFault Pattern :=
  match (Builder.addAll? {} s).bind Builder.finish? with
  | none => .error .malformed
  | some piece =>
    if nestLimit < piece.depth then .error .malformed
    else if piece.pattern.fits then .ok piece.pattern else .error .tooLarge

def ofString (text : String) : Except PatternFault Pattern := ofChars text.toList

def anchoredText (text : String) : List Char :=
  "^(?:".toList ++ text.toList ++ [')']

/-- The pattern of a text that has to match from the start. The text must make a pattern by itself
as well, so that no parenthesis in it can close the group around it. -/
def anchored (text : String) : Except PatternFault Pattern := do
  let _ ← ofString text
  ofChars (anchoredText text)

end LeaseBroker.Pattern
