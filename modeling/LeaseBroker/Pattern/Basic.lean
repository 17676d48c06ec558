import LeaseBroker.Text.Unicode.Property

/-!
# Patterns and what they match

A pattern is matched by partial derivatives: `step` gives the patterns that remain after one
character, `nullable` tells whether nothing more is needed. Both see the characters on either side
of the current spot, which is all that the zero-width tests look at.

Which of several matches is preferred plays no part here; only whether there is one. Where a text
cannot be used as a pattern, a text that is none and a pattern that is nested too deep are not told
apart.
-/

set_option autoImplicit false

namespace LeaseBroker

inductive PatternFault where
  | malformed
  | tooLarge
  deriving DecidableEq, Repr

namespace PatternFault

def memoryLimit : Nat := 10485760

def message : PatternFault → String
  | malformed => "regex parse error:"
  | tooLarge => s!"Compiled regex exceeds size limit of {memoryLimit} bytes."

end PatternFault

/-- A test of the spot between two characters. The flag says whether words may hold letters
outside ASCII. -/
inductive Look where
  | textStart
  | textEnd
  | lineStart
  | lineEnd
  | crlfStart
  | crlfEnd
  | wordEdge (unicode : Bool)
  | notWordEdge (unicode : Bool)
  | wordStart (unicode : Bool)
  | wordEnd (unicode : Bool)
  | wordStartHalf (unicode : Bool)
  | wordEndHalf (unicode : Bool)
  deriving DecidableEq

structure Spot where
  before : Option Char
  after : Option Char

def asciiWordChars : CharSet := ⟨[(48, 57), (65, 90), (95, 95), (97, 122)]⟩

def isWordChar (unicode : Bool) : Option Char → Bool
  | none => false
  | some c => (if unicode then Unicode.wordChars else asciiWordChars).contains c

def Look.holds (spot : Spot) : Look → Bool
  | textStart => spot.before.isNone
  | textEnd => spot.after.isNone
  | lineStart => spot.before.isNone || spot.before == some '\n'
  | lineEnd => spot.after.isNone || spot.after == some '\n'
  | crlfStart => spot.before.isNone || spot.before == some '\n' ||
      (spot.before == some '\r' && spot.after != some '\n')
  | crlfEnd => spot.after.isNone || spot.after == some '\r' ||
      (spot.after == some '\n' && spot.before != some '\r')
  | wordEdge u => isWordChar u spot.before != isWordChar u spot.after
  | notWordEdge u => isWordChar u spot.before == isWordChar u spot.after
  | wordStart u => !isWordChar u spot.before && isWordChar u spot.after
  | wordEnd u => isWordChar u spot.before && !isWordChar u spot.after
  | wordStartHalf u => !isWordChar u spot.before
  | wordEndHalf u => !isWordChar u spot.after

/-- A pattern. A repetition has a least and possibly a greatest number of rounds. -/
inductive Pattern where
  | empty
  | chars (set : CharSet)
  | look (l : Look)
  | seq (a b : Pattern)
  | alt (a b : Pattern)
  | rep (p : Pattern) (min : Nat) (max : Option Nat)
  | group (p : Pattern)
  deriving DecidableEq

namespace Pattern

def andThen (a b : Pattern) : Pattern :=
  if a = .empty then b else if b = .empty then a else .seq a b

def zeroWidth : Pattern → Bool
  | empty => true
  | chars _ => false
  | look _ => true
  | seq a b => a.zeroWidth && b.zeroWidth
  | alt a b => a.zeroWidth && b.zeroWidth
  | rep p _ max => p.zeroWidth || max == some 0
  | group p => p.zeroWidth

/-- A repetition. More than one round of a zero-width pattern is the same as one, no round is the
empty pattern and exactly one round is the pattern itself. -/
def repeated (p : Pattern) (min : Nat) (max : Option Nat) : Pattern :=
  let min := if p.zeroWidth then Nat.min min 1 else min
  let max := if p.zeroWidth then some (Nat.min (max.getD 1) 1) else max
  if min = 0 ∧ max = some 0 then .empty
  else if min = 1 ∧ max = some 1 then p
  else .rep p min max

def nullable (spot : Spot) : Pattern → Bool
  | empty => true
  | chars _ => false
  | look l => l.holds spot
  | seq a b => a.nullable spot && b.nullable spot
  | alt a b => a.nullable spot || b.nullable spot
  | rep p min _ => min == 0 || p.nullable spot
  | group p => p.nullable spot

/-- The patterns of which one must match what follows `c`, after `before`, for the pattern to match
from `c` on. A round that needs no character at this spot may be left out, and then so may be any
number of them. -/
def step (before : Option Char) (c : Char) : Pattern → List Pattern
  | empty => []
  | chars s => if s.contains c then [.empty] else []
  | look _ => []
  | seq a b =>
    (a.step before c).map (·.andThen b) ++
      if a.nullable ⟨before, some c⟩ then b.step before c else []
  | alt a b => a.step before c ++ b.step before c
  | rep p min max =>
    if max = some 0 then []
    else
      let min := if p.nullable ⟨before, some c⟩ then 0 else min - 1
      (p.step before c).map (·.andThen (.rep p min (max.map (· - 1))))
  | group p => p.step before c

def anyMatchesHere (ps : List Pattern) (before : Option Char) : List Char → Bool
  | [] => ps.any (·.nullable ⟨before, none⟩)
  | c :: rest =>
    ps.any (·.nullable ⟨before, some c⟩) ||
      match (ps.flatMap (·.step before c)).eraseDups with
      | [] => false
      | next => anyMatchesHere next (some c) rest

def matchesFrom (p : Pattern) (before : Option Char) : List Char → Bool
  | [] => anyMatchesHere [p] before []
  | c :: rest => anyMatchesHere [p] before (c :: rest) || p.matchesFrom (some c) rest

def isMatch (p : Pattern) (text : String) : Bool := p.matchesFrom none text.toList

def matchesAtStart (p : Pattern) (text : String) : Bool := anyMatchesHere [p] none text.toList

end Pattern

end LeaseBroker
