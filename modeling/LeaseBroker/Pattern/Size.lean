import LeaseBroker.Pattern.Basic

/-!
# How large a pattern becomes

A pattern is refused when the machine that it stands for needs too much memory, although no such
machine is built here. The machine reads the bytes of UTF-8 text; it exists in a forward form,
where equal tails of the encodings of a class are shared, and in a backward form, where equal heads
are. Both have to stay within the limit.
-/

set_option autoImplicit false

namespace LeaseBroker.Pattern

/-- The bytes that one character may have at each position of its encoding. -/
abbrev ByteSeq := List (Nat × Nat)

def clip (lo hi : Nat) (parts : List (Nat × Nat)) : List (Nat × Nat) :=
  parts.filterMap fun (a, b) =>
    let l := Nat.max lo a
    let h := Nat.min hi b
    if l ≤ h then some (l, h) else none

/-- The encodings of a range of code points whose last `tail` bytes follow a head byte of at least
`lead`. Where an end of the range does not lie at the end of a block, the block is cut off and
encoded by itself. -/
def encodeFrom (lead : Nat) : Nat → Nat → Nat → List ByteSeq
  | 0, lo, hi => [[(lead + lo, lead + hi)]]
  | tail + 1, lo, hi =>
    let block := Nat.pow 64 (tail + 1)
    let lo' := lo / block
    let hi' := hi / block
    if lo' = hi' then
      (encodeFrom 0x80 tail (lo % block) (hi % block)).map ((lead + lo', lead + lo') :: ·)
    else
      let head := if lo % block = 0 then [] else
        (encodeFrom 0x80 tail (lo % block) (block - 1)).map ((lead + lo', lead + lo') :: ·)
      let last := if hi % block = block - 1 then [] else
        (encodeFrom 0x80 tail 0 (hi % block)).map ((lead + hi', lead + hi') :: ·)
      let from' := if lo % block = 0 then lo' else lo' + 1
      let upto := if hi % block = block - 1 then hi' + 1 else hi'
      let middle := if from' < upto then
        (encodeFrom 0x80 tail 0 (block - 1)).map ((lead + from', lead + (upto - 1)) :: ·) else []
      head ++ middle ++ last

def encodings (lo hi : Nat) : List ByteSeq :=
  ((clip lo hi [(0, 0x7F)]).flatMap fun r => encodeFrom 0 0 r.1 r.2) ++
  ((clip lo hi [(0x80, 0x7FF)]).flatMap fun r => encodeFrom 0xC0 1 r.1 r.2) ++
  ((clip lo hi [(0x800, 0xD7FF), (0xE000, 0xFFFF)]).flatMap fun r => encodeFrom 0xE0 2 r.1 r.2) ++
  ((clip lo hi [(0x10000, 0x10FFFF)]).flatMap fun r => encodeFrom 0xF0 3 r.1 r.2)

structure Size where
  states : Nat := 0
  bytes : Nat := 0

namespace Size

/-- The memory of a state without the lists that it carries. -/
def perState : Nat := 32

/-- What a state carries for each range of bytes that leads on. -/
def perRange : Nat := 8

/-- What a state carries for each state that it branches to. -/
def perBranch : Nat := 4

def add (a b : Size) : Size := ⟨a.states + b.states, a.bytes + b.bytes⟩

def times (n : Nat) (a : Size) : Size := ⟨n * a.states, n * a.bytes⟩

def memory (a : Size) : Nat := a.states * perState + a.bytes

end Size

def headGroups : List ByteSeq → List ((Nat × Nat) × List ByteSeq)
  | [] => []
  | [] :: rest => headGroups rest
  | (r :: tail) :: rest =>
    match headGroups rest with
    | (r', tails) :: groups =>
      if r = r' then (r, tail :: tails) :: groups else (r, [tail]) :: (r', tails) :: groups
    | [] => [(r, [tail])]

/-- The states of the forward form met so far: the ranges that lead on from each and to which
state. State 0 is the end of a character. -/
abbrev Shared := List (List ((Nat × Nat) × Nat))

/-- Adds the states for a list of encodings of at most `depth` bytes; the answer is the number of
the state where they begin. -/
def share : Nat → List ByteSeq → Shared → Nat × Shared
  | 0, _, met => (0, met)
  | depth + 1, seqs, met =>
    if seqs.all (·.isEmpty) then (0, met)
    else
      let (ways, met) := (headGroups seqs).foldl
        (fun (ways, met) (r, tails) =>
          let (target, met) := share depth tails met
          (ways ++ [(r, target)], met))
        (([] : List ((Nat × Nat) × Nat)), met)
      match met.findIdx? (· == ways) with
      | some i => (met.length - i, met)
      | none => (met.length + 1, ways :: met)

/-- How many different heads a list of encodings has, the full encodings included. -/
def countHeads : Nat → List ByteSeq → Nat
  | 0, _ => 0
  | depth + 1, seqs =>
    ((headGroups seqs).map fun (_, tails) => 1 + countHeads depth tails).sum

def classSize (forward : Bool) (s : CharSet) : Size :=
  if s.isAscii then
    match s.ranges with
    | [] => ⟨1, 0⟩
    | [(lo, hi)] => if lo = hi then ⟨1, 0⟩ else ⟨2, Size.perRange⟩
    | rs => ⟨2, rs.length * Size.perRange⟩
  else
    let seqs := s.ranges.flatMap fun r => encodings r.1 r.2
    match s.ranges, seqs with
    | [(lo, hi)], [enc] =>
      if lo = hi then ⟨enc.length, 0⟩
      else if forward then ⟨enc.length + 1, enc.length * Size.perRange⟩
      else ⟨enc.length + 2, Size.perBranch⟩
    | _, _ =>
      if forward then
        let states := (share 4 seqs []).2
        ⟨states.length + 1, states.foldl (fun n ways => n + ways.length * Size.perRange) 0⟩
      else ⟨countHeads 4 seqs + 2, seqs.length * Size.perBranch⟩

def mayBeEmpty : Pattern → Bool
  | .empty => true
  | .chars s => s.ranges.isEmpty
  | .look _ => true
  | .seq a b => a.mayBeEmpty && b.mayBeEmpty
  | .alt a b => a.mayBeEmpty || b.mayBeEmpty
  | .rep p min _ => min == 0 || p.mayBeEmpty
  | .group p => p.mayBeEmpty

def roundsSize (one : Size) (mayBeEmpty : Bool) (min : Nat) : Option Nat → Size
  | some max =>
    if min = 0 ∧ max = 1 then (one.add ⟨2, 2 * Size.perBranch⟩)
    else if min = max then one.times min
    else
      let start := if min = 0 then ⟨1, 0⟩ else one.times min
      (start.add ((one.add ⟨1, 2 * Size.perBranch⟩).times (max - min))).add ⟨1, 0⟩
  | none =>
    match min with
    | 0 =>
      if mayBeEmpty then one.add ⟨3, 4 * Size.perBranch⟩ else one.add ⟨1, 2 * Size.perBranch⟩
    | n + 1 => (one.times (n + 1)).add ⟨1, 2 * Size.perBranch⟩

/-- The size of a pattern. Inside a choice, a further choice only adds a branch. -/
def size (forward : Bool) (inChoice : Bool) : Pattern → Size
  | .empty => ⟨1, 0⟩
  | .chars s => classSize forward s
  | .look _ => ⟨1, 0⟩
  | .seq a b => (a.size forward false).add (b.size forward false)
  | .alt a b =>
    let branches := ((a.size forward false).add (b.size forward true)).add ⟨0, Size.perBranch⟩
    if inChoice then branches else branches.add ⟨2, Size.perBranch⟩
  | .rep p min max => roundsSize (p.size forward false) p.mayBeEmpty min max
  | .group p =>
    if forward then (p.size forward false).add ⟨2, 0⟩ else p.size forward false

/-- What the machine needs besides the states of the pattern: the search for a start, the match as
a whole and its end. -/
def frameSize : Size := ⟨7, Size.perRange + 2 * Size.perBranch⟩

def fits (p : Pattern) : Bool :=
  ((p.size true false).add frameSize).memory ≤ PatternFault.memoryLimit &&
    ((p.size false false).add frameSize).memory ≤ PatternFault.memoryLimit

end LeaseBroker.Pattern
