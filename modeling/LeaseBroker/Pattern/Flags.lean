import LeaseBroker.Pattern.Basic

/-!
# Flags of a pattern

Flags are set for the rest of a group, or for a group. Where a flag stands twice in one setting the
setting is refused, so the first mention of a flag decides.
-/

set_option autoImplicit false

namespace LeaseBroker.Pattern

/-- A flag by its letter: `i`, `m`, `s`, `R`, `U`, `u`, `x`. -/
inductive Flag where
  | ignoreCase
  | multiLine
  | dotAll
  | crlf
  | swapGreed
  | unicode
  | verbose
  deriving DecidableEq

def Flag.ofLetter? : Char → Option Flag
  | 'i' => some ignoreCase
  | 'm' => some multiLine
  | 's' => some dotAll
  | 'R' => some crlf
  | 'U' => some swapGreed
  | 'u' => some unicode
  | 'x' => some verbose
  | _ => none

/-- The flags in force. Greed is not among them: it decides between matches only. -/
structure Flags where
  ignoreCase : Bool := false
  multiLine : Bool := false
  dotAll : Bool := false
  crlf : Bool := false
  unicode : Bool := true
  verbose : Bool := false

abbrev Setting := List (Flag × Bool)

namespace Flags

def switch (fs : Flags) (flag : Flag) (on : Bool) : Flags :=
  match flag with
  | .ignoreCase => { fs with ignoreCase := on }
  | .multiLine => { fs with multiLine := on }
  | .dotAll => { fs with dotAll := on }
  | .crlf => { fs with crlf := on }
  | .swapGreed => fs
  | .unicode => { fs with unicode := on }
  | .verbose => { fs with verbose := on }

def apply (fs : Flags) (setting : Setting) : Flags :=
  setting.foldl (fun fs s => fs.switch s.1 s.2) fs

end Flags

/-- Reads the letters of a setting up to a colon or a closing parenthesis, which is left in place.
`on` turns false at the only dash allowed, and letters have to follow it. -/
def Setting.read (on : Bool) (done : Setting) : List Char → Option (Setting × List Char)
  | [] => none
  | c :: rest =>
    if c = ':' ∨ c = ')' then some (done, c :: rest)
    else if c = '-' then
      if on && !(rest.head? == some ':' || rest.head? == some ')') then Setting.read false done rest
      else none
    else do
      let flag ← Flag.ofLetter? c
      if done.any (·.1 == flag) then none else Setting.read on (done ++ [(flag, on)]) rest

end LeaseBroker.Pattern
