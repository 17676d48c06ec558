import LeaseBroker.Json.Basic
import LeaseBroker.Text.Numeral

/-!
# Printing JSON

A value is printed on one line, or over several lines with two blanks for each level. Strings are
escaped where JSON demands it and nowhere else.
-/

set_option autoImplicit false

namespace LeaseBroker.Json

def escapeChar (c : Char) : List Char :=
  match c with
  | '"' => ['\\', '"']
  | '\\' => ['\\', '\\']
  | '\x08' => ['\\', 'b']
  | '\x0c' => ['\\', 'f']
  | '\n' => ['\\', 'n']
  | '\r' => ['\\', 'r']
  | '\t' => ['\\', 't']
  | c =>
    if c.toNat < 32 then ['\\', 'u', '0', '0', Text.lastHexDigit (c.toNat / 16), Text.lastHexDigit c.toNat]
    else [c]

def quote (s : String) : String :=
  String.ofList ('"' :: s.toList.flatMap escapeChar ++ ['"'])

/-- A decimal with its exponent written out. -/
def decimalText (d : Decimal) : String :=
  (if d.negative then "-" else "") ++ toString d.mantissa ++ "e" ++ toString d.exponent

mutual

def compact : Json → String
  | null => "null"
  | bool b => if b then "true" else "false"
  | whole n => toString n
  | decimal d => decimalText d
  | string s => quote s
  | array items => "[" ++ ",".intercalate (compactItems items) ++ "]"
  | object members => "\x7b" ++ ",".intercalate (compactMembers members) ++ "\x7d"

def compactItems : List Json → List String
  | [] => []
  | j :: rest => j.compact :: compactItems rest

def compactMembers : List (String × Json) → List String
  | [] => []
  | (name, j) :: rest => (quote name ++ ":" ++ j.compact) :: compactMembers rest

end

/-- Puts lines between brackets, each on a line of its own and one level deeper. -/
def block (depth : Nat) (opening closing : String) (lines : List String) : String :=
  match lines with
  | [] => opening ++ closing
  | _ =>
    let pad (n : Nat) : String := "\n" ++ String.ofList (List.replicate (2 * n) ' ')
    opening ++ pad (depth + 1) ++ ("," ++ pad (depth + 1)).intercalate lines ++ pad depth ++ closing

mutual

/-- The value over several lines, when it begins on a line at this depth. -/
def prettyAt (depth : Nat) : Json → String
  | array items => block depth "[" "]" (prettyItems (depth + 1) items)
  | object members => block depth "\x7b" "\x7d" (prettyMembers (depth + 1) members)
  | null => "null"
  | bool b => if b then "true" else "false"
  | whole n => toString n
  | decimal d => decimalText d
  | string s => quote s

def prettyItems (depth : Nat) : List Json → List String
  | [] => []
  | j :: rest => j.prettyAt depth :: prettyItems depth rest

def prettyMembers (depth : Nat) : List (String × Json) → List String
  | [] => []
  | (name, j) :: rest => (quote name ++ ": " ++ j.prettyAt depth) :: prettyMembers depth rest

end

def pretty (j : Json) : String := j.prettyAt 0

end LeaseBroker.Json
