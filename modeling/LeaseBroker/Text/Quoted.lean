import LeaseBroker.Text.Numeral
import LeaseBroker.Text.Unicode.Property

/-!
# Texts in quotes

Messages show a text between quotes and escape what would not be seen or would be taken for
something else: quotes, backslashes, control characters, blanks other than the space, unassigned
code points and marks that extend the character before them.
-/

set_option autoImplicit false

namespace LeaseBroker.Text

/-- The characters beyond ASCII that a reader would not see. -/
def hidden : CharSet :=
  let unseen := ["c", "z"].map fun name => (Unicode.generalCategory? name).getD .empty
  unseen.foldl CharSet.union (Unicode.CharClass.select Unicode.binaryProperties ["graphemeextend"])

def hexDigits (n : Nat) : List Char :=
  if n < 16 then [lastHexDigit n] else hexDigits (n / 16) ++ [lastHexDigit n]

def shown (c : Char) : List Char :=
  match c with
  | '\x00' => ['\\', '0']
  | '\t' => ['\\', 't']
  | '\n' => ['\\', 'n']
  | '\r' => ['\\', 'r']
  | '"' => ['\\', '"']
  | '\\' => ['\\', '\\']
  | c =>
    if c.toNat < 32 ∨ c.toNat = 127 ∨ (127 < c.toNat ∧ hidden.contains c) then
      ['\\', 'u', '\x7b'] ++ hexDigits c.toNat ++ ['\x7d']
    else [c]

def quoted (s : String) : String :=
  String.ofList ('"' :: s.toList.flatMap shown ++ ['"'])

def quotedList (texts : List String) : String :=
  "[" ++ ", ".intercalate (texts.map quoted) ++ "]"

end LeaseBroker.Text
