import LeaseBroker.Text.Unicode.Age
import LeaseBroker.Text.Unicode.BinaryProperty
import LeaseBroker.Text.Unicode.GeneralCategory
import LeaseBroker.Text.Unicode.Script
import LeaseBroker.Text.Unicode.ScriptExtension
import LeaseBroker.Text.Unicode.Segmentation

/-!
# Properties of characters

Finds the characters that a property names. Names are compared without regard to case, blanks,
`_`, `-`, characters outside ASCII and a leading `is`.
-/

set_option autoImplicit false

namespace LeaseBroker.Unicode

/-- The form in which the names of properties and values are compared. -/
def looseName (name : String) : String :=
  let cs := name.toList
  let bare := match cs with
    | a :: b :: rest => if a.toLower = 'i' && b.toLower = 's' then rest else cs
    | _ => cs
  let kept := (bare.filter fun c => c.toNat < 128 && c ≠ ' ' && c ≠ '_' && c ≠ '-').map Char.toLower
  if kept = ['c'] && bare.length < cs.length then "isc" else String.ofList kept

/-- The general categories that a group of them takes together. -/
def categoryGroup? : String → Option (List String)
  | "l" | "letter" => some ["lu", "ll", "lt", "lm", "lo"]
  | "lc" | "casedletter" => some ["lu", "ll", "lt"]
  | "m" | "mark" | "combiningmark" => some ["mn", "mc", "me"]
  | "n" | "number" => some ["nd", "nl", "no"]
  | "p" | "punctuation" | "punct" => some ["pc", "pd", "ps", "pe", "pi", "pf", "po"]
  | "s" | "symbol" => some ["sm", "sc", "sk", "so"]
  | "z" | "separator" => some ["zs", "zl", "zp"]
  | _ => none

def assigned : CharSet :=
  .ofRanges <| ((0xD800, 0xDFFF) :: generalCategories.flatMap fun c => c.chars.ranges)

def generalCategory? (name : String) : Option CharSet :=
  match name with
  | "any" => some .all
  | "ascii" => some ⟨[(0, 127)]⟩
  | "assigned" => some assigned
  | "cn" | "unassigned" => some assigned.complement
  | "c" | "other" =>
    some (assigned.complement.union (CharClass.select generalCategories ["cc", "cf", "co"]))
  | _ =>
    match categoryGroup? name with
    | some parts => some (CharClass.select generalCategories parts)
    | none => CharClass.find? generalCategories name

def age? (version : String) : Option CharSet :=
  (ages.findIdx? fun c => c.names.contains version).map fun i =>
    .ofRanges <| (ages.take (i + 1)).flatMap fun c => c.chars.ranges

/-- How a class of characters is asked for. -/
inductive Query where
  | named (name : String)
  | valued (property value : String)
  deriving DecidableEq, Inhabited

/-- The characters that a property by itself names: a binary property, a general category or a
script. Three short names stand for categories although a property has them too. -/
def named? (name : String) : Option CharSet :=
  let name := looseName name
  let binary :=
    if name = "cf" || name = "sc" || name = "lc" then none
    else CharClass.find? binaryProperties name
  binary <|> generalCategory? name <|> CharClass.find? scripts name

def valued? (property value : String) : Option CharSet :=
  let value := looseName value
  match looseName property with
  | "gc" | "generalcategory" => generalCategory? value
  | "sc" | "script" => CharClass.find? scripts value
  | "scx" | "scriptextensions" => CharClass.find? scriptExtensions value
  | "age" => age? value
  | "gcb" | "graphemeclusterbreak" => CharClass.find? graphemeBreaks value
  | "wb" | "wordbreak" => CharClass.find? wordBreaks value
  | "sb" | "sentencebreak" => CharClass.find? sentenceBreaks value
  | _ => none

def Query.find? : Query → Option CharSet
  | named name => named? name
  | valued property value => valued? property value

def binaryProperty (name : String) : CharSet :=
  (CharClass.find? binaryProperties name).getD .empty

def alphabetic : CharSet := binaryProperty "alphabetic"

def whiteSpace : CharSet := binaryProperty "whitespace"

def decimalDigits : CharSet := CharClass.select generalCategories ["nd"]

def numeric : CharSet := CharClass.select generalCategories ["nd", "nl", "no"]

def wordChars : CharSet :=
  let marks := CharClass.select generalCategories ["mn", "mc", "me", "nd", "pc"]
  (alphabetic.union marks).union (binaryProperty "joincontrol")

end LeaseBroker.Unicode
