import LeaseBroker.Proofs.JsonText
import Mathlib.Data.List.Forall2

/-!
# Printed JSON is read back

Both printers write texts of the value they print, the one without blanks and the other with line
breaks and indents. So a value whose whole numbers fit 64 bits is read back from either.
-/

set_option autoImplicit false

namespace LeaseBroker.Json

section Printed
variable {a b : List Char}

theorem Spells.of_items (ha : Blanks a) (hb : Blanks b) {js : List Json} {texts : List String}
    (h : List.Forall₂ (fun j t => Spells (.value j) t.toList) js texts) (hne : js ≠ []) :
    Spells (.items js) ((',' :: a).intercalate (texts.map String.toList) ++ (b ++ [']'])) := by
  induction h with
  | nil => exact absurd rfl hne
  | @cons j t js texts hj hrest ih =>
    cases hrest with
    | nil => simpa using Spells.lastItem hj hb
    | cons hj' hrest' => simpa [List.intercalate] using Spells.item hj blanks_nil ha (ih (by simp))

/-- Whether a text is the name of a member, a colon, blanks and a text of its value. -/
def SpellsMember (pad : List Char) (m : String × Json) (t : String) : Prop :=
  ∃ s, Spells (.value m.2) s ∧ t.toList = (quote m.1).toList ++ ':' :: (pad ++ s)

theorem Spells.of_members {pad : List Char} (hpad : Blanks pad) (ha : Blanks a) (hb : Blanks b)
    {ms : List (String × Json)} {texts : List String}
    (h : List.Forall₂ (SpellsMember pad) ms texts) (hne : ms ≠ []) :
    Spells (.members ms)
      ((',' :: a).intercalate (texts.map String.toList) ++ (b ++ ['\x7d'])) := by
  induction h with
  | nil => exact absurd rfl hne
  | @cons m t ms texts hm hrest ih =>
    obtain ⟨name, j⟩ := m
    obtain ⟨s, hs, ht⟩ := hm
    cases hrest with
    | nil => simpa [ht] using Spells.lastMember name hpad hs hb
    | cons hm' hrest' =>
      simpa [List.intercalate, ht] using Spells.member name hpad hs blanks_nil ha (ih (by simp))

end Printed

mutual

/-- Whether all whole numbers in a value fit 64 bits. -/
def InWords : Json → Prop
  | whole n => minWhole ≤ n ∧ n ≤ maxWhole
  | array items => ItemsInWords items
  | object members => MembersInWords members
  | _ => True

def ItemsInWords : List Json → Prop
  | [] => True
  | j :: rest => j.InWords ∧ ItemsInWords rest

def MembersInWords : List (String × Json) → Prop
  | [] => True
  | (_, j) :: rest => j.InWords ∧ MembersInWords rest

end

mutual

theorem spells_compact : ∀ {j : Json}, j.InWords → Spells (.value j) j.compact.toList
  | null, _ => .null
  | bool b, _ => .bool b
  | whole n, h => .whole h.1 h.2
  | decimal d, _ => .decimal d
  | string s, _ => .string s
  | array [], _ => .emptyArray blanks_nil
  | array (j :: rest), h => by
    have hitems := Spells.of_items blanks_nil blanks_nil (spells_compactItems h) (by simp)
    simpa [compact, String.toList_intercalate] using Spells.array blanks_nil hitems
  | object [], _ => .emptyObject blanks_nil
  | object (m :: rest), h => by
    have hmembers := Spells.of_members blanks_nil blanks_nil blanks_nil (spells_compactMembers h)
      (by simp)
    simpa [compact, String.toList_intercalate] using Spells.object blanks_nil hmembers

theorem spells_compactItems : ∀ {js : List Json}, ItemsInWords js →
    List.Forall₂ (fun j t => Spells (.value j) t.toList) js (compactItems js)
  | [], _ => .nil
  | _ :: _, h => .cons (spells_compact h.1) (spells_compactItems h.2)

theorem spells_compactMembers : ∀ {ms : List (String × Json)}, MembersInWords ms →
    List.Forall₂ (SpellsMember []) ms (compactMembers ms)
  | [], _ => .nil
  | (name, j) :: rest, h =>
    .cons ⟨j.compact.toList, spells_compact h.1, by simp⟩ (spells_compactMembers h.2)

end

/-- A line break and the blanks in front of a line at a depth. -/
def pad (depth : Nat) : List Char := '\n' :: List.replicate (2 * depth) ' '

theorem blanks_pad (depth : Nat) : Blanks (pad depth) := by
  intro c hc
  rcases List.mem_cons.mp hc with rfl | hc
  · rfl
  · rw [List.eq_of_mem_replicate hc]
    rfl

theorem toList_block (depth : Nat) (opening closing : String) {lines : List String}
    (h : lines ≠ []) :
    (block depth opening closing lines).toList = opening.toList ++ (pad (depth + 1) ++
      ((',' :: pad (depth + 1)).intercalate (lines.map String.toList) ++
        (pad depth ++ closing.toList))) := by
  cases lines with
  | nil => exact absurd rfl h
  | cons line rest => simp [block, pad, String.toList_intercalate]

mutual

theorem spells_prettyAt : ∀ {j : Json} (depth : Nat), j.InWords →
    Spells (.value j) (j.prettyAt depth).toList
  | null, _, _ => .null
  | bool b, _, _ => .bool b
  | whole n, _, h => .whole h.1 h.2
  | decimal d, _, _ => .decimal d
  | string s, _, _ => .string s
  | array [], _, _ => by
    simpa [prettyAt, prettyItems, block] using Spells.emptyArray blanks_nil
  | array (j :: rest), depth, h => by
    have hitems := Spells.of_items (blanks_pad (depth + 1)) (blanks_pad depth)
      (spells_prettyItems (depth + 1) h) (by simp)
    rw [prettyAt, toList_block _ _ _ (by simp [prettyItems])]
    simpa using Spells.array (blanks_pad (depth + 1)) hitems
  | object [], _, _ => by
    simpa [prettyAt, prettyMembers, block] using Spells.emptyObject blanks_nil
  | object (m :: rest), depth, h => by
    have hblank : Blanks [' '] := by simp [Blanks, isBlank]
    have hmembers := Spells.of_members hblank (blanks_pad (depth + 1)) (blanks_pad depth)
      (spells_prettyMembers (depth + 1) h) (by simp)
    rw [prettyAt, toList_block _ _ _ (by simp [prettyMembers])]
    simpa using Spells.object (blanks_pad (depth + 1)) hmembers

theorem spells_prettyItems : ∀ {js : List Json} (depth : Nat), ItemsInWords js →
    List.Forall₂ (fun j t => Spells (.value j) t.toList) js (prettyItems depth js)
  | [], _, _ => .nil
  | _ :: _, depth, h => .cons (spells_prettyAt depth h.1) (spells_prettyItems depth h.2)

theorem spells_prettyMembers : ∀ {ms : List (String × Json)} (depth : Nat), MembersInWords ms →
    List.Forall₂ (SpellsMember [' ']) ms (prettyMembers depth ms)
  | [], _, _ => .nil
  | (_, j) :: _, depth, h =>
    .cons ⟨(j.prettyAt depth).toList, spells_prettyAt depth h.1, by simp⟩
      (spells_prettyMembers depth h.2)

end

/-- A value is read back from either of its texts. -/
theorem parse?_compact {j : Json} (h : j.InWords) : parse? j.compact = some j :=
  (spells_compact h).parse? blanks_nil blanks_nil (by simp)

theorem parse?_pretty {j : Json} (h : j.InWords) : parse? j.pretty = some j :=
  (spells_prettyAt 0 h).parse? blanks_nil blanks_nil
    (by simp [pretty])

end LeaseBroker.Json
