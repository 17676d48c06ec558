import LeaseBroker.Proofs.Cutting
import LeaseBroker.Serial.LinkName
import Mathlib.Data.String.Basic

/-!
# Which names of links can be read

A name is cut at five places, and each cut is at the first or at the last place where its separator
stands. So a name can be read exactly if it is spelled from parts that keep clear of some of the
separators, and these parts are then what is read. The identifier joins some of the parts again, and
two names share one only if the parts agree or a serial number looks like a port of another adapter.
-/

set_option autoImplicit false

namespace LeaseBroker.LinkName
open Text

/-! ### The grammar -/

/-- What can be told apart again. The model may be anything, and the port may be anything that does
not bring in another `-if`. -/
structure WellFormed (n : LinkName) : Prop where
  vendor : n.vendor ≠ ""
  serial : n.serial ≠ ""
  interface : n.interface ≠ ""
  port : n.port ≠ ""
  vendor_plain : '_' ∉ n.vendor.toList
  serial_plain : '_' ∉ n.serial.toList
  interface_plain : ¬ "-port".toList <:+: n.interface.toList
  suffix_plain : ¬ "-if".toList <:+: (n.interface ++ "-port" ++ n.port).toList

/-- Whether a text is the name made of given parts. The underscore of an empty model may be
missing. -/
def Spells (n : LinkName) (text : String) : Prop :=
  text = "usb-" ++ n.vendor ++ "_" ++ n.model ++ "_" ++ n.serial ++ "-if" ++ n.interface ++
    "-port" ++ n.port ∨
  n.model = "" ∧
    text = "usb-" ++ n.vendor ++ "_" ++ n.serial ++ "-if" ++ n.interface ++ "-port" ++ n.port

section Cuts
variable {s front back : List Char}

theorem cutLast?_if : cutLast? "-if".toList s = some (front, back) ↔
    s = front ++ ("-if".toList ++ back) ∧ ¬ "-if".toList <:+: back := by
  have hdash : '-' ∉ ['i', 'f'] := by decide
  exact cutLast?_eq_some_iff hdash

theorem cutFirst?_port : cutFirst? "-port".toList s = some (front, back) ↔
    s = front ++ ("-port".toList ++ back) ∧ ¬ "-port".toList <:+: front := by
  have hdash : '-' ∉ ['p', 'o', 'r', 't'] := by decide
  exact cutFirst?_eq_some_iff hdash

theorem cutFirst?_underscore : cutFirst? ['_'] s = some (front, back) ↔
    s = front ++ '_' :: back ∧ '_' ∉ front := by
  rw [cutFirst?_eq_some_iff List.not_mem_nil, List.singleton_infix_iff]
  rfl

theorem cutLast?_underscore : (cutLast? ['_'] s).getD ([], s) = (front, back) ↔
    (s = front ++ '_' :: back ∨ front = [] ∧ s = back) ∧ '_' ∉ back := by
  have hsome (a b : List Char) : cutLast? ['_'] s = some (a, b) ↔
      s = a ++ '_' :: b ∧ '_' ∉ b := by
    rw [cutLast?_eq_some_iff List.not_mem_nil, List.singleton_infix_iff]
    rfl
  have hnone : cutLast? ['_'] s = none ↔ '_' ∉ s := by
    rw [cutLast?_eq_none_iff, List.singleton_infix_iff]
  constructor
  · intro h
    cases hcut : cutLast? ['_'] s with
    | none =>
      rw [hcut] at h
      cases h
      exact ⟨Or.inr ⟨rfl, rfl⟩, hnone.mp hcut⟩
    | some cut =>
      rw [hcut] at h
      obtain rfl : cut = (front, back) := h
      obtain ⟨hs, hback⟩ := (hsome front back).mp hcut
      exact ⟨Or.inl hs, hback⟩
  · rintro ⟨hs | ⟨rfl, rfl⟩, hback⟩
    · rw [(hsome front back).mpr ⟨hs, hback⟩, Option.getD_some]
    · rw [hnone.mpr hback, Option.getD_none]

end Cuts

variable {text : String} {n : LinkName}

theorem spells_iff : n.Spells text ↔ ∃ rest,
    (rest = n.model.toList ++ '_' :: n.serial.toList ∨
      n.model.toList = [] ∧ rest = n.serial.toList) ∧
    text.toList = "usb-".toList ++ ((n.vendor.toList ++ '_' :: rest) ++
      ("-if".toList ++ (n.interface.toList ++ ("-port".toList ++ n.port.toList)))) := by
  have hunderscore : "_".toList = ['_'] := rfl
  simp only [Spells, ← String.toList_inj, String.toList_append, hunderscore, List.append_assoc,
    List.cons_append, List.nil_append]
  constructor
  · rintro (htext | ⟨hmodel, htext⟩)
    · exact ⟨_, Or.inl rfl, by simpa using htext⟩
    · exact ⟨_, Or.inr ⟨hmodel, rfl⟩, by simpa using htext⟩
  · rintro ⟨_, rfl | ⟨hmodel, rfl⟩, htext⟩
    · exact Or.inl (by simpa using htext)
    · exact Or.inr ⟨hmodel, by simpa using htext⟩

theorem parse?_eq_some_iff : parse? text = some n ↔ n.WellFormed ∧ n.Spells text := by
  rw [spells_iff]
  unfold parse?
  simp only [Option.bind_eq_bind, Option.bind_eq_some_iff, Prod.exists, dropFront?_eq_some_iff,
    cutLast?_if, cutFirst?_port, cutFirst?_underscore]
  constructor
  · rintro ⟨_, htext, _, _, ⟨rfl, hsuffix⟩, interface, port, ⟨rfl, hinterface⟩, vendor, rest,
      ⟨rfl, hvendor⟩, hread⟩
    generalize hcut : (cutLast? ['_'] rest).getD ([], rest) = cut at hread
    obtain ⟨model, serial⟩ := cut
    obtain ⟨hrest, hserial⟩ := cutLast?_underscore.mp hcut
    split at hread
    · cases hread
    · rename_i hfilled
      cases hread
      simp only [Bool.or_eq_true, List.isEmpty_iff, not_or] at hfilled
      obtain ⟨⟨⟨hi, hp⟩, hv⟩, hs⟩ := hfilled
      refine ⟨?_, rest, ?_, ?_⟩
      · constructor <;> simpa [← String.toList_eq_nil_iff]
      · simpa using hrest
      · simpa using htext
  · rintro ⟨hn, rest, hrest, htext⟩
    have hcut := cutLast?_underscore.mpr ⟨hrest, hn.serial_plain⟩
    have hsuffix : ¬ "-if".toList <:+:
        n.interface.toList ++ ("-port".toList ++ n.port.toList) := by
      simpa using hn.suffix_plain
    refine ⟨_, htext, _, _, ⟨rfl, hsuffix⟩, _, _, ⟨rfl, hn.interface_plain⟩, _, _,
      ⟨rfl, hn.vendor_plain⟩, ?_⟩
    rw [hcut]
    simp [hn.vendor, hn.serial, hn.interface, hn.port]

example : parse? "usb-V__S-if00-port0" = parse? "usb-V_S-if00-port0" := by decide +kernel

/-- Exactly the names that are spelled from parts that can be told apart are read, and what is read
are these parts. -/
theorem parse?_exact (text : String) :
    (∀ n, parse? text = some n ↔ n.WellFormed ∧ n.Spells text) ∧
    (parse? text = none ↔ ∀ n, ¬ (WellFormed n ∧ n.Spells text)) := by
  refine ⟨fun n => parse?_eq_some_iff, ?_⟩
  rw [Option.eq_none_iff_forall_ne_some]
  apply forall_congr'
  intro n
  rw [← parse?_eq_some_iff]

/-! ### Identifiers -/

def Primary (n : LinkName) : Prop :=
  (∀ c ∈ n.interface.toList, c = '0') ∧ ∀ c ∈ n.port.toList, c = '0'

def qualified (n : LinkName) : String :=
  n.serial ++ "-if" ++ n.interface ++ "-port" ++ n.port

theorem isPrimary_iff : n.isPrimary = true ↔ n.Primary := by
  simp [isPrimary, Primary]

instance (n : LinkName) : Decidable n.Primary := decidable_of_iff _ isPrimary_iff

theorem deviceId_of_primary (h : n.Primary) : n.deviceId = n.serial :=
  if_pos (isPrimary_iff.mpr h)

theorem deviceId_of_not_primary (h : ¬ n.Primary) : n.deviceId = n.qualified := by
  apply if_neg
  rwa [isPrimary_iff]

variable {n₁ n₂ : LinkName}

theorem primary_congr (hinterface : n₁.interface = n₂.interface) (hport : n₁.port = n₂.port) :
    n₁.Primary ↔ n₂.Primary := by
  rw [Primary, Primary, hinterface, hport]

/-- The parts of a qualified serial number can be told apart: neither cut can be elsewhere. -/
theorem qualified_inj (h₁ : n₁.WellFormed) (h₂ : n₂.WellFormed) :
    n₁.qualified = n₂.qualified ↔
      n₁.serial = n₂.serial ∧ n₁.interface = n₂.interface ∧ n₁.port = n₂.port := by
  constructor
  · intro h
    have hcut {n : LinkName} (hn : n.WellFormed) : cutLast? "-if".toList n.qualified.toList =
        some (n.serial.toList, (n.interface ++ "-port" ++ n.port).toList) := by
      refine cutLast?_if.mpr ⟨?_, hn.suffix_plain⟩
      simp [qualified]
    have hcut' {n : LinkName} (hn : n.WellFormed) :
        cutFirst? "-port".toList (n.interface ++ "-port" ++ n.port).toList =
          some (n.interface.toList, n.port.toList) := by
      refine cutFirst?_port.mpr ⟨?_, hn.interface_plain⟩
      simp
    have houter := (hcut h₁).symm.trans (h ▸ hcut h₂)
    obtain ⟨hserial, hsuffix⟩ := Prod.mk.inj (Option.some.inj houter)
    have hinner := (hcut' h₁).symm.trans (hsuffix ▸ hcut' h₂)
    obtain ⟨hinterface, hport⟩ := Prod.mk.inj (Option.some.inj hinner)
    exact ⟨String.toList_inj.mp hserial, String.toList_inj.mp hinterface,
      String.toList_inj.mp hport⟩
  · rintro ⟨hserial, hinterface, hport⟩
    rw [qualified, qualified, hserial, hinterface, hport]

/-- When two names have the same identifier. In the second and the third case the serial number of
one adapter is spelled like a port of another one. -/
def Shares (n₁ n₂ : LinkName) : Prop :=
  (n₁.serial = n₂.serial ∧ (n₁.Primary ∧ n₂.Primary ∨
    n₁.interface = n₂.interface ∧ n₁.port = n₂.port)) ∨
  (n₁.Primary ∧ ¬ n₂.Primary ∧ n₁.serial = n₂.qualified) ∨
  (¬ n₁.Primary ∧ n₂.Primary ∧ n₂.serial = n₁.qualified)

instance (n₁ n₂ : LinkName) : Decidable (n₁.Shares n₂) :=
  inferInstanceAs (Decidable (_ ∨ _ ∨ _))

theorem WellFormed.deviceId_eq_iff (h₁ : n₁.WellFormed) (h₂ : n₂.WellFormed) :
    n₁.deviceId = n₂.deviceId ↔ n₁.Shares n₂ := by
  -- Names with the same interface and port are primary together.
  have hdiffer (h : ¬ (n₁.Primary ↔ n₂.Primary)) :
      ¬ (n₁.interface = n₂.interface ∧ n₁.port = n₂.port) := by
    rintro ⟨hinterface, hport⟩
    exact h (primary_congr hinterface hport)
  unfold Shares
  by_cases hp₁ : n₁.Primary <;> by_cases hp₂ : n₂.Primary
  · rw [deviceId_of_primary hp₁, deviceId_of_primary hp₂]
    simp [hp₁, hp₂]
  · have hother := hdiffer (by simp [hp₁, hp₂])
    rw [deviceId_of_primary hp₁, deviceId_of_not_primary hp₂]
    simp [hp₁, hp₂, hother]
  · have hother := hdiffer (by simp [hp₁, hp₂])
    rw [deviceId_of_not_primary hp₁, deviceId_of_primary hp₂, eq_comm]
    simp [hp₁, hp₂, hother]
  · rw [deviceId_of_not_primary hp₁, deviceId_of_not_primary hp₂, qualified_inj h₁ h₂]
    simp [hp₁, hp₂]

theorem serial_ne_qualified (n : LinkName) : n.serial ≠ n.qualified := by
  intro h
  have hlength := congrArg String.length h
  have hif : "-if".length = 3 := rfl
  simp only [qualified, String.length_append] at hlength
  omega

/-- Two names that are read have the same identifier exactly if they agree in what makes it up or if
the serial number of one is spelled like a port of the other. A link that is not primary has its
identifier to itself among the links of its adapter, the primary one included. -/
theorem identifiers_shared {text₁ text₂ : String} (h₁ : parse? text₁ = some n₁)
    (h₂ : parse? text₂ = some n₂) :
    (n₁.deviceId = n₂.deviceId ↔ n₁.Shares n₂) ∧
    (n₁.serial = n₂.serial → ¬ n₁.Primary →
      (n₁.deviceId = n₂.deviceId ↔ n₁.interface = n₂.interface ∧ n₁.port = n₂.port)) := by
  have hiff := (parse?_eq_some_iff.mp h₁).1.deviceId_eq_iff (parse?_eq_some_iff.mp h₂).1
  refine ⟨hiff, ?_⟩
  intro hserial hport
  rw [hiff]
  constructor
  · rintro (⟨_, ⟨hprimary, _⟩ | hsame⟩ | ⟨hprimary, _⟩ | ⟨_, _, hlike⟩)
    · exact absurd hprimary hport
    · exact hsame
    · exact absurd hprimary hport
    · rw [← hserial] at hlike
      exact absurd hlike n₁.serial_ne_qualified
  · intro hsame
    exact Or.inl ⟨hserial, Or.inr hsame⟩

theorem identifiers_shared_lookalike :
    ∃ n₁ n₂, parse? "usb-A_B_S-if01-port1-if00-port0" = some n₁ ∧
      parse? "usb-X_Y_S-if01-port1" = some n₂ ∧ n₁.serial ≠ n₂.serial ∧
      n₁.deviceId = n₂.deviceId := by
  have h₁ : parse? "usb-A_B_S-if01-port1-if00-port0" =
      some ⟨"A", "B", "S-if01-port1", "00", "0"⟩ := by decide +kernel
  have h₂ : parse? "usb-X_Y_S-if01-port1" = some ⟨"X", "Y", "S", "01", "1"⟩ := by decide +kernel
  exact ⟨_, _, h₁, h₂, by decide, (identifiers_shared h₁ h₂).1.mpr (by decide)⟩

end LeaseBroker.LinkName
