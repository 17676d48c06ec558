import LeaseBroker.Proofs.TomlDocuments
import LeaseBroker.Proofs.LoadedSettings

/-!
# Capacities survive their integer form

A capacity is written as a signed 64-bit integer in which the negative numbers are spoken for: one
of them stands for no limit and the others are refused. A limit too large for such an integer is
written as the largest one, so what is read back is the capacity cut off at that limit. It is never
refused, never taken for no limit, and never admits more leases than the capacity did.
-/

set_option autoImplicit false

namespace LeaseBroker

theorem Word.fitsSigned_toInt (v : Int64) : fitsSigned v.toInt = true :=
  fitsSigned_iff.mpr ⟨v.le_toInt, v.toInt_lt⟩

theorem Word.exists_toInt {n : Int} (h : fitsSigned n = true) : ∃ v : Int64, v.toInt = n := by
  obtain ⟨hlow, hhigh⟩ := fitsSigned_iff.mp h
  exact ⟨Int64.ofInt n, Int64.toInt_ofInt_of_le hlow hhigh⟩

namespace Capacity
variable {c : Capacity} {v : Int}

/-! ### Reading -/

theorem ofInt_of_nonneg (h : 0 ≤ v) : ofInt v = .ok (limited v.toNat) := by
  have hlimit : v ≠ -1 := by omega
  rw [ofInt, if_neg hlimit, if_pos h]

theorem exists_ofInt_iff : (∃ c, ofInt v = .ok c) ↔ -1 ≤ v := by
  constructor
  · rintro ⟨c, hc⟩
    by_contra hlow
    have hlimit : v ≠ -1 := by omega
    have hneg : ¬0 ≤ v := by omega
    rw [ofInt, if_neg hlimit, if_neg hneg] at hc
    cases hc
  · intro h
    by_cases hlimit : v = -1
    · exact ⟨unlimited, if_pos hlimit⟩
    · exact ⟨limited v.toNat, ofInt_of_nonneg (by omega)⟩

theorem toInt_of_ofInt (hv : Word.fitsSigned v = true) (h : ofInt v = .ok c) : c.toInt = v := by
  obtain ⟨-, hhigh⟩ := Word.fitsSigned_iff.mp hv
  unfold ofInt at h
  split at h
  · rename_i hlimit
    cases h
    exact hlimit.symm
  · split at h
    · cases h
      rw [toInt, maxWritten]
      omega
    · cases h

/-! ### Writing -/

theorem toInt_fits (c : Capacity) : Word.fitsSigned c.toInt = true := by
  cases c with
  | unlimited => rfl
  | limited max =>
    have hcut : min max maxWritten < Word.signedLimit :=
      Nat.lt_of_le_of_lt (Nat.min_le_right _ _) (by decide)
    rw [Word.fitsSigned_iff, toInt]
    omega

/-- The capacity cut off at the largest limit that can be written. -/
def clipped : Capacity → Capacity
  | limited max => limited (min max maxWritten)
  | unlimited => unlimited

theorem ofInt_toInt (c : Capacity) : ofInt c.toInt = .ok c.clipped := by
  cases c with
  | unlimited => rfl
  | limited max => exact ofInt_of_nonneg (Int.natCast_nonneg _)

theorem clipped_of_isWritten (h : c.IsWritten) : c.clipped = c := by
  cases c with
  | unlimited => rfl
  | limited max => exact congrArg limited (Nat.min_eq_left h)

theorem clipped_unlimited_iff : c.clipped = unlimited ↔ c = unlimited := by
  cases c <;> simp [clipped]

theorem clipped_admits {leases : Nat} (h : leases < maxWritten) :
    c.clipped.admits leases = c.admits leases := by
  cases c with
  | unlimited => rfl
  | limited max => simp [clipped, admits, h]

/-- Cutting off admits nothing new, however many leases there are. -/
theorem admits_of_clipped {leases : Nat} (h : c.clipped.admits leases = true) :
    c.admits leases = true := by
  cases c with
  | unlimited => rfl
  | limited max =>
    have hbelow : leases < min max maxWritten := of_decide_eq_true h
    exact decide_eq_true (Nat.lt_of_lt_of_le hbelow (Nat.min_le_left _ _))

/-- Of the 64-bit integers those from `-1` on are capacities, each the integer form of the one it
stands for. The integer form of every capacity is such an integer. What is read back from it has no
limit only if the capacity has none, agrees with it about every number of leases below the largest
64-bit integer, and never admits where it does not. -/
theorem integer_coding :
    (∀ v : Int64, ((∃ c, ofInt v.toInt = .ok c) ↔ -1 ≤ v.toInt) ∧
      ∀ c, ofInt v.toInt = .ok c → c.toInt = v.toInt) ∧
    ∀ c : Capacity, ∃ v : Int64, v.toInt = c.toInt ∧
      ∃ back, ofInt v.toInt = .ok back ∧
        (back = unlimited ↔ c = unlimited) ∧
        (∀ leases < 2 ^ 63 - 1, back.admits leases = c.admits leases) ∧
        ∀ leases, back.admits leases = true → c.admits leases = true := by
  constructor
  · intro v
    exact ⟨exists_ofInt_iff, fun c => toInt_of_ofInt (Word.fitsSigned_toInt v)⟩
  · intro c
    obtain ⟨v, hv⟩ := Word.exists_toInt c.toInt_fits
    have hback : ofInt v.toInt = .ok c.clipped := by rw [hv, ofInt_toInt]
    exact ⟨v, hv, c.clipped, hback, clipped_unlimited_iff, fun _ => clipped_admits,
      fun _ => admits_of_clipped⟩

/-- The largest limit of all is read back as the largest that can be written, and not as none. The
smallest integers are refused. -/
theorem integer_coding_limits :
    (limited (2 ^ 64 - 1)).toInt = Int64.maxValue.toInt ∧
    (∃ back, ofInt Int64.maxValue.toInt = .ok back ∧ back ≠ unlimited ∧
      back.admits (2 ^ 63 - 2) = true ∧ back.admits (2 ^ 63 - 1) = false) ∧
    ¬∃ c, ofInt Int64.minValue.toInt = .ok c := by
  obtain ⟨hread, hwritten⟩ := integer_coding
  have hform : (limited (2 ^ 64 - 1)).toInt = Int64.maxValue.toInt := by decide
  obtain ⟨v, hv, back, hback, hnone, hagree, _⟩ := hwritten (limited (2 ^ 64 - 1))
  rw [hv, hform] at hback
  refine ⟨hform, ⟨back, hback, fun h => ?_, ?_, ?_⟩, fun h => ?_⟩
  · cases hnone.mp h
  · rw [hagree (2 ^ 63 - 2) (by decide)]
    decide
  · -- Here the cut-off is seen: the limit itself would have admitted one more.
    have hcut : ofInt Int64.maxValue.toInt = .ok (limited (2 ^ 63 - 1)) := by decide
    rw [hback] at hcut
    cases hcut
    decide
  · exact absurd ((hread Int64.minValue).1.mp h) (by decide)

end Capacity

/-! ### Written in JSON -/

namespace Document

theorem readSigned_ofJson {n : Int} (h : Word.fitsSigned n = true) :
    (ofJson (.whole n)).readSigned = .ok n := by
  obtain ⟨-, hhigh⟩ := Word.fitsSigned_iff.mp h
  rw [ofJson]
  split
  · rfl
  · have hfits : n.toNat < Word.signedLimit := by omega
    have hsame : (n.toNat : Int) = n := by omega
    rw [readSigned, if_pos hfits, hsame]

theorem readCapacity_ofJson (c : Capacity) :
    (ofJson (.whole c.toInt)).readCapacity = .ok c.clipped := by
  rw [readCapacity, readSigned_ofJson c.toInt_fits]
  simp only [c.ofInt_toInt]

end Document

end LeaseBroker
