import LeaseBroker.Text.Unicode.LowerCase

/-!
# Words in small letters

Which texts turn into a given word of ASCII letters when they are written in small letters. The
letters of the word in either case do. Nothing else does, unless the word has a `k`: this is also
the small form of the Kelvin sign. `İ` becomes an `i`, but with a dot of its own behind it.
-/

set_option autoImplicit false

namespace LeaseBroker.Unicode

/-- Whether a character is in ASCII and not the small form of any character outside. -/
def IsPlain (c : Char) : Prop := c.toNat < 128 ∧ c ≠ 'k'

instance (c : Char) : Decidable (IsPlain c) := inferInstanceAs (Decidable (_ ∧ _))

def IsPlainWord (word : String) : Prop := ∀ d ∈ word.toList, IsPlain d

instance (word : String) : Decidable (IsPlainWord word) := List.decidableBAll _ _

/-! ### The table -/

theorem lowerRuns_eq_cons : lowerRuns = ⟨0x41, 0x5A, 1, 32⟩ :: lowerRuns.tail := rfl

theorem le_of_mem_tail_lowerRuns : ∀ run ∈ lowerRuns.tail, 128 ≤ run.first := by
  decide +kernel

/-- Every run of the table lies in ASCII, is the Kelvin sign, or leads to characters outside. -/
theorem lowerRuns_stay : ∀ run ∈ lowerRuns, run.last < 128 ∨
    (run.first = 0x212A ∧ run.last = 0x212A ∧ run.distance = -8383) ∨
    (128 ≤ run.first + run.distance ∧ (run.last + run.distance < 0xD800 ∨
      (0xDFFF < run.first + run.distance ∧ run.last + run.distance < 0x110000))) := by
  decide +kernel

theorem FoldRun.bounds_of_covers {run : FoldRun} {code : Nat} (h : run.covers code = true) :
    run.first ≤ code ∧ code ≤ run.last := by
  simp only [covers, Bool.and_eq_true, decide_eq_true_eq] at h
  exact h.1

/-- Within ASCII the table knows the capital letters and nothing else. -/
theorem lowerCode_of_lt {code : Nat} (h : code < 128) :
    lowerCode code = if 0x41 ≤ code ∧ code ≤ 0x5A then code + 32 else code := by
  have hrest : lowerRuns.tail.find? (·.covers code) = none := by
    rw [List.find?_eq_none]
    intro run hrun hcovers
    have hfirst := le_of_mem_tail_lowerRuns run hrun
    have hbounds := FoldRun.bounds_of_covers hcovers
    omega
  rw [lowerCode, lowerRuns_eq_cons, List.find?_cons, hrest]
  by_cases hcapital : 0x41 ≤ code ∧ code ≤ 0x5A
  · have hcovers : FoldRun.covers ⟨0x41, 0x5A, 1, 32⟩ code = true := by
      simp [FoldRun.covers, hcapital, Nat.mod_one]
    rw [if_pos hcapital, hcovers]
    exact Int.toNat_natCast (code + 32)
  · have hcovers : FoldRun.covers ⟨0x41, 0x5A, 1, 32⟩ code = false := by
      rw [← Bool.not_eq_true]
      exact fun hcovers => hcapital (FoldRun.bounds_of_covers hcovers)
    rw [if_neg hcapital, hcovers]

theorem ofNat_lowerCode_of_lt :
    ∀ code < 128, Char.ofNat (lowerCode code) = (Char.ofNat code).toLower := by
  intro code h
  rw [lowerCode_of_lt h]
  revert code
  decide +kernel

theorem lowerCode_cases {code : Nat} (h : 128 ≤ code) (hvalid : code.isValidChar) :
    lowerCode code = 'k'.toNat ∨ (128 ≤ lowerCode code ∧ (lowerCode code).isValidChar) := by
  unfold lowerCode
  split
  · rename_i run hfind
    have hcovers : run.covers code = true := by simpa using List.find?_some hfind
    obtain ⟨hfirst, hlast⟩ := FoldRun.bounds_of_covers hcovers
    rcases lowerRuns_stay run (List.mem_of_find?_eq_some hfind) with hascii | hkelvin | hstays
    · omega
    · left
      have hcode : code = 0x212A := by omega
      rw [FoldRun.image, hcode, hkelvin.2.2]
      rfl
    · right
      unfold FoldRun.image Nat.isValidChar
      omega
  · exact Or.inr ⟨h, hvalid⟩

/-! ### One character -/

theorem toNat_ofNat_of_valid {n : Nat} (h : n.isValidChar) : (Char.ofNat n).toNat = n := by
  have hchar : Char.ofNat n = Char.ofNatAux n h := dif_pos h
  rw [hchar]
  rfl

theorem toLower_of_not_ascii {c : Char} (h : 128 ≤ c.toNat) : c.toLower = c := by
  have hcapital : ¬ (c.val ≥ 'A'.val ∧ c.val ≤ 'Z'.val) := by
    rintro ⟨_, hle⟩
    have hz : c.toNat ≤ 90 := hle
    omega
  exact dif_neg hcapital

variable (before behind : List Char) {c : Char}

theorem lowerForm_of_ascii (h : c.toNat < 128) : lowerForm before c behind = [c.toLower] := by
  have hsigma : c ≠ 'Σ' := by
    rintro rfl
    exact absurd h (by decide)
  have hdotted : c ≠ 'İ' := by
    rintro rfl
    exact absurd h (by decide)
  rw [lowerForm, if_neg hsigma, if_neg hdotted, ofNat_lowerCode_of_lt _ h, Char.ofNat_toNat]

/-- The small form of a character outside ASCII cannot stand in a plain word. -/
theorem lowerForm_of_not_ascii (h : 128 ≤ c.toNat) :
    ∃ d ∈ lowerForm before c behind, ¬ IsPlain d := by
  unfold lowerForm
  split
  · refine ⟨_, List.mem_singleton_self _, ?_⟩
    split <;> decide
  · split
    · exact ⟨'\u0307', by decide, by decide⟩
    · refine ⟨_, List.mem_singleton_self _, ?_⟩
      rintro ⟨hascii, hk⟩
      rcases lowerCode_cases h c.valid with hkelvin | ⟨houtside, hvalid⟩
      · rw [hkelvin, Char.ofNat_toNat] at hk
        exact hk rfl
      · rw [toNat_ofNat_of_valid hvalid] at hascii
        omega

/-! ### Words -/

theorem lowerFrom_eq_iff {word cs : List Char} (hword : ∀ d ∈ word, IsPlain d) :
    lowerFrom before cs = word ↔ cs.map Char.toLower = word := by
  induction cs generalizing before word with
  | nil => exact Iff.rfl
  | cons c rest ih =>
    rw [lowerFrom, List.map_cons]
    by_cases h : c.toNat < 128
    · rw [lowerForm_of_ascii before rest h, List.singleton_append]
      cases word with
      | nil => simp
      | cons d word => rw [List.cons.injEq, List.cons.injEq, ih _ (List.forall_mem_cons.mp hword).2]
    · -- Neither side can be the word, since each has a character that is not plain.
      constructor
      · intro hlower
        obtain ⟨d, hd, hplain⟩ := lowerForm_of_not_ascii before rest (Nat.le_of_not_lt h)
        exact absurd (hword d (hlower ▸ List.mem_append_left _ hd)) hplain
      · intro hmap
        rw [toLower_of_not_ascii (Nat.le_of_not_lt h)] at hmap
        exact absurd (hword c (hmap ▸ List.mem_cons_self)).1 h

/-- A text is written as a plain word in small letters if it has the letters of the word, each in
either case. -/
theorem lowercase_eq_iff {word : String} (hword : IsPlainWord word) (s : String) :
    lowercase s = word ↔ s.toLower = word := by
  have hsmall : s.toLower = s.map Char.toLower := rfl
  rw [← String.toList_inj, ← String.toList_inj, lowercase, String.toList_ofList, hsmall,
    String.toList_map]
  exact lowerFrom_eq_iff [] hword

end LeaseBroker.Unicode
