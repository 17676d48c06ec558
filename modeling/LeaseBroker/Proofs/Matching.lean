import LeaseBroker.Pattern.Basic
import Mathlib.Data.List.Basic

/-!
# What patterns match

A pattern matches a stretch of a text between two offsets. This is said here without derivatives:
one pattern after another matches if there is an offset between them, and a repetition matches if
some number of rounds within its bounds does. Trying the partial derivatives at every offset finds
a match exactly if there is one, for patterns whose repetitions have their bounds in order.
-/

set_option autoImplicit false

namespace LeaseBroker.Pattern
variable {text : List Char} {i j k n : Nat} {c : Char} {p q a b : Pattern} {ps : List Pattern}
  {min : Nat} {max : Option Nat}

/-! ### Matches between offsets -/

def charBefore (text : List Char) (i : Nat) : Option Char := if i = 0 then none else text[i - 1]?

def spotAt (text : List Char) (i : Nat) : Spot := ⟨charBefore text i, text[i]?⟩

def Rounds (R : Nat → Nat → Prop) : Nat → Nat → Nat → Prop
  | 0, i, j => i = j
  | n + 1, i, j => ∃ k, R i k ∧ Rounds R n k j

def Matches (text : List Char) : Pattern → Nat → Nat → Prop
  | .empty, i, j => i = j
  | .chars s, i, j => j = i + 1 ∧ ∃ c, text[i]? = some c ∧ s.contains c = true
  | .look l, i, j => i = j ∧ l.holds (spotAt text i) = true
  | .seq a b, i, j => ∃ k, Matches text a i k ∧ Matches text b k j
  | .alt a b, i, j => Matches text a i j ∨ Matches text b i j
  | .rep p min max, i, j => ∃ n, min ≤ n ∧ (∀ m ∈ max, n ≤ m) ∧ Rounds (Matches text p) n i j
  | .group p, i, j => Matches text p i j

def Bounded : Pattern → Prop
  | .empty => True
  | .chars _ => True
  | .look _ => True
  | .seq a b => a.Bounded ∧ b.Bounded
  | .alt a b => a.Bounded ∧ b.Bounded
  | .rep p min max => p.Bounded ∧ ∀ m ∈ max, min ≤ m
  | .group p => p.Bounded

section Rounds
variable {R : Nat → Nat → Prop}

theorem Rounds.le (hR : ∀ i j, R i j → i ≤ j) (h : Rounds R n i j) : i ≤ j := by
  induction n generalizing i with
  | zero => exact Nat.le_of_eq h
  | succ n ih =>
    obtain ⟨k, hfirst, hrest⟩ := h
    exact Nat.le_trans (hR i k hfirst) (ih hrest)

theorem Rounds.eq_of_still (hR : ∀ i j, R i j → i = j) (h : Rounds R n i j) : i = j := by
  induction n generalizing i with
  | zero => exact h
  | succ n ih =>
    obtain ⟨k, hfirst, hrest⟩ := h
    exact (hR i k hfirst).trans (ih hrest)

theorem Rounds.idle (hidle : R i i) (h : Rounds R n i j) (m : Nat) : Rounds R (m + n) i j := by
  induction m with
  | zero => rwa [Nat.zero_add]
  | succ m ih =>
    rw [Nat.succ_add]
    exact ⟨i, hidle, ih⟩

/-- The first round that takes something; those before it take nothing. -/
theorem Rounds.first (hR : ∀ i j, R i j → i ≤ j) (h : Rounds R n i j) (hlt : i < j) :
    ∃ k m, R i k ∧ i < k ∧ Rounds R m k j ∧ (m + 1 = n ∨ m + 1 < n ∧ R i i) := by
  induction n with
  | zero => exact absurd h (Nat.ne_of_lt hlt)
  | succ n ih =>
    obtain ⟨k, hfirst, hrest⟩ := h
    rcases Nat.lt_or_eq_of_le (hR i k hfirst) with hik | rfl
    · exact ⟨k, n, hfirst, hik, hrest, Or.inl rfl⟩
    · obtain ⟨k, m, htakes, hik, hlater, hm⟩ := ih hrest
      refine ⟨k, m, htakes, hik, hlater, Or.inr ⟨?_, hfirst⟩⟩
      omega

end Rounds

theorem Matches.le (h : p.Matches text i j) : i ≤ j := by
  induction p generalizing i j with
  | empty => exact Nat.le_of_eq h
  | chars s =>
    rw [h.1]
    exact Nat.le_succ i
  | look l => exact Nat.le_of_eq h.1
  | seq a b iha ihb =>
    obtain ⟨k, ha, hb⟩ := h
    exact Nat.le_trans (iha ha) (ihb hb)
  | alt a b iha ihb =>
    rcases h with ha | hb
    · exact iha ha
    · exact ihb hb
  | rep p min max ih =>
    obtain ⟨n, _, _, hrounds⟩ := h
    exact hrounds.le fun i j => ih
  | group p ih => exact ih h

theorem Rounds.le_length {R : Nat → Nat → Prop}
    (hR : ∀ i j, R i j → i ≤ text.length → j ≤ text.length) (h : Rounds R n i j)
    (hi : i ≤ text.length) : j ≤ text.length := by
  induction n generalizing i with
  | zero => exact h ▸ hi
  | succ n ih =>
    obtain ⟨k, hfirst, hrest⟩ := h
    exact ih hrest (hR i k hfirst hi)

theorem Matches.le_length (h : p.Matches text i j) (hi : i ≤ text.length) : j ≤ text.length := by
  induction p generalizing i j with
  | empty => exact h ▸ hi
  | chars s =>
    obtain ⟨rfl, c, hc, _⟩ := h
    obtain ⟨hlt, _⟩ := List.getElem?_eq_some_iff.mp hc
    exact hlt
  | look l => exact h.1 ▸ hi
  | seq a b iha ihb =>
    obtain ⟨k, ha, hb⟩ := h
    exact ihb hb (iha ha hi)
  | alt a b iha ihb =>
    rcases h with ha | hb
    · exact iha ha hi
    · exact ihb hb hi
  | rep p min max ih =>
    obtain ⟨n, _, _, hrounds⟩ := h
    exact hrounds.le_length (fun i j => ih) hi
  | group p ih => exact ih h hi

/-! ### Derivatives -/

theorem nullable_iff (hp : p.Bounded) :
    p.nullable (spotAt text i) = true ↔ p.Matches text i i := by
  induction p with
  | empty => exact iff_of_true rfl rfl
  | chars s =>
    refine iff_of_false Bool.false_ne_true ?_
    rintro ⟨h, _⟩
    omega
  | look l => exact (and_iff_right rfl).symm
  | seq a b iha ihb =>
    rw [nullable, Bool.and_eq_true, iha hp.1, ihb hp.2]
    constructor
    · rintro ⟨ha, hb⟩
      exact ⟨i, ha, hb⟩
    · rintro ⟨k, ha, hb⟩
      obtain rfl : k = i := Nat.le_antisymm hb.le ha.le
      exact ⟨ha, hb⟩
  | alt a b iha ihb => rw [nullable, Bool.or_eq_true, iha hp.1, ihb hp.2, Matches]
  | rep p min max ih =>
    rw [nullable, Bool.or_eq_true, ih hp.1, beq_iff_eq]
    constructor
    · rintro (rfl | hidle)
      · exact ⟨0, Nat.le_refl 0, fun m _ => Nat.zero_le m, rfl⟩
      · exact ⟨min, Nat.le_refl min, hp.2, Rounds.idle (n := 0) hidle rfl min⟩
    · rintro ⟨n, hmin, _, hrounds⟩
      cases n with
      | zero => exact Or.inl (Nat.le_zero.mp hmin)
      | succ n =>
        obtain ⟨k, hfirst, hrest⟩ := hrounds
        obtain rfl : k = i := Nat.le_antisymm (hrest.le fun i j => Matches.le) hfirst.le
        exact Or.inr hfirst
  | group p ih => exact ih hp

theorem matches_andThen : (a.andThen b).Matches text i j ↔ (a.seq b).Matches text i j := by
  unfold andThen
  split
  · rename_i ha
    subst ha
    constructor
    · intro hb
      exact ⟨i, rfl, hb⟩
    · rintro ⟨k, rfl, hb⟩
      exact hb
  · split
    · rename_i hb
      subst hb
      constructor
      · intro ha
        exact ⟨j, ha, rfl⟩
      · rintro ⟨k, ha, rfl⟩
        exact ha
    · rfl

theorem exists_andThen_iff : (∃ q ∈ ps.map (·.andThen b), q.Matches text i j) ↔
    ∃ k, (∃ q ∈ ps, q.Matches text i k) ∧ b.Matches text k j := by
  constructor
  · rintro ⟨q, hq, hmatch⟩
    obtain ⟨a, ha, rfl⟩ := List.mem_map.mp hq
    obtain ⟨k, hfirst, hrest⟩ := matches_andThen.mp hmatch
    exact ⟨k, ⟨a, ha, hfirst⟩, hrest⟩
  · rintro ⟨k, ⟨a, ha, hfirst⟩, hrest⟩
    exact ⟨a.andThen b, List.mem_map_of_mem ha, matches_andThen.mpr ⟨k, hfirst, hrest⟩⟩

theorem Bounded.andThen (ha : a.Bounded) (hb : b.Bounded) : (a.andThen b).Bounded := by
  unfold Pattern.andThen
  split
  · exact hb
  · split
    · exact ha
    · exact ⟨ha, hb⟩

theorem Matches.eq_of_zeroWidth (hp : p.zeroWidth = true) (h : p.Matches text i j) : i = j := by
  induction p generalizing i j with
  | empty => exact h
  | chars s => cases hp
  | look l => exact h.1
  | seq a b iha ihb =>
    obtain ⟨ha, hb⟩ := Bool.and_eq_true_iff.mp hp
    obtain ⟨k, hfirst, hsecond⟩ := h
    exact (iha ha hfirst).trans (ihb hb hsecond)
  | alt a b iha ihb =>
    obtain ⟨ha, hb⟩ := Bool.and_eq_true_iff.mp hp
    exact h.elim (iha ha) (ihb hb)
  | rep p min max ih =>
    obtain ⟨n, _, hn, hrounds⟩ := h
    rcases Bool.or_eq_true_iff.mp hp with hp | hmax
    · exact hrounds.eq_of_still fun _ _ => ih hp
    · obtain rfl : n = 0 := Nat.le_zero.mp (hn 0 (by simpa using hmax))
      exact hrounds
  | group p ih => exact ih hp h

theorem rounds_zeroWidth (hp : p.zeroWidth = true) :
    Rounds (p.Matches text) (n + 1) i j ↔ p.Matches text i j := by
  constructor
  · intro h
    induction n generalizing i with
    | zero =>
      obtain ⟨k, hfirst, rfl⟩ := h
      exact hfirst
    | succ n ih =>
      obtain ⟨k, hfirst, hrest⟩ := h
      obtain rfl := hfirst.eq_of_zeroWidth hp
      exact ih hrest
  · intro h
    obtain rfl := h.eq_of_zeroWidth hp
    exact Rounds.idle (n := 0) h rfl (n + 1)

theorem matches_rep_zeroWidth (hp : p.zeroWidth = true) (hbounds : ∀ m ∈ max, min ≤ m) :
    (rep p min max).Matches text i j ↔
      min = 0 ∧ i = j ∨ (∀ m ∈ max, 1 ≤ m) ∧ p.Matches text i j := by
  constructor
  · rintro ⟨n, hmin, hmax, hrounds⟩
    cases n with
    | zero => exact Or.inl ⟨Nat.le_zero.mp hmin, hrounds⟩
    | succ n =>
      refine Or.inr ⟨fun m hm => ?_, (rounds_zeroWidth hp).mp hrounds⟩
      exact Nat.le_trans (Nat.le_add_left 1 n) (hmax m hm)
  · rintro (⟨rfl, rfl⟩ | ⟨hmax, hmatch⟩)
    · exact ⟨0, Nat.le_refl 0, fun m _ => Nat.zero_le m, rfl⟩
    · refine ⟨min - 1 + 1, by omega, fun m hm => ?_, (rounds_zeroWidth hp).mpr hmatch⟩
      have hlow := hbounds m hm
      have hone := hmax m hm
      omega

theorem cut_bounds (hbounds : ∀ m ∈ max, min ≤ m) :
    ∀ m ∈ some ((max.getD 1).min 1), min.min 1 ≤ m := by
  intro m hm
  obtain rfl := Option.some.inj hm
  cases max with
  | none => exact Nat.min_le_right min 1
  | some m =>
    have hle : min ≤ m := hbounds m rfl
    change Min.min min 1 ≤ Min.min m 1
    omega

theorem matches_repeated (hbounds : ∀ m ∈ max, min ≤ m) :
    (p.repeated min max).Matches text i j ↔ (rep p min max).Matches text i j := by
  have hsimplified : ∀ (min : Nat) (max : Option Nat),
      (if min = 0 ∧ max = some 0 then .empty
        else if min = 1 ∧ max = some 1 then p else .rep p min max : Pattern).Matches text i j ↔
      (rep p min max).Matches text i j := by
    intro min max
    split_ifs with hnone hone
    · obtain ⟨rfl, rfl⟩ := hnone
      constructor
      · intro h
        exact ⟨0, Nat.le_refl 0, fun m _ => Nat.zero_le m, h⟩
      · rintro ⟨n, _, hn, hrounds⟩
        obtain rfl : n = 0 := Nat.le_zero.mp (hn 0 rfl)
        exact hrounds
    · obtain ⟨rfl, rfl⟩ := hone
      constructor
      · intro h
        exact ⟨1, Nat.le_refl 1, fun m hm => Nat.le_of_eq (Option.some.inj hm), j, h, rfl⟩
      · rintro ⟨n, hmin, hn, hrounds⟩
        obtain rfl : n = 1 := Nat.le_antisymm (hn 1 rfl) hmin
        obtain ⟨k, hfirst, rfl⟩ := hrounds
        exact hfirst
    · exact Iff.rfl
  by_cases hp : p.zeroWidth = true
  · simp only [repeated, hp, if_true]
    rw [hsimplified, matches_rep_zeroWidth hp (cut_bounds hbounds),
      matches_rep_zeroWidth hp hbounds]
    have hmin : min.min 1 = 0 ↔ min = 0 := by
      change Min.min min 1 = 0 ↔ min = 0
      omega
    have hmax : (∀ m ∈ some ((max.getD 1).min 1), 1 ≤ m) ↔ ∀ m ∈ max, 1 ≤ m := by
      cases max with
      | none => simp
      | some m =>
        simp only [Option.mem_def, Option.some.injEq, forall_eq', Option.getD_some]
        change 1 ≤ Min.min m 1 ↔ 1 ≤ m
        omega
    rw [hmin, hmax]
  · simp only [repeated, hp]
    exact hsimplified min max

theorem Bounded.repeated (hp : p.Bounded) (hbounds : ∀ m ∈ max, min ≤ m) :
    (p.repeated min max).Bounded := by
  have hsimplified : ∀ (min : Nat) (max : Option Nat), (∀ m ∈ max, min ≤ m) →
      (if min = 0 ∧ max = some 0 then .empty
        else if min = 1 ∧ max = some 1 then p else .rep p min max).Bounded := by
    intro min max h
    split_ifs
    · trivial
    · exact hp
    · exact ⟨hp, h⟩
  by_cases hz : p.zeroWidth = true
  · simp only [Pattern.repeated, hz, if_true]
    exact hsimplified _ _ (cut_bounds hbounds)
  · simp only [Pattern.repeated, hz]
    exact hsimplified min max hbounds

theorem Bounded.step {before : Option Char} (hp : p.Bounded) (hq : q ∈ p.step before c) :
    q.Bounded := by
  induction p generalizing q with
  | empty => cases hq
  | chars s =>
    rw [Pattern.step] at hq
    split at hq
    · rw [List.mem_singleton.mp hq]
      trivial
    · cases hq
  | look l => cases hq
  | seq a b iha ihb =>
    rw [Pattern.step, List.mem_append] at hq
    rcases hq with hfirst | hlater
    · obtain ⟨q, hq, rfl⟩ := List.mem_map.mp hfirst
      exact (iha hp.1 hq).andThen hp.2
    · split at hlater
      · exact ihb hp.2 hlater
      · cases hlater
  | alt a b iha ihb =>
    rcases List.mem_append.mp hq with ha | hb
    · exact iha hp.1 ha
    · exact ihb hp.2 hb
  | rep p min max ih =>
    rw [Pattern.step] at hq
    split at hq
    · cases hq
    · obtain ⟨q', hq', rfl⟩ := List.mem_map.mp hq
      refine (ih hp.1 hq').andThen ⟨hp.1, ?_⟩
      intro m hm
      obtain ⟨m', hm', rfl⟩ := Option.map_eq_some_iff.mp hm
      have hbound := hp.2 m' hm'
      split <;> omega
  | group p ih => exact ih hp hq

/-- A repetition that takes a character has a first round that takes it. The rounds that are left
are one fewer, or any number not above the bound if rounds may take nothing here. -/
theorem matches_rep_iff (hp : (p.rep min max).Bounded) (hlt : i < j) :
    (p.rep min max).Matches text i j ↔ max ≠ some 0 ∧ ∃ k, p.Matches text i k ∧ i < k ∧
      (p.rep (if p.nullable (spotAt text i) then 0 else min - 1) (max.map (· - 1))).Matches
        text k j := by
  have hmono : ∀ i j, p.Matches text i j → i ≤ j := fun i j => Matches.le
  constructor
  · rintro ⟨n, hmin, hmax, hrounds⟩
    obtain ⟨k, m, htakes, hik, hrest, hm⟩ := hrounds.first hmono hlt
    have hmn : m + 1 ≤ n := by omega
    refine ⟨?_, k, htakes, hik, m, ?_, ?_, hrest⟩
    · intro hzero
      have hbound := hmax 0 hzero
      omega
    · split
      · exact Nat.zero_le m
      · rename_i hidle
        rw [nullable_iff hp.1] at hidle
        rcases hm with hm | ⟨_, hidle'⟩
        · omega
        · exact absurd hidle' hidle
    · intro m' hm'
      obtain ⟨top, htop, rfl⟩ := Option.map_eq_some_iff.mp hm'
      have hbound := hmax top htop
      omega
  · rintro ⟨hzero, k, htakes, hik, m, hmin, hmax, hrest⟩
    have hbound : ∀ top ∈ max, m + 1 ≤ top := by
      intro top htop
      have hleft := hmax (top - 1) (Option.map_eq_some_iff.mpr ⟨top, htop, rfl⟩)
      have hpos : top ≠ 0 := fun h => hzero (h ▸ htop)
      omega
    have hrounds : Rounds (Matches text p) (m + 1) i j := ⟨k, htakes, hrest⟩
    split at hmin
    · rename_i hidle
      rw [nullable_iff hp.1] at hidle
      -- As many idle rounds are put in front as the least number asks for.
      refine ⟨(min - (m + 1)) + (m + 1), by omega, ?_, hrounds.idle hidle _⟩
      intro top htop
      have htop' := hbound top htop
      have hmin' := hp.2 top htop
      omega
    · exact ⟨m + 1, by omega, hbound, hrounds⟩

/-- One of the derivatives matches behind a character exactly if the pattern matches from the
character on. -/
theorem step_iff (hp : p.Bounded) (hc : text[i]? = some c) :
    (∃ q ∈ p.step (charBefore text i) c, q.Matches text (i + 1) j) ↔
      p.Matches text i j ∧ i < j := by
  have hspot : (⟨charBefore text i, some c⟩ : Spot) = spotAt text i := by rw [spotAt, hc]
  induction p generalizing j with
  | empty =>
    simp only [step, List.not_mem_nil, false_and, exists_false, false_iff]
    rintro ⟨rfl, hlt⟩
    exact Nat.lt_irrefl i hlt
  | chars s =>
    simp only [step, Matches, hc, Option.some.injEq, exists_eq_left']
    split
    · rename_i hs
      simp only [List.mem_singleton, exists_eq_left, hs, and_true]
      constructor
      · intro h
        change i + 1 = j at h
        omega
      · rintro ⟨rfl, _⟩
        rfl
    · rename_i hs
      simp [hs]
  | look l =>
    simp only [step, List.not_mem_nil, false_and, exists_false, false_iff]
    rintro ⟨⟨rfl, _⟩, hlt⟩
    exact Nat.lt_irrefl i hlt
  | seq a b iha ihb =>
    rw [step, hspot]
    simp only [List.mem_append, or_and_right, exists_or, exists_andThen_iff, iha hp.1]
    constructor
    · rintro (⟨k, ⟨ha, hik⟩, hb⟩ | ⟨q, hq, hmatch⟩)
      · exact ⟨⟨k, ha, hb⟩, Nat.lt_of_lt_of_le hik hb.le⟩
      · split at hq
        · rename_i hidle
          obtain ⟨hb, hlt⟩ := (ihb hp.2).mp ⟨q, hq, hmatch⟩
          exact ⟨⟨i, (nullable_iff hp.1).mp hidle, hb⟩, hlt⟩
        · cases hq
    · rintro ⟨⟨k, ha, hb⟩, hlt⟩
      rcases Nat.lt_or_eq_of_le ha.le with hik | rfl
      · exact Or.inl ⟨k, ⟨ha, hik⟩, hb⟩
      · rw [if_pos ((nullable_iff hp.1).mpr ha)]
        exact Or.inr ((ihb hp.2).mpr ⟨hb, hlt⟩)
  | alt a b iha ihb =>
    simp only [step, List.mem_append, or_and_right, exists_or, iha hp.1, ihb hp.2, Matches]
  | rep p min max ih =>
    rw [step, hspot]
    constructor
    · intro h
      split at h
      · obtain ⟨q, hq, _⟩ := h
        cases hq
      · rename_i hzero
        obtain ⟨k, hfirst, hrest⟩ := exists_andThen_iff.mp h
        obtain ⟨htakes, hik⟩ := (ih hp.1).mp hfirst
        have hlt : i < j := Nat.lt_of_lt_of_le hik hrest.le
        exact ⟨(matches_rep_iff hp hlt).mpr ⟨hzero, k, htakes, hik, hrest⟩, hlt⟩
    · rintro ⟨hmatch, hlt⟩
      obtain ⟨hzero, k, htakes, hik, hrest⟩ := (matches_rep_iff hp hlt).mp hmatch
      rw [if_neg hzero]
      exact exists_andThen_iff.mpr ⟨k, (ih hp.1).mpr ⟨htakes, hik⟩, hrest⟩
  | group p ih => exact ih hp

/-! ### Searching -/

theorem charBefore_succ (hc : text[i]? = some c) : charBefore text (i + 1) = some c := by
  rw [charBefore, if_neg (Nat.succ_ne_zero i), Nat.add_sub_cancel, hc]

theorem drop_eq_cons {rest : List Char} (h : text.drop i = c :: rest) :
    text[i]? = some c ∧ text.drop (i + 1) = rest := by
  constructor
  · rw [← List.head?_drop, h]
    rfl
  · rw [← List.tail_drop, h]
    rfl

theorem anyMatchesHere_nil (before : Option Char) (rest : List Char) :
    anyMatchesHere [] before rest = false := by
  cases rest <;> rfl

theorem anyMatchesHere_cons (ps : List Pattern) (before : Option Char) (c : Char)
    (rest : List Char) : anyMatchesHere ps before (c :: rest) =
      (ps.any (·.nullable ⟨before, some c⟩) ||
        anyMatchesHere (ps.flatMap (·.step before c)).eraseDups (some c) rest) := by
  rw [anyMatchesHere]
  congr 1
  split
  · rename_i hnone
    rw [hnone, anyMatchesHere_nil]
  · rfl

theorem exists_step_iff (hps : ∀ p ∈ ps, p.Bounded) (hc : text[i]? = some c) :
    (∃ q ∈ (ps.flatMap (·.step (charBefore text i) c)).eraseDups,
      ∃ j, q.Matches text (i + 1) j) ↔ ∃ p ∈ ps, ∃ j, p.Matches text i j ∧ i < j := by
  simp only [List.mem_eraseDups, List.mem_flatMap]
  constructor
  · rintro ⟨q, ⟨p, hp, hq⟩, j, hmatch⟩
    exact ⟨p, hp, j, (step_iff (hps p hp) hc).mp ⟨q, hq, hmatch⟩⟩
  · rintro ⟨p, hp, j, hmatch⟩
    obtain ⟨q, hq, hlater⟩ := (step_iff (hps p hp) hc).mpr hmatch
    exact ⟨q, ⟨p, hp, hq⟩, j, hlater⟩

theorem anyMatchesHere_iff {rest : List Char} (hps : ∀ p ∈ ps, p.Bounded) (hi : i ≤ text.length)
    (hrest : text.drop i = rest) :
    anyMatchesHere ps (charBefore text i) rest = true ↔ ∃ p ∈ ps, ∃ j, p.Matches text i j := by
  induction rest generalizing ps i with
  | nil =>
    have hlast := List.drop_eq_nil_iff.mp hrest
    have hspot : (⟨charBefore text i, none⟩ : Spot) = spotAt text i := by
      rw [spotAt, List.getElem?_eq_none_iff.mpr hlast]
    rw [anyMatchesHere, List.any_eq_true, hspot]
    apply exists_congr
    intro p
    apply and_congr_right
    intro hp
    rw [nullable_iff (hps p hp)]
    constructor
    · intro h
      exact ⟨i, h⟩
    · rintro ⟨j, h⟩
      obtain rfl : j = i := Nat.le_antisymm (Nat.le_trans (h.le_length hi) hlast) h.le
      exact h
  | cons c rest ih =>
    obtain ⟨hc, hrest'⟩ := drop_eq_cons hrest
    have hi' : i + 1 ≤ text.length := (List.getElem?_eq_some_iff.mp hc).1
    have hspot : (⟨charBefore text i, some c⟩ : Spot) = spotAt text i := by rw [spotAt, hc]
    have hnext : ∀ q ∈ (ps.flatMap (·.step (charBefore text i) c)).eraseDups, q.Bounded := by
      intro q hq
      obtain ⟨p, hp, hstep⟩ := List.mem_flatMap.mp (List.mem_eraseDups.mp hq)
      exact (hps p hp).step hstep
    have hlater := ih hnext hi' hrest'
    rw [charBefore_succ hc, exists_step_iff hps hc] at hlater
    rw [anyMatchesHere_cons, hspot, Bool.or_eq_true, List.any_eq_true, hlater]
    constructor
    · rintro (⟨p, hp, hidle⟩ | ⟨p, hp, j, hmatch, _⟩)
      · exact ⟨p, hp, i, (nullable_iff (hps p hp)).mp hidle⟩
      · exact ⟨p, hp, j, hmatch⟩
    · rintro ⟨p, hp, j, hmatch⟩
      rcases Nat.lt_or_eq_of_le hmatch.le with hlt | rfl
      · exact Or.inr ⟨p, hp, j, hmatch, hlt⟩
      · exact Or.inl ⟨p, hp, (nullable_iff (hps p hp)).mpr hmatch⟩

theorem matchesFrom_iff {rest : List Char} (hp : p.Bounded) (hi : i ≤ text.length)
    (hrest : text.drop i = rest) :
    p.matchesFrom (charBefore text i) rest = true ↔
      ∃ k, i ≤ k ∧ k ≤ text.length ∧ ∃ j, p.Matches text k j := by
  induction rest generalizing i with
  | nil =>
    have hhere := anyMatchesHere_iff (List.forall_mem_singleton.mpr hp) hi hrest
    rw [matchesFrom, hhere]
    simp only [List.mem_singleton, exists_eq_left]
    constructor
    · intro h
      exact ⟨i, Nat.le_refl i, hi, h⟩
    · rintro ⟨k, hik, hk, h⟩
      have hlast := List.drop_eq_nil_iff.mp hrest
      obtain rfl : k = i := by omega
      exact h
  | cons c rest ih =>
    have hhere := anyMatchesHere_iff (List.forall_mem_singleton.mpr hp) hi hrest
    obtain ⟨hc, hrest'⟩ := drop_eq_cons hrest
    have hi' : i + 1 ≤ text.length := (List.getElem?_eq_some_iff.mp hc).1
    have hlater := ih hi' hrest'
    rw [charBefore_succ hc] at hlater
    rw [matchesFrom, Bool.or_eq_true, hhere, hlater]
    simp only [List.mem_singleton, exists_eq_left]
    constructor
    · rintro (h | ⟨k, hik, hk, h⟩)
      · exact ⟨i, Nat.le_refl i, hi, h⟩
      · exact ⟨k, by omega, hk, h⟩
    · rintro ⟨k, hik, hk, h⟩
      rcases Nat.lt_or_eq_of_le hik with hlt | rfl
      · exact Or.inr ⟨k, hlt, hk, h⟩
      · exact Or.inl h

/-- Whether a pattern has a match that begins at an offset of a text. -/
def MatchesAt (p : Pattern) (text : String) (i : Nat) : Prop :=
  i ≤ text.length ∧ ∃ j, p.Matches text.toList i j

theorem matchesAtStart_iff (hp : p.Bounded) (text : String) :
    p.matchesAtStart text = true ↔ p.MatchesAt text 0 := by
  have h : anyMatchesHere [p] (charBefore text.toList 0) text.toList = true ↔ _ :=
    anyMatchesHere_iff (List.forall_mem_singleton.mpr hp) (Nat.zero_le _) rfl
  simpa [matchesAtStart, charBefore, MatchesAt] using h

theorem isMatch_iff (hp : p.Bounded) (text : String) :
    p.isMatch text = true ↔ ∃ i, p.MatchesAt text i := by
  have h : p.matchesFrom (charBefore text.toList 0) text.toList = true ↔ _ :=
    matchesFrom_iff hp (Nat.zero_le _) rfl
  simpa [isMatch, charBefore, MatchesAt, String.length_toList] using h

end LeaseBroker.Pattern
