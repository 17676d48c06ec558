import LeaseBroker.Text.Split
import Mathlib.Data.List.Infix

/-!
# Where a text is cut

A separator whose first letter does not come again in it can never stand at two places that
overlap. So a text that has it is cut at the first place exactly if the front is without it, and at
the last place exactly if the back is.
-/

set_option autoImplicit false

namespace LeaseBroker.Text
variable {α : Type} [BEq α] [LawfulBEq α] {sep s front back front' back' : List α}

theorem dropFront?_eq_some_iff {pre : List α} : dropFront? pre s = some back ↔ s = pre ++ back := by
  unfold dropFront?
  split
  · rename_i h
    obtain ⟨rest, rfl⟩ := List.isPrefixOf_iff_prefix.mp h
    rw [List.drop_left, Option.some.injEq, List.append_cancel_left_eq]
  · rename_i h
    refine ⟨nofun, ?_⟩
    rintro rfl
    exact absurd (List.isPrefixOf_iff_prefix.mpr (List.prefix_append pre back)) h

theorem dropFront?_eq_none_iff {pre : List α} : dropFront? pre s = none ↔ ¬ pre <+: s := by
  unfold dropFront?
  rw [← List.isPrefixOf_iff_prefix]
  split <;> simp_all

theorem cutFirst?_eq_none_iff : cutFirst? sep s = none ↔ ¬ sep <:+: s := by
  induction s with
  | nil => rw [cutFirst?, Option.map_eq_none_iff, dropFront?_eq_none_iff, List.prefix_nil,
      List.infix_nil]
  | cons x s ih =>
    rw [cutFirst?, List.infix_cons_iff, not_or, ← ih, ← dropFront?_eq_none_iff]
    cases dropFront? sep (x :: s) with
    | none => simp
    | some later => simp

theorem cutLast?_eq_none_iff : cutLast? sep s = none ↔ ¬ sep <:+: s := by
  induction s with
  | nil => rw [cutLast?, Option.map_eq_none_iff, dropFront?_eq_none_iff, List.prefix_nil,
      List.infix_nil]
  | cons x s ih =>
    rw [cutLast?, List.infix_cons_iff, not_or, ← ih, ← dropFront?_eq_none_iff]
    cases cutLast? sep s with
    | none => simp
    | some cut => simp

theorem of_cutFirst? (hsep : sep ≠ []) (h : cutFirst? sep s = some (front, back)) :
    s = front ++ (sep ++ back) ∧ ¬ sep <:+: front := by
  induction s generalizing front with
  | nil =>
    obtain ⟨later, hdrop, heq⟩ := Option.map_eq_some_iff.mp h
    cases heq
    have hbegins := dropFront?_eq_some_iff.mp hdrop
    exact ⟨hbegins, by simpa using hsep⟩
  | cons x s ih =>
    rw [cutFirst?] at h
    split at h
    · rename_i later hdrop
      cases h
      have hbegins := dropFront?_eq_some_iff.mp hdrop
      exact ⟨hbegins, by simpa using hsep⟩
    · rename_i hdrop
      obtain ⟨⟨first, back⟩, hcut, heq⟩ := Option.map_eq_some_iff.mp h
      cases heq
      obtain ⟨rfl, hfirst⟩ := ih hcut
      refine ⟨rfl, ?_⟩
      rw [List.infix_cons_iff, not_or]
      refine ⟨?_, hfirst⟩
      intro hpre
      exact dropFront?_eq_none_iff.mp hdrop (hpre.trans (List.prefix_append (x :: first) _))

section Separator
variable {c : α} {rest : List α} (h : c ∉ rest)

omit [BEq α] [LawfulBEq α] in
/-- No separator begins among letters that are not its first one. -/
theorem infix_append_iff {pre : List α} (hpre : c ∉ pre) :
    c :: rest <:+: pre ++ s ↔ c :: rest <:+: s := by
  induction pre with
  | nil => rfl
  | cons x pre ih =>
    rw [List.mem_cons, not_or] at hpre
    rw [List.cons_append, List.infix_cons_iff, ih hpre.2, or_iff_right]
    intro hbegins
    exact hpre.1 (List.cons_prefix_cons.mp hbegins).1

include h

theorem of_cutLast? (hcut : cutLast? (c :: rest) s = some (front, back)) :
    s = front ++ (c :: rest ++ back) ∧ ¬ c :: rest <:+: back := by
  induction s generalizing front with
  | nil => simp [cutLast?, dropFront?] at hcut
  | cons x s ih =>
    rw [cutLast?] at hcut
    split at hcut
    · rename_i first last hlater
      cases hcut
      obtain ⟨rfl, hlast⟩ := ih hlater
      exact ⟨rfl, hlast⟩
    · rename_i hlater
      obtain ⟨later, hdrop, heq⟩ := Option.map_eq_some_iff.mp hcut
      cases heq
      have hbegins := dropFront?_eq_some_iff.mp hdrop
      refine ⟨hbegins, ?_⟩
      obtain ⟨_, rfl⟩ := List.cons.inj hbegins
      rw [← infix_append_iff h]
      exact cutLast?_eq_none_iff.mp hlater

omit [BEq α] [LawfulBEq α] in
/-- A separator that begins in front of another one has ended before it. -/
theorem prefix_of_prefix_append (hfront : front ≠ [])
    (hpre : c :: rest <+: front ++ (c :: rest ++ back)) : c :: rest <+: front := by
  obtain ⟨later, hlater⟩ := hpre
  rcases List.append_eq_append_iff.mp hlater with ⟨overlap, rfl, _⟩ | ⟨overlap, hoverlap, hback⟩
  · exact List.prefix_append _ overlap
  · cases overlap with
    | nil => rw [hoverlap, List.append_nil]
    | cons y overlap =>
      obtain ⟨x, front, rfl⟩ := List.exists_cons_of_ne_nil hfront
      obtain ⟨rfl, _⟩ := List.cons.inj hback
      obtain ⟨_, rfl⟩ := List.cons.inj hoverlap
      exact absurd (List.mem_append_right front List.mem_cons_self) h

omit [BEq α] [LawfulBEq α] in
/-- If one cut is behind another, the text between them ends a front with the separator in it, and
the back of the first cut has the separator as well. -/
theorem between_eq_nil {between : List α}
    (hcut : c :: rest ++ back = between ++ (c :: rest ++ back'))
    (hplain : ¬ c :: rest <:+: front ++ between ∨ ¬ c :: rest <:+: back) : between = [] := by
  by_contra hne
  have hfirst : c :: rest <+: between := prefix_of_prefix_append h hne ⟨back, hcut⟩
  obtain ⟨x, between, rfl⟩ := List.exists_cons_of_ne_nil hne
  obtain ⟨_, hlater⟩ := List.cons.inj hcut
  have hsecond : c :: rest <:+: rest ++ back :=
    ⟨between, back', (List.append_assoc _ _ _).trans hlater.symm⟩
  rcases hplain with hfront | hback
  · exact hfront (hfirst.isInfix.trans (List.suffix_append front _).isInfix)
  · exact hback ((infix_append_iff h).mp hsecond)

omit [BEq α] [LawfulBEq α] in
/-- Two cuts of a text without the separator in front of them, or without it behind them, are
one. -/
theorem cut_unique (hcut : front ++ (c :: rest ++ back) = front' ++ (c :: rest ++ back'))
    (hplain : (¬ c :: rest <:+: front ∧ ¬ c :: rest <:+: front') ∨
      (¬ c :: rest <:+: back ∧ ¬ c :: rest <:+: back')) : front = front' ∧ back = back' := by
  rcases List.append_eq_append_iff.mp hcut with ⟨between, rfl, hback⟩ | ⟨between, rfl, hback⟩
  · obtain rfl := between_eq_nil h hback (hplain.imp And.right And.left)
    exact ⟨(List.append_nil _).symm, List.append_cancel_left hback⟩
  · obtain rfl := between_eq_nil h hback (hplain.imp And.left And.right)
    exact ⟨List.append_nil _, (List.append_cancel_left hback).symm⟩

theorem cutFirst?_eq_some_iff : cutFirst? (c :: rest) s = some (front, back) ↔
    s = front ++ (c :: rest ++ back) ∧ ¬ c :: rest <:+: front := by
  refine ⟨of_cutFirst? (List.cons_ne_nil c rest), ?_⟩
  rintro ⟨rfl, hfront⟩
  cases hcut : cutFirst? (c :: rest) (front ++ (c :: rest ++ back)) with
  | none =>
    apply absurd _ (cutFirst?_eq_none_iff.mp hcut)
    exact ⟨front, back, List.append_assoc _ _ _⟩
  | some cut =>
    obtain ⟨hs, hfirst⟩ := of_cutFirst? (List.cons_ne_nil c rest) hcut
    obtain ⟨rfl, rfl⟩ := cut_unique h hs (Or.inl ⟨hfront, hfirst⟩)
    rfl

theorem cutLast?_eq_some_iff : cutLast? (c :: rest) s = some (front, back) ↔
    s = front ++ (c :: rest ++ back) ∧ ¬ c :: rest <:+: back := by
  refine ⟨of_cutLast? h, ?_⟩
  rintro ⟨rfl, hback⟩
  cases hcut : cutLast? (c :: rest) (front ++ (c :: rest ++ back)) with
  | none =>
    apply absurd _ (cutLast?_eq_none_iff.mp hcut)
    exact ⟨front, back, List.append_assoc _ _ _⟩
  | some cut =>
    obtain ⟨hs, hlast⟩ := of_cutLast? h hcut
    obtain ⟨rfl, rfl⟩ := cut_unique h hs (Or.inr ⟨hback, hlast⟩)
    rfl

end Separator

end LeaseBroker.Text
