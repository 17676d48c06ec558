import LeaseBroker.Collections.SortedMap
import Mathlib.Algebra.Ring.Nat
import Mathlib.Data.List.Induction
import Mathlib.Data.List.Nodup
import Mathlib.Data.List.Sort

/-!
# Look-ups in sorted maps

A binding stands in the list of a map exactly if its key is looked up to its value. The look-up
laws of `filter`, `erase`, `insert`, `set` and `ofList` and the members of the key listings follow
from this, and with them the laws of sets.
-/

set_option autoImplicit false

namespace LeaseBroker

namespace SortedMap
variable {α β : Type} [Ord α]

theorem contains_eq_true_iff {m : SortedMap α β} {k : α} :
    m.contains k = true ↔ ∃ v, m.get? k = some v :=
  Option.isSome_iff_exists

theorem contains_eq_false_iff {m : SortedMap α β} {k : α} :
    m.contains k = false ↔ m.get? k = none := by
  rw [contains, Option.isSome_eq_false_iff, Option.isNone_iff_eq_none]

theorem keys_ascending (m : SortedMap α β) : m.keys.Pairwise fun a b => compare a b = .lt :=
  List.pairwise_map.mpr m.ascending

theorem ne_of_compare_lt [Std.ReflOrd α] {a b : α} (h : compare a b = .lt) : a ≠ b := by
  rintro rfl
  have hself : compare a a = .eq := Std.ReflCmp.compare_self
  rw [hself] at h
  cases h

theorem keys_nodup [Std.ReflOrd α] (m : SortedMap α β) : m.keys.Nodup :=
  m.keys_ascending.imp ne_of_compare_lt

/-- Texts are compared by their order. -/
theorem keys_lt {γ : Type} (m : SortedMap String γ) : m.keys.Pairwise (· < ·) :=
  m.keys_ascending.imp compareOfLessAndEq_eq_lt.mp

theorem isEmpty_iff {m : SortedMap α β} : m.isEmpty = true ↔ m = ∅ := by
  constructor
  · intro h
    exact ext_toList (List.isEmpty_iff.mp h)
  · rintro rfl
    rfl

theorem exists_mem_of_ne_empty {m : SortedMap α β} (h : m ≠ ∅) : ∃ b, b ∈ m.toList :=
  List.exists_mem_of_ne_nil _ fun hnil => h (ext_toList hnil)

section Lawful
variable [Std.LawfulEqOrd α]

theorem lookup_cons_self (k : α) (v : β) (rest : List (α × β)) :
    lookup k ((k, v) :: rest) = some v := by
  simp [lookup]

theorem lookup_cons_of_ne {k k' : α} (v : β) (h : k ≠ k') (rest : List (α × β)) :
    lookup k ((k', v) :: rest) = lookup k rest := by
  rw [lookup]
  split
  · rename_i he
    exact absurd (Std.LawfulEqCmp.eq_of_compare he) h
  · rfl

theorem mem_of_lookup {k : α} {v : β} {bs : List (α × β)} (h : lookup k bs = some v) :
    (k, v) ∈ bs := by
  induction bs with
  | nil => simp [lookup] at h
  | cons b rest ih =>
    obtain ⟨k', v'⟩ := b
    by_cases hk : k = k'
    · subst k'
      rw [lookup_cons_self] at h
      cases h
      exact List.mem_cons_self
    · rw [lookup_cons_of_ne v' hk] at h
      exact List.mem_cons_of_mem _ (ih h)

theorem lookup_of_mem {k : α} {v : β} {bs : List (α × β)}
    (hs : bs.Pairwise fun a b => compare a.1 b.1 = .lt) (h : (k, v) ∈ bs) :
    lookup k bs = some v := by
  induction bs with
  | nil => simp at h
  | cons b rest ih =>
    obtain ⟨k', v'⟩ := b
    obtain ⟨hhead, htail⟩ := List.pairwise_cons.mp hs
    rcases List.mem_cons.mp h with he | hm
    · cases he
      exact lookup_cons_self k v rest
    · have hlt : compare k' k = .lt := hhead _ hm
      rw [lookup_cons_of_ne v' (ne_of_compare_lt hlt).symm]
      exact ih htail hm

theorem mem_toList_iff {m : SortedMap α β} {k : α} {v : β} :
    (k, v) ∈ m.toList ↔ m.get? k = some v :=
  ⟨lookup_of_mem m.ascending, mem_of_lookup⟩

/-- Maps with the same look-ups are equal. -/
theorem ext_get? [Std.TransOrd α] {m n : SortedMap α β} (h : ∀ k, m.get? k = n.get? k) :
    m = n := by
  have hirrefl : Std.Irrefl fun a b : α × β => compare a.1 b.1 = .lt :=
    ⟨fun _ hlt => ne_of_compare_lt hlt rfl⟩
  have hantisymm : Std.Antisymm fun a b : α × β => compare a.1 b.1 = .lt := by
    refine ⟨fun a b hab hba => ?_⟩
    have hself : compare a.1 a.1 = .lt := Std.TransCmp.lt_trans hab hba
    exact absurd rfl (ne_of_compare_lt hself)
  apply ext_toList
  refine m.ascending.eq_of_mem_iff n.ascending fun b => ?_
  rw [mem_toList_iff, mem_toList_iff, h]

theorem get?_filter_eq_some_iff {m : SortedMap α β} {p : α → β → Bool} {k : α} {v : β} :
    (m.filter p).get? k = some v ↔ m.get? k = some v ∧ p k v = true := by
  rw [← mem_toList_iff, ← mem_toList_iff]
  exact List.mem_filter

theorem get?_insert [Std.TransOrd α] [DecidableEq α] (m : SortedMap α β) (k j : α) (v : β) :
    (m.insert k v).get? j = if j = k then some v else m.get? j := by
  split
  · rename_i h
    rw [h, get?_insert_self]
  · rename_i h
    exact get?_insert_of_ne m v h

theorem get?_erase [DecidableEq α] (m : SortedMap α β) (k j : α) :
    (m.erase k).get? j = if j = k then none else m.get? j := by
  have hp : ∀ i : α, (compare k i != .eq) = true ↔ i ≠ k := by
    intro i
    rw [bne_iff_ne, ne_eq, Std.LawfulEqCmp.compare_eq_iff_eq]
    exact not_congr eq_comm
  apply Option.ext
  intro v
  rw [erase, get?_filter_eq_some_iff, hp]
  by_cases h : j = k <;> simp [h]

omit [Std.LawfulEqOrd α] in
@[simp] theorem set_some [Std.TransOrd α] (m : SortedMap α β) (k : α) (v : β) :
    m.set k (some v) = m.insert k v := rfl

theorem get?_set [Std.TransOrd α] [DecidableEq α] (m : SortedMap α β) (k j : α) (v : Option β) :
    (m.set k v).get? j = if j = k then v else m.get? j := by
  cases v with
  | none => exact get?_erase m k j
  | some v => exact get?_insert m k j v

omit [Std.LawfulEqOrd α] in
theorem ofList_append_singleton [Std.TransOrd α] (bs : List (α × β)) (b : α × β) :
    ofList (bs ++ [b]) = (ofList bs).insert b.1 b.2 := by
  rw [ofList, List.foldl_append]
  rfl

theorem get?_ofList [Std.TransOrd α] [DecidableEq α] (bs : List (α × β)) (k : α) :
    (ofList bs).get? k = (bs.reverse.find? (·.1 == k)).map (·.2) := by
  induction bs using List.reverseRecOn with
  | nil => rfl
  | append_singleton bs b ih =>
    rw [ofList_append_singleton, get?_insert, List.reverse_append, List.reverse_singleton,
      List.singleton_append, List.find?_cons, ih]
    by_cases h : k = b.1
    · simp [h]
    · simp [h, beq_false_of_ne (Ne.symm h)]

theorem mem_of_mem_ofList [Std.TransOrd α] [DecidableEq α] {bs : List (α × β)} {b : α × β}
    (h : b ∈ (ofList bs).toList) : b ∈ bs := by
  have hget : (ofList bs).get? b.1 = some b.2 := mem_toList_iff.mp h
  rw [get?_ofList] at hget
  obtain ⟨b', hb', hvalue⟩ := Option.map_eq_some_iff.mp hget
  have hkey : b'.1 = b.1 := by simpa using List.find?_some hb'
  have hmem : b' ∈ bs := by simpa using List.mem_of_find?_eq_some hb'
  rwa [← Prod.ext hkey hvalue]

theorem mem_ofList_iff [Std.TransOrd α] [DecidableEq α] {bs : List (α × β)}
    (h : (bs.map (·.1)).Nodup) {b : α × β} : b ∈ (ofList bs).toList ↔ b ∈ bs := by
  refine ⟨mem_of_mem_ofList, fun hb => mem_toList_iff.mpr ?_⟩
  rw [get?_ofList]
  cases hfind : bs.reverse.find? (·.1 == b.1) with
  | none => simpa using List.find?_eq_none.mp hfind b (List.mem_reverse.mpr hb)
  | some b' =>
    have hb' : b' ∈ bs := List.mem_reverse.mp (List.mem_of_find?_eq_some hfind)
    have hkey : b'.1 = b.1 := by simpa using List.find?_some hfind
    rw [List.inj_on_of_nodup_map h hb' hb hkey]
    rfl

theorem mem_keys_iff {m : SortedMap α β} {k : α} : k ∈ m.keys ↔ ∃ v, m.get? k = some v := by
  constructor
  · intro h
    obtain ⟨⟨k', v⟩, hm, rfl⟩ := List.mem_map.mp h
    exact ⟨v, mem_toList_iff.mp hm⟩
  · rintro ⟨v, h⟩
    exact List.mem_map.mpr ⟨(k, v), mem_toList_iff.mpr h, rfl⟩

/-- Whether every binding has a property. -/
def All (m : SortedMap α β) (P : α → β → Prop) : Prop := ∀ k v, m.get? k = some v → P k v

namespace All
variable {m : SortedMap α β} {P : α → β → Prop} {k : α} {v : β}

omit [Std.LawfulEqOrd α] in
theorem empty : (∅ : SortedMap α β).All P := nofun

theorem insert [Std.TransOrd α] [DecidableEq α] (h : m.All P) (hv : P k v) :
    (m.insert k v).All P := by
  intro j w hj
  rw [get?_insert] at hj
  split at hj
  · rename_i hjk
    cases hj
    exact hjk ▸ hv
  · exact h j w hj

theorem erase [DecidableEq α] (h : m.All P) (k : α) : (m.erase k).All P := by
  intro j w hj
  rw [get?_erase] at hj
  split at hj
  · cases hj
  · exact h j w hj

end All

/-- Adding up over the bindings whatever belongs to one key finds at most one binding. -/
theorem sum_at_key [DecidableEq α] (m : SortedMap α β) (k : α) (size : β → Nat) :
    (m.toList.map fun b => if b.1 = k then size b.2 else 0).sum = ((m.get? k).map size).getD 0 := by
  obtain ⟨bs, hs⟩ := m
  change (bs.map _).sum = ((lookup k bs).map size).getD 0
  induction bs with
  | nil => rfl
  | cons b rest ih =>
    obtain ⟨k', v⟩ := b
    obtain ⟨hhead, htail⟩ := List.pairwise_cons.mp hs
    have hrest := ih htail
    rw [List.map_cons, List.sum_cons, hrest]
    by_cases h : k' = k
    · subst k'
      have hnone : lookup k rest = none := by
        cases hl : lookup k rest with
        | none => rfl
        | some w => exact absurd rfl (ne_of_compare_lt (hhead (k, w) (mem_of_lookup hl)))
      rw [lookup_cons_self, hnone]
      simp
    · rw [lookup_cons_of_ne v (Ne.symm h)]
      simp [h]

end Lawful

end SortedMap

namespace SortedSet
variable {α : Type} [Ord α] {s : SortedSet α} {a b : α}

theorem get?_eq (s : SortedSet α) (a : α) :
    s.get? a = if s.contains a = true then some () else none := by
  split
  · rename_i h
    exact (SortedMap.contains_eq_true_iff.mp h).choose_spec
  · rename_i h
    exact SortedMap.contains_eq_false_iff.mp (Bool.eq_false_iff.mpr h)

variable [Std.LawfulEqOrd α]

theorem mem_members_iff : a ∈ s.members ↔ s.contains a = true := by
  rw [members, SortedMap.mem_keys_iff, SortedMap.contains_eq_true_iff]

/-- Sets with the same members are equal. -/
theorem ext_contains [Std.TransOrd α] {t : SortedSet α}
    (h : ∀ a, s.contains a = true ↔ t.contains a = true) : s = t := by
  apply SortedMap.ext_get?
  intro a
  rw [get?_eq, get?_eq, if_congr (h a) rfl rfl]

variable [DecidableEq α]

theorem contains_add [Std.TransOrd α] :
    (s.add a).contains b = true ↔ b = a ∨ s.contains b = true := by
  rw [SortedMap.contains_eq_true_iff, SortedMap.contains_eq_true_iff, add, SortedMap.get?_insert]
  split
  · rename_i h
    simp [h]
  · rename_i h
    simp [h]

theorem contains_erase :
    SortedMap.contains (SortedMap.erase s a) b = true ↔ b ≠ a ∧ s.contains b = true := by
  rw [SortedMap.contains_eq_true_iff, SortedMap.contains_eq_true_iff, SortedMap.get?_erase]
  split
  · rename_i h
    simp [h]
  · rename_i h
    simp [h]

theorem contains_foldl_add [Std.TransOrd α] (as : List α) :
    SortedMap.contains (as.foldl add s) b = true ↔ s.contains b = true ∨ b ∈ as := by
  induction as generalizing s with
  | nil => simp
  | cons a rest ih =>
    rw [List.foldl_cons, ih, contains_add, List.mem_cons]
    exact or_assoc.trans or_left_comm

theorem contains_ofList [Std.TransOrd α] {as : List α} :
    (ofList as).contains b = true ↔ b ∈ as := by
  rw [ofList, contains_foldl_add]
  simp [SortedMap.contains]

theorem mem_members_ofList [Std.TransOrd α] {as : List α} : a ∈ (ofList as).members ↔ a ∈ as := by
  rw [mem_members_iff, contains_ofList]

theorem add_of_contains [Std.TransOrd α] (h : s.contains a = true) : s.add a = s := by
  apply ext_contains
  intro b
  rw [contains_add, or_iff_right_iff_imp]
  rintro rfl
  exact h

theorem erase_of_not_contains [Std.TransOrd α] (h : ¬s.contains a = true) :
    SortedMap.erase s a = s := by
  apply ext_contains
  intro b
  rw [contains_erase, and_iff_right_iff_imp]
  rintro hb rfl
  exact h hb

theorem erase_add [Std.TransOrd α] (h : ¬s.contains a = true) :
    SortedMap.erase (s.add a) a = s := by
  apply ext_contains
  intro b
  rw [contains_erase, contains_add]
  constructor
  · rintro ⟨hne, heq | hb⟩
    · exact absurd heq hne
    · exact hb
  · intro hb
    refine ⟨?_, Or.inr hb⟩
    rintro rfl
    exact h hb

theorem add_erase [Std.TransOrd α] (h : s.contains a = true) :
    add (SortedMap.erase s a) a = s := by
  apply ext_contains
  intro b
  rw [contains_add, contains_erase]
  constructor
  · rintro (rfl | ⟨_, hb⟩)
    · exact h
    · exact hb
  · intro hb
    by_cases hba : b = a
    · exact Or.inl hba
    · exact Or.inr ⟨hba, hb⟩

end SortedSet

end LeaseBroker
