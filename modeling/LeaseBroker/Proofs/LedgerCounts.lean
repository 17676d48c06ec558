import LeaseBroker.Broker.Ledger
import LeaseBroker.Proofs.SortedMap
import Mathlib.Data.String.Basic

/-!
# The ledger as counts

What recording and popping do to the number of leases of every acquirer on every device, and what
the listings of the ledger say in terms of these numbers. The listings can be trusted only while
no stack is empty and no acquirer is without a stack, which both operations maintain.
-/

set_option autoImplicit false

namespace LeaseBroker

/-- Listings go by acquirer first, then by device. -/
def Holding.Before (lease other : Holding) : Prop :=
  lease.acquirer < other.acquirer ∨
    lease.acquirer = other.acquirer ∧ lease.device < other.device

theorem Holding.Before.ne {lease other : Holding} (h : lease.Before other) : lease ≠ other := by
  rintro rfl
  rcases h with hlt | ⟨_, hlt⟩
  · exact absurd hlt (lt_irrefl _)
  · exact absurd hlt (lt_irrefl _)

namespace Ledger

/-- Nothing in the ledger is empty: no stack, and no acquirer's stacks. -/
structure Pruned (ledger : Ledger) : Prop where
  stack : ∀ {a : Acquirer} {d : DeviceId}, (ledger.heldBy a).get? d ≠ some []
  devices : ∀ {a : Acquirer}, ledger.held.get? a ≠ some ∅

section Stacks
variable {ledger : Ledger} {a b : Acquirer} {d e : DeviceId}

theorem heldBy_of_get? {devices : Stacks} (h : ledger.held.get? a = some devices) :
    ledger.heldBy a = devices := by
  rw [Ledger.heldBy, h, Option.getD_some]

/-- What is dropped for being empty reads as empty afterwards. -/
theorem getD_filter {γ : Type} {blank : γ → Bool} {empty x : γ} (h : blank x = true → x = empty) :
    ((some x).filter fun y => !blank y).getD empty = x := by
  cases hb : blank x with
  | true =>
    rw [Option.filter_some_neg (by simp [hb]), Option.getD_none, h hb]
  | false => rw [Option.filter_some_pos (by simp [hb]), Option.getD_some]

theorem heldBy_setStack (ledger : Ledger) (a b : Acquirer) (d : DeviceId) (stack : List Moment) :
    (ledger.setStack a d stack).heldBy b =
      if b = a then (ledger.heldBy a).set d ((some stack).filter (!·.isEmpty))
      else ledger.heldBy b := by
  simp only [setStack, Ledger.heldBy, SortedMap.get?_set]
  split
  · exact getD_filter SortedMap.isEmpty_iff.mp
  · rfl

theorem since_setStack (ledger : Ledger) (a b : Acquirer) (d e : DeviceId)
    (stack : List Moment) : (ledger.setStack a d stack).since b e =
      if b = a ∧ e = d then stack else ledger.since b e := by
  simp only [since, heldBy_setStack]
  by_cases hb : b = a
  · subst b
    rw [if_pos rfl, SortedMap.get?_set]
    by_cases he : e = d
    · rw [if_pos he, if_pos ⟨rfl, he⟩]
      exact getD_filter List.isEmpty_iff.mp
    · rw [if_neg he, if_neg fun h => he h.2]
  · rw [if_neg hb, if_neg fun h => hb h.1]

theorem since_setStack_lease (ledger : Ledger) (lease other : Holding) (stack : List Moment) :
    (ledger.setStack lease.acquirer lease.device stack).since other.acquirer other.device =
      if lease = other then stack else ledger.since other.acquirer other.device := by
  have hsame : other.acquirer = lease.acquirer ∧ other.device = lease.device ↔ lease = other := by
    cases lease
    cases other
    rw [Holding.mk.injEq]
    exact and_congr eq_comm eq_comm
  rw [since_setStack, if_congr hsame rfl rfl]

/-- A recorded lease is put on its stack like any other, since nothing is empty then. -/
theorem record_eq_setStack (ledger : Ledger) (a : Acquirer) (d : DeviceId) (now : Moment) :
    ledger.record a d now = ledger.setStack a d (ledger.since a d ++ [now]) := by
  have hstack : (some (ledger.since a d ++ [now])).filter (!·.isEmpty) =
      some (ledger.since a d ++ [now]) := Option.filter_some_pos (by simp)
  have hdevices : ((ledger.heldBy a).insert d (ledger.since a d ++ [now])).isEmpty = false := by
    apply Bool.eq_false_iff.mpr
    intro h
    have hnone := congrArg (fun m => m.get? d) (SortedMap.isEmpty_iff.mp h)
    simp at hnone
  rw [setStack, hstack, SortedMap.set_some, Option.filter_some_pos (by simp [hdevices]),
    SortedMap.set_some, record]

theorem eq_of_getD_eq {γ : Type} {x y : Option γ} {blank : γ} (hx : x ≠ some blank)
    (hy : y ≠ some blank) (h : x.getD blank = y.getD blank) : x = y := by
  cases x <;> cases y <;> simp_all

/-- Ledgers that are not empty anywhere are equal if they have the same stacks. -/
theorem Pruned.ext {other : Ledger} (hl : ledger.Pruned) (ho : other.Pruned)
    (h : ∀ a d, ledger.since a d = other.since a d) : ledger = other := by
  have hheld (a : Acquirer) : ledger.heldBy a = other.heldBy a :=
    SortedMap.ext_get? fun d => eq_of_getD_eq hl.stack ho.stack (h a d)
  have hmaps : ledger.held = other.held :=
    SortedMap.ext_get? fun a => eq_of_getD_eq hl.devices ho.devices (hheld a)
  cases ledger
  cases other
  exact congrArg Ledger.mk hmaps

theorem pruned_empty : Pruned {} where
  stack := nofun
  devices := nofun

theorem Pruned.setStack (hl : ledger.Pruned) (a : Acquirer) (d : DeviceId)
    (stack : List Moment) : (ledger.setStack a d stack).Pruned where
  stack := by
    intro b e
    rw [heldBy_setStack]
    split
    · rw [SortedMap.get?_set]
      split
      · intro h
        have hne := (Option.filter_eq_some_iff.mp h).2
        cases hne
      · exact hl.stack
    · exact hl.stack
  devices := by
    intro b
    simp only [Ledger.setStack, SortedMap.get?_set]
    split
    · intro h
      have hne := (Option.filter_eq_some_iff.mp h).2
      cases hne
    · exact hl.devices

theorem Pruned.record (hl : ledger.Pruned) (a : Acquirer) (d : DeviceId) (now : Moment) :
    (ledger.record a d now).Pruned :=
  record_eq_setStack ledger a d now ▸ hl.setStack _ _ _

end Stacks

/-! ### Counts -/

section Counts
variable {ledger after : Ledger} {a : Acquirer} {d : DeviceId} {t : Moment}

@[simp] theorem count_empty (acquirer : Acquirer) (device : DeviceId) :
    count {} acquirer device = 0 := rfl

theorem count_record (ledger : Ledger) (a b : Acquirer) (d e : DeviceId) (now : Moment) :
    (ledger.record a d now).count b e = ledger.count b e + if b = a ∧ e = d then 1 else 0 := by
  rw [count, count, record_eq_setStack, since_setStack]
  split
  · rename_i h
    rw [h.1, h.2, List.length_append, List.length_singleton]
  · rfl

/-- Everything that a pop does. Under a pruned ledger it does nothing in vain. -/
theorem pop_cases (ledger : Ledger) (a : Acquirer) (d : DeviceId) :
    (ledger.since a d = [] ∧ (ledger.pop a d).1 = none ∧
      (ledger.Pruned → (ledger.pop a d).2 = ledger)) ∨
    (∃ older t, ledger.since a d = older ++ [t] ∧
      ledger.pop a d = (some t, ledger.setStack a d older)) := by
  unfold pop
  cases hs : ledger.held.get? a with
  | none => exact Or.inl ⟨by simp [since, heldBy, hs], rfl, fun _ => rfl⟩
  | some devices =>
    have hdevices := heldBy_of_get? hs
    cases hd : devices.get? d with
    | none => exact Or.inl ⟨by simp [since, hdevices, hd], by simp [hd], fun _ => by simp [hd]⟩
    | some stack =>
      have hsince : ledger.since a d = stack := by rw [since, hdevices, hd, Option.getD_some]
      simp only [hd]
      rcases List.eq_nil_or_concat stack with rfl | ⟨older, t, rfl⟩
      · refine Or.inl ⟨hsince, rfl, fun hl => absurd ?_ (hl.stack (a := a) (d := d))⟩
        rw [hdevices, hd]
      · refine Or.inr ⟨older, t, by rw [hsince, List.concat_eq_append], ?_⟩
        rw [List.concat_eq_append, List.getLast?_concat, List.dropLast_concat]

theorem pop_fst (ledger : Ledger) (a : Acquirer) (d : DeviceId) :
    (ledger.pop a d).1 = (ledger.since a d).getLast? := by
  rcases pop_cases ledger a d with ⟨hnil, hnone, _⟩ | ⟨older, t, hs, hp⟩
  · rw [hnone, hnil, List.getLast?_nil]
  · rw [hp, hs, List.getLast?_concat]

theorem Pruned.since_pop (hl : ledger.Pruned) (lease other : Holding) :
    (ledger.pop lease.acquirer lease.device).2.since other.acquirer other.device =
      if lease = other then (ledger.since other.acquirer other.device).dropLast
      else ledger.since other.acquirer other.device := by
  rcases pop_cases ledger lease.acquirer lease.device with ⟨hnil, _, hsame⟩ | ⟨older, t, hs, hp⟩
  · rw [hsame hl]
    split
    · rename_i h
      rw [← h, hnil, List.dropLast_nil]
    · rfl
  · rw [hp, since_setStack_lease]
    split
    · rename_i h
      rw [← h, hs, List.dropLast_concat]
    · rfl

theorem pop_eq_some (h : ledger.pop a d = (some t, after)) :
    ∃ older, ledger.since a d = older ++ [t] ∧ after = ledger.setStack a d older := by
  rcases pop_cases ledger a d with ⟨_, hnone, _⟩ | ⟨older, t', hs, hp⟩
  · rw [h] at hnone
    cases hnone
  · rw [h] at hp
    cases hp
    exact ⟨older, hs, rfl⟩

theorem Pruned.eq_of_pop_none (hl : ledger.Pruned) (h : ledger.pop a d = (none, after)) :
    after = ledger := by
  rcases pop_cases ledger a d with ⟨_, _, hsame⟩ | ⟨_, _, _, hp⟩
  · rw [← hsame hl, h]
  · rw [h] at hp
    cases hp

theorem exists_pop_of_count_pos (h : 0 < ledger.count a d) :
    ∃ t after, ledger.pop a d = (some t, after) := by
  rcases pop_cases ledger a d with ⟨hs, _, _⟩ | ⟨older, t, _, hp⟩
  · rw [count, hs] at h
    exact absurd h (Nat.lt_irrefl 0)
  · exact ⟨t, _, hp⟩

theorem count_of_pop (h : ledger.pop a d = (some t, after)) (b : Acquirer) (e : DeviceId) :
    ledger.count b e = after.count b e + if b = a ∧ e = d then 1 else 0 := by
  obtain ⟨older, hs, rfl⟩ := pop_eq_some h
  rw [count, count, since_setStack]
  split
  · rename_i he
    rw [he.1, he.2, hs, List.length_append, List.length_singleton]
  · rfl

theorem Pruned.pop (hl : ledger.Pruned) (h : ledger.pop a d = (some t, after)) :
    after.Pruned := by
  obtain ⟨older, _, rfl⟩ := pop_eq_some h
  exact hl.setStack _ _ _

/-- A pop takes back what has just been recorded, down to rows that were not there before. -/
theorem Pruned.pop_record (hl : ledger.Pruned) (a : Acquirer) (d : DeviceId) (now : Moment) :
    (ledger.record a d now).pop a d = (some now, ledger) := by
  have hrecorded : (ledger.record a d now).since a d = ledger.since a d ++ [now] := by
    rw [record_eq_setStack, since_setStack, if_pos ⟨rfl, rfl⟩]
  rcases pop_cases (ledger.record a d now) a d with ⟨hnil, _⟩ | ⟨older, t, hs, hp⟩
  · rw [hrecorded] at hnil
    exact absurd hnil (List.append_ne_nil_of_right_ne_nil _ (List.cons_ne_nil _ _))
  · obtain ⟨hstack, hnow⟩ := List.append_inj' (hrecorded.symm.trans hs) rfl
    obtain rfl := List.singleton_inj.mp hnow
    rw [hp, ← hstack]
    congr 1
    apply ((hl.record a d now).setStack a d _).ext hl
    intro b e
    rw [since_setStack, record_eq_setStack, since_setStack]
    split
    · rename_i h
      rw [h.1, h.2]
    · rfl

theorem Pruned.count_pos_iff (hl : ledger.Pruned) :
    0 < ledger.count a d ↔ ∃ stack, (ledger.heldBy a).get? d = some stack := by
  unfold count since
  cases h : (ledger.heldBy a).get? d with
  | none => simp
  | some stack =>
    have hne : stack ≠ [] := fun he => hl.stack (he ▸ h)
    simpa using List.length_pos_iff.mpr hne

end Counts

/-! ### Listings -/

section Listings
variable {ledger : Ledger} {a b : Acquirer} {d : DeviceId}

theorem Pruned.mem_acquirers_iff (hl : ledger.Pruned) :
    a ∈ ledger.acquirers ↔ ∃ d, 0 < ledger.count a d := by
  simp only [acquirers, SortedMap.mem_keys_iff, hl.count_pos_iff]
  constructor
  · rintro ⟨devices, h⟩
    have hne : devices ≠ ∅ := fun he => hl.devices (he ▸ h)
    obtain ⟨⟨d, stack⟩, hm⟩ := SortedMap.exists_mem_of_ne_empty hne
    exact ⟨d, stack, by rw [heldBy_of_get? h]; exact SortedMap.mem_toList_iff.mp hm⟩
  · rintro ⟨d, stack, h⟩
    cases hs : ledger.held.get? a with
    | none => simp [heldBy, hs] at h
    | some devices => exact ⟨devices, rfl⟩

theorem acquirers_nodup (ledger : Ledger) : ledger.acquirers.Nodup :=
  SortedMap.keys_nodup _

theorem mem_acquisitions_iff {row : Holding × List Moment} :
    row ∈ ledger.acquisitions ↔
      (ledger.heldBy row.1.acquirer).get? row.1.device = some row.2 := by
  obtain ⟨⟨a, d⟩, stack⟩ := row
  simp only [acquisitions, List.mem_flatMap, List.mem_map]
  constructor
  · rintro ⟨⟨_, devices⟩, hs, ⟨_, _⟩, hd, heq⟩
    cases heq
    rw [heldBy_of_get? (SortedMap.mem_toList_iff.mp hs)]
    exact SortedMap.mem_toList_iff.mp hd
  · intro h
    cases hs : ledger.held.get? a with
    | none => simp [heldBy, hs] at h
    | some devices =>
      rw [heldBy_of_get? hs] at h
      exact ⟨(a, devices), SortedMap.mem_toList_iff.mpr hs, (d, stack),
        SortedMap.mem_toList_iff.mpr h, rfl⟩

/-- The rows of a pruned ledger are its stacks that are not empty. -/
theorem Pruned.mem_acquisitions_iff_since (hl : ledger.Pruned) {row : Holding × List Moment} :
    row ∈ ledger.acquisitions ↔
      row.2 ≠ [] ∧ ledger.since row.1.acquirer row.1.device = row.2 := by
  rw [mem_acquisitions_iff, since]
  cases hs : (ledger.heldBy row.1.acquirer).get? row.1.device with
  | none => simp [eq_comm]
  | some stack =>
    simp only [Option.some.injEq, Option.getD_some]
    constructor
    · rintro rfl
      exact ⟨fun hnil => hl.stack (hnil ▸ hs), rfl⟩
    · exact fun h => h.2

theorem acquisitions_ascending (ledger : Ledger) :
    (ledger.acquisitions.map (·.1)).Pairwise Holding.Before := by
  rw [List.pairwise_map, acquisitions, List.pairwise_flatMap]
  constructor
  · intro row _
    apply List.pairwise_map.mpr
    apply (List.pairwise_map.mp row.2.keys_lt).imp
    intro stack stack' hlt
    exact Or.inr ⟨rfl, hlt⟩
  · apply (List.pairwise_map.mp ledger.held.keys_lt).imp
    intro row row' hlt x hx y hy
    obtain ⟨_, _, rfl⟩ := List.mem_map.mp hx
    obtain ⟨_, _, rfl⟩ := List.mem_map.mp hy
    exact Or.inl hlt

theorem Pruned.mem_rows_iff (hl : ledger.Pruned) {lease : Holding} :
    lease ∈ ledger.acquisitions.map (·.1) ↔ 0 < ledger.count lease.acquirer lease.device := by
  rw [hl.count_pos_iff, List.mem_map]
  constructor
  · rintro ⟨row, hrow, rfl⟩
    exact ⟨row.2, mem_acquisitions_iff.mp hrow⟩
  · rintro ⟨stack, hstack⟩
    exact ⟨(lease, stack), mem_acquisitions_iff.mpr hstack, rfl⟩

theorem Pruned.count_rows (hl : ledger.Pruned) (lease : Holding) :
    (ledger.acquisitions.map (·.1)).count lease =
      if 0 < ledger.count lease.acquirer lease.device then 1 else 0 := by
  have hnodup : (ledger.acquisitions.map (·.1)).Nodup :=
    ledger.acquisitions_ascending.imp Holding.Before.ne
  rw [hnodup.count, if_congr hl.mem_rows_iff rfl rfl]

theorem Pruned.count_pos_iff_row (hl : ledger.Pruned) : 0 < ledger.count a d ↔
    ∃ devices, (a, devices) ∈ ledger.held.toList ∧ devices.contains d = true := by
  rw [hl.count_pos_iff]
  simp only [SortedMap.mem_toList_iff, SortedMap.contains_eq_true_iff]
  constructor
  · rintro ⟨stack, h⟩
    cases hs : ledger.held.get? a with
    | none => simp [heldBy, hs] at h
    | some devices =>
      rw [heldBy_of_get? hs] at h
      exact ⟨devices, rfl, stack, h⟩
  · rintro ⟨devices, hs, stack, h⟩
    rw [heldBy_of_get? hs]
    exact ⟨stack, h⟩

theorem Pruned.count_pos_of_holderOf? (hl : ledger.Pruned) (h : ledger.holderOf? d = some a) :
    0 < ledger.count a d := by
  obtain ⟨⟨a, devices⟩, hf, rfl⟩ := Option.map_eq_some_iff.mp h
  have hd : devices.contains d = true := by simpa using List.find?_some hf
  exact hl.count_pos_iff_row.mpr ⟨devices, List.mem_of_find?_eq_some hf, hd⟩

theorem Pruned.exists_holderOf? (hl : ledger.Pruned) (h : 0 < ledger.count a d) :
    ∃ b, ledger.holderOf? d = some b := by
  obtain ⟨devices, hrow, hd⟩ := hl.count_pos_iff_row.mp h
  rw [holderOf?, ← Option.isSome_iff_exists, Option.isSome_map, List.find?_isSome]
  exact ⟨_, hrow, hd⟩

/-- The rows stand in name order, so no holder comes before the first one that is found. -/
theorem Pruned.holderOf?_le (hl : ledger.Pruned) (h : ledger.holderOf? d = some a)
    (hb : 0 < ledger.count b d) : b = a ∨ a < b := by
  obtain ⟨⟨a, _⟩, hf, rfl⟩ := Option.map_eq_some_iff.mp h
  obtain ⟨_, earlier, later, hsplit, hwithout⟩ := List.find?_eq_some_iff_append.mp hf
  obtain ⟨devices, hrow, hd⟩ := hl.count_pos_iff_row.mp hb
  have hnames := List.pairwise_map.mp ledger.held.keys_lt
  rw [hsplit] at hnames hrow
  rcases List.mem_append.mp hrow with hearlier | hrest
  · exact absurd hd (by simpa using hwithout _ hearlier)
  · rcases List.mem_cons.mp hrest with heq | hlater
    · exact Or.inl (congrArg Prod.fst heq)
    · exact Or.inr (List.rel_of_pairwise_cons (List.pairwise_append.mp hnames).2.1 hlater)

theorem Pruned.holderOf?_eq_none_iff (hl : ledger.Pruned) :
    ledger.holderOf? d = none ↔ ∀ a, ¬ 0 < ledger.count a d := by
  constructor
  · intro hnone a hpos
    obtain ⟨b, hb⟩ := hl.exists_holderOf? hpos
    rw [hnone] at hb
    cases hb
  · intro hfree
    cases h : ledger.holderOf? d with
    | none => rfl
    | some a => exact absurd (hl.count_pos_of_holderOf? h) (hfree a)

theorem Pruned.holderOf?_eq_some_iff (hl : ledger.Pruned) : ledger.holderOf? d = some a ↔
    0 < ledger.count a d ∧ ∀ b, 0 < ledger.count b d → a ≤ b := by
  have hfirst {a b : Acquirer} (h : ledger.holderOf? d = some a) (hb : 0 < ledger.count b d) :
      a ≤ b := by
    rcases hl.holderOf?_le h hb with rfl | hlt
    · exact le_rfl
    · exact le_of_lt hlt
  constructor
  · intro h
    exact ⟨hl.count_pos_of_holderOf? h, fun b hb => hfirst h hb⟩
  · rintro ⟨hpos, hleast⟩
    obtain ⟨b, hb⟩ := hl.exists_holderOf? hpos
    rw [hb, le_antisymm (hfirst hb hpos) (hleast b (hl.count_pos_of_holderOf? hb))]

theorem count_holdings (ledger : Ledger) (a : Acquirer) (d : DeviceId) :
    (ledger.holdings a).count d = ledger.count a d := by
  rw [holdings, List.count_flatMap]
  simp only [Function.comp_def, List.count_replicate, beq_iff_eq]
  rw [SortedMap.sum_at_key (ledger.heldBy a) d List.length, count, since]
  cases (ledger.heldBy a).get? d <;> rfl

theorem holdings_ascending (ledger : Ledger) (a : Acquirer) :
    (ledger.holdings a).Pairwise (· ≤ ·) := by
  rw [holdings, List.pairwise_flatMap]
  constructor
  · intro row _
    apply List.pairwise_replicate.mpr
    exact Or.inr (String.le_refl row.1)
  · apply (List.pairwise_map.mp (ledger.heldBy a).keys_lt).imp
    intro row row' hlt x hx y hy
    rw [List.eq_of_mem_replicate hx, List.eq_of_mem_replicate hy]
    exact le_of_lt hlt

theorem holdings_eq_nil_iff : ledger.holdings a = [] ↔ ∀ d, ledger.count a d = 0 := by
  constructor
  · intro h d
    rw [← count_holdings, h, List.count_nil]
  · intro h
    apply List.eq_nil_iff_forall_not_mem.mpr
    intro d hd
    have hpos := List.count_pos_iff.mpr hd
    rw [count_holdings, h d] at hpos
    exact absurd hpos (Nat.lt_irrefl 0)

end Listings

end Ledger

end LeaseBroker
