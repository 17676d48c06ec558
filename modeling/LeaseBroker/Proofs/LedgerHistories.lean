import LeaseBroker.Proofs.LedgerCounts
import Mathlib.Data.List.DropRight

/-!
# Histories of a ledger

All that a ledger tells can be told from what was done to it. An acquirer holds as many leases of a
device as were recorded for both since the ledger was last cleared, less the pops that found one.
Pops that find nothing do not count, so a history is read together with what its calls answered.
-/

set_option autoImplicit false

namespace LeaseBroker

/-! ### Calls and histories -/

inductive LedgerCall where
  | record (lease : Holding) (now : Moment)
  | pop (lease : Holding)
  | clear
  deriving DecidableEq, Repr

namespace LedgerCall

def isRecordOf (lease : Holding) : LedgerCall → Bool
  | record other _ => other = lease
  | _ => false

def sinceClear (calls : List LedgerCall) : List LedgerCall := calls.rtakeWhile (· ≠ clear)

/-- How many more records than pops of a lease there have been since the last clear. -/
def balance (calls : List LedgerCall) (lease : Holding) : Int :=
  (sinceClear calls).countP (isRecordOf lease) - (sinceClear calls).count (pop lease)

def onStarts (lease : Holding) (starts : List Moment) : LedgerCall → List Moment
  | record other now => if other = lease then starts ++ [now] else starts
  | pop other => if other = lease then starts.dropLast else starts
  | clear => []

def starts (calls : List LedgerCall) (lease : Holding) : List Moment :=
  calls.foldl (onStarts lease) []

variable (calls : List LedgerCall) (lease other : Holding) {c : LedgerCall}

theorem sinceClear_concat (h : c ≠ clear) : sinceClear (calls ++ [c]) = sinceClear calls ++ [c] :=
  List.rtakeWhile_concat_pos _ _ _ (by simpa using h)

theorem balance_concat (h : c ≠ clear) : balance (calls ++ [c]) lease =
    balance calls lease + (if c.isRecordOf lease then 1 else 0) - if c = pop lease then 1 else 0 := by
  rw [balance, balance, sinceClear_concat calls h, List.countP_append, List.countP_singleton,
    List.count_append, List.count_singleton]
  simp only [beq_iff_eq]
  split <;> split <;> omega

theorem balance_clear : balance (calls ++ [clear]) lease = 0 := by
  simp [balance, sinceClear]

theorem balance_record (now : Moment) : balance (calls ++ [record other now]) lease =
    balance calls lease + if other = lease then 1 else 0 := by
  simp [balance_concat, isRecordOf]

theorem balance_pop : balance (calls ++ [pop other]) lease =
    balance calls lease - if other = lease then 1 else 0 := by
  simp [balance_concat, isRecordOf]

theorem starts_concat (c : LedgerCall) :
    starts (calls ++ [c]) lease = c.onStarts lease (starts calls lease) := by
  rw [starts, List.foldl_append]
  rfl

end LedgerCall

namespace Ledger

def call (ledger : Ledger) : LedgerCall → Ledger
  | .record lease now => ledger.record lease.acquirer lease.device now
  | .pop lease => (ledger.pop lease.acquirer lease.device).2
  | .clear => {}

def inVain (ledger : Ledger) : LedgerCall → Bool
  | .pop lease => (ledger.pop lease.acquirer lease.device).1.isNone
  | _ => false

def after (ledger : Ledger) (calls : List LedgerCall) : Ledger := calls.foldl call ledger

def succeeding : Ledger → List LedgerCall → List LedgerCall
  | _, [] => []
  | ledger, c :: rest =>
    if ledger.inVain c then (ledger.call c).succeeding rest
    else c :: (ledger.call c).succeeding rest

/-- How many leases a history has recorded in a new ledger and not ended, for one acquirer and one
device. -/
def outstanding (calls : List LedgerCall) (lease : Holding) : Int :=
  LedgerCall.balance (succeeding {} calls) lease

/-! ### What a ledger tells -/

/-- What a ledger tells if it is the map of the counts `n`. -/
structure Tells (ledger : Ledger) (n : Holding → Int) : Prop where
  pops : ∀ lease, (∃ t, (ledger.pop lease.acquirer lease.device).1 = some t) ↔ 0 < n lease
  pops_alone : ∀ lease other : Holding, other ≠ lease →
    (ledger.pop lease.acquirer lease.device).2.since other.acquirer other.device =
      ledger.since other.acquirer other.device
  holder : ∀ a d, ledger.holderOf? d = some a ↔ 0 < n ⟨a, d⟩ ∧ ∀ b, 0 < n ⟨b, d⟩ → a ≤ b
  nobody : ∀ d, ledger.holderOf? d = none ↔ ∀ a, ¬ 0 < n ⟨a, d⟩
  holdings : ∀ a d, (ledger.holdings a).count d = n ⟨a, d⟩
  holdings_ascend : ∀ a, (ledger.holdings a).Pairwise (· ≤ ·)
  acquirers : ∀ a, a ∈ ledger.acquirers ↔ ∃ d, 0 < n ⟨a, d⟩
  acquirers_ascend : ledger.acquirers.Pairwise (· < ·)
  rows : ∀ lease, (ledger.acquisitions.map (·.1)).count lease = if 0 < n lease then 1 else 0
  rows_ascend : (ledger.acquisitions.map (·.1)).Pairwise Holding.Before
  rows_length : ∀ row ∈ ledger.acquisitions, row.2.length = n row.1

section OneLedger
variable {ledger : Ledger}

theorem Pruned.tells (hl : ledger.Pruned) :
    ledger.Tells fun lease => ledger.count lease.acquirer lease.device where
  pops := by
    intro lease
    rw [pop_fst, ← Option.isSome_iff_exists, List.getLast?_isSome, Int.natCast_pos, count,
      List.length_pos_iff]
  pops_alone := by
    intro lease other hne
    rw [hl.since_pop, if_neg hne.symm]
  holder := by
    intro a d
    simp only [Int.natCast_pos]
    exact hl.holderOf?_eq_some_iff
  nobody := by
    intro d
    simp only [Int.natCast_pos]
    exact hl.holderOf?_eq_none_iff
  holdings := by
    intro a d
    rw [count_holdings]
  holdings_ascend := ledger.holdings_ascending
  acquirers := by
    intro a
    simp only [Int.natCast_pos]
    exact hl.mem_acquirers_iff
  acquirers_ascend := ledger.held.keys_lt
  rows := by
    intro lease
    simp only [Int.natCast_pos]
    exact hl.count_rows lease
  rows_ascend := ledger.acquisitions_ascending
  rows_length := by
    intro row hrow
    rw [count, (hl.mem_acquisitions_iff_since.mp hrow).2]

/-! ### One call -/

theorem Pruned.call (hl : ledger.Pruned) (c : LedgerCall) : (ledger.call c).Pruned := by
  cases c with
  | record lease now => exact hl.record _ _ _
  | pop lease =>
    rcases pop_cases ledger lease.acquirer lease.device with ⟨_, _, hsame⟩ | ⟨_, _, _, hp⟩
    · rw [Ledger.call, hsame hl]
      exact hl
    · rw [Ledger.call, hp]
      exact hl.setStack _ _ _
  | clear => exact pruned_empty

theorem inVain_pop_iff {lease : Holding} : ledger.inVain (.pop lease) = true ↔
    ledger.since lease.acquirer lease.device = [] := by
  rw [inVain, pop_fst, Option.isNone_iff_eq_none, List.getLast?_eq_none_iff]

/-- Every acquirer has a stack of its own for every device, on which no other call acts. -/
theorem Pruned.since_call (hl : ledger.Pruned) (c : LedgerCall) (lease : Holding) :
    (ledger.call c).since lease.acquirer lease.device =
      c.onStarts lease (ledger.since lease.acquirer lease.device) := by
  cases c with
  | record other now =>
    rw [Ledger.call, record_eq_setStack, since_setStack_lease, LedgerCall.onStarts]
    split
    · rename_i h
      rw [h]
    · rfl
  | pop other => exact hl.since_pop other lease
  | clear => rfl

end OneLedger

/-! ### Histories -/

section Histories
variable (ledger : Ledger) (calls : List LedgerCall) (c : LedgerCall) (lease : Holding)

theorem after_concat : ledger.after (calls ++ [c]) = (ledger.after calls).call c := by
  rw [after, List.foldl_append]
  rfl

theorem succeeding_concat : ledger.succeeding (calls ++ [c]) =
    ledger.succeeding calls ++ if (ledger.after calls).inVain c then [] else [c] := by
  induction calls generalizing ledger with
  | nil => rfl
  | cons first rest ih =>
    have hafter : ledger.after (first :: rest) = (ledger.call first).after rest := rfl
    rw [List.cons_append, succeeding, succeeding, hafter, ih]
    split
    · rfl
    · rfl

theorem pruned_after : (after {} calls).Pruned := by
  induction calls using List.reverseRecOn with
  | nil => exact pruned_empty
  | append_singleton calls c ih =>
    rw [after_concat]
    exact ih.call c

theorem since_after : (after {} calls).since lease.acquirer lease.device =
    LedgerCall.starts calls lease := by
  induction calls using List.reverseRecOn with
  | nil => rfl
  | append_singleton calls c ih =>
    rw [after_concat, (pruned_after calls).since_call, ih, LedgerCall.starts_concat]

theorem outstanding_record (other : Holding) (now : Moment) :
    outstanding (calls ++ [.record other now]) lease =
      outstanding calls lease + if other = lease then 1 else 0 := by
  have hcounts : ¬ (after {} calls).inVain (.record other now) = true := Bool.false_ne_true
  rw [outstanding, outstanding, succeeding_concat, if_neg hcounts, LedgerCall.balance_record]

theorem outstanding_pop (other : Holding) : outstanding (calls ++ [.pop other]) lease =
    if (after {} calls).since other.acquirer other.device = [] then outstanding calls lease
    else outstanding calls lease - if other = lease then 1 else 0 := by
  rw [outstanding, outstanding, succeeding_concat, ← if_congr inVain_pop_iff rfl rfl]
  split
  · rw [List.append_nil]
  · rw [LedgerCall.balance_pop]

theorem outstanding_clear : outstanding (calls ++ [.clear]) lease = 0 := by
  have hcounts : ¬ (after {} calls).inVain .clear = true := Bool.false_ne_true
  rw [outstanding, succeeding_concat, if_neg hcounts, LedgerCall.balance_clear]

theorem count_after :
    ((after {} calls).count lease.acquirer lease.device : Int) = outstanding calls lease := by
  induction calls using List.reverseRecOn with
  | nil => rfl
  | append_singleton calls c ih =>
    rw [after_concat, count, (pruned_after calls).since_call]
    rw [count] at ih
    cases c with
    | record other now =>
      rw [outstanding_record, ← ih, LedgerCall.onStarts]
      split
      · rw [List.length_append, List.length_singleton]
        rfl
      · exact (Int.add_zero _).symm
    | pop other =>
      rw [outstanding_pop, ← ih, LedgerCall.onStarts]
      by_cases h : other = lease
      · subst other
        rw [if_pos rfl, if_pos rfl, List.length_dropLast]
        split
        · rename_i hnil
          rw [hnil]
          rfl
        · rename_i hsome
          have hpos := List.length_pos_iff.mpr hsome
          omega
      · rw [if_neg h, if_neg h, Int.sub_zero, ite_self]
    | clear =>
      rw [outstanding_clear]
      rfl

/-- After any records, pops and clears, with pops that find nothing among them, the ledger is the
map of the numbers of leases that are outstanding. It keeps the starts of just these leases, the
oldest first, and a pop answers with the newest of them. -/
theorem tells_outstanding :
    (after {} calls).Tells (outstanding calls) ∧
    (∀ row ∈ (after {} calls).acquisitions, row.2 = LedgerCall.starts calls row.1) ∧
    ∀ lease : Holding, ((after {} calls).pop lease.acquirer lease.device).1 =
      (LedgerCall.starts calls lease).getLast? := by
  have hpruned := pruned_after calls
  refine ⟨?_, ?_, ?_⟩
  · rw [← funext (count_after calls)]
    exact hpruned.tells
  · intro row hrow
    rw [← since_after, (hpruned.mem_acquisitions_iff_since.mp hrow).2]
  · intro lease
    rw [pop_fst, since_after]

/-- A pop that comes too early does not count against the record that follows it. -/
example : outstanding [.pop ⟨"ann", "A"⟩, .record ⟨"ann", "A"⟩ 0] ⟨"ann", "A"⟩ = 1 := by
  decide +kernel

end Histories

end Ledger

end LeaseBroker
