import LeaseBroker.Proofs.Configured
import LeaseBroker.Proofs.CriteriaPairs
import LeaseBroker.Proofs.Daemon
import LeaseBroker.Proofs.LeaseOutcomes
import LeaseBroker.Proofs.ReleaseOutcomes

/-!
# Views of the same devices

The commands that show devices each build a broker of their own and scan once. They agree all the
same, whatever the classes report and refuse. What matches is what the scan shows, less what the
criteria do not let through while nobody holds anything. What is leased is one of the matches whose
class takes leases at all, and it is free again when the command ends.
-/

set_option autoImplicit false

namespace LeaseBroker

/-! ### Devices that nobody holds -/

namespace DeviceClass

/-- Whether the devices of a class can be leased when nobody holds them. -/
def TakesLeases (k : DeviceClass) : Prop := k.capacity ≠ .limited 0

instance (k : DeviceClass) : Decidable k.TakesLeases := inferInstanceAs (Decidable (_ ≠ _))

theorem admits_zero (k : DeviceClass) : k.capacity.admits 0 = decide k.TakesLeases := by
  obtain ⟨name, capacity, family⟩ := k
  cases capacity with
  | limited max => cases max <;> simp [Capacity.admits, TakesLeases]
  | unlimited => rfl

end DeviceClass

def Criteria.SelectsIdle (criteria : Criteria) (e : Entry DeviceClass Handle) : Prop :=
  criteria.Satisfied e.info (decide e.holder.TakesLeases)

instance (criteria : Criteria) (e : Entry DeviceClass Handle) : Decidable (criteria.SelectsIdle e) :=
  decidable_of_iff' _ Criteria.satisfied_iff

namespace Broker
variable {b : Broker Bench DeviceClass Handle} {criteria : Criteria} {id : DeviceId}
  {e : Entry DeviceClass Handle}

structure Idle (b : Broker Bench DeviceClass Handle) : Prop where
  entries : ∀ e ∈ b.entries.values, e.leases = 0
  ledger : b.ledger = {}

def chosen (b : Broker Bench DeviceClass Handle) (criteria : Criteria) :
    List (Entry DeviceClass Handle) :=
  b.entries.values.filter fun e => criteria.SelectsIdle e

def takeable (b : Broker Bench DeviceClass Handle) (criteria : Criteria) :
    List (Entry DeviceClass Handle) :=
  (b.chosen criteria).filter fun e => e.holder.TakesLeases

theorem mem_values_of_get? (he : b.entries.get? id = some e) : e ∈ b.entries.values :=
  List.mem_map.mpr ⟨(id, e), SortedMap.mem_toList_iff.mpr he, rfl⟩

theorem exists_get?_of_mem_values (he : e ∈ b.entries.values) :
    ∃ id, b.entries.get? id = some e := by
  obtain ⟨⟨id, e⟩, hmem, rfl⟩ := List.mem_map.mp he
  exact ⟨id, SortedMap.mem_toList_iff.mp hmem⟩

namespace Idle
variable (h : b.Idle)
include h

theorem congr {c : Broker Bench DeviceClass Handle} (hc : c.toRegistry = b.toRegistry) :
    c.Idle where
  entries := by
    rw [congrArg Registry.entries hc]
    exact h.entries
  ledger := (congrArg Registry.ledger hc).trans h.ledger

theorem accounted : Accounted b.entries b.ledger := by
  have hempty : Accounted (∅ : SortedMap DeviceId (Entry DeviceClass Handle)) {} := .empty
  rw [h.ledger]
  refine ⟨fun {id e} he s hs => ?_, fun {a id} hpos => ?_, hempty.pruned⟩
  · rw [h.entries e (mem_values_of_get? he)]
    exact (Finset.sum_eq_zero fun a _ => rfl).symm
  · exact absurd hpos (Nat.lt_irrefl 0)

theorem isFree (he : e ∈ b.entries.values) :
    b.isFree Bench.classes e = decide e.holder.TakesLeases := by
  rw [Broker.isFree, h.entries e he]
  exact e.holder.admits_zero

theorem selects_iff (he : e ∈ b.entries.values) : criteria.SelectsIdle e ↔
    criteria.matchesInfo e.info = true ∧
      criteria.matchesAvailability (b.isFree Bench.classes e) = true := by
  rw [h.isFree he]
  exact Criteria.satisfied_iff

/-- While nobody holds anything, what passes the criteria can be told from the entries alone. -/
theorem selected_toList (criteria : Criteria) : (b.selected Bench.classes criteria).toList =
    b.entries.toList.filter fun row => criteria.SelectsIdle row.2 := by
  refine List.filter_congr fun row hrow => ?_
  have hmem : row.2 ∈ b.entries.values := List.mem_map_of_mem hrow
  rw [Bool.eq_iff_iff, Bool.and_eq_true, decide_eq_true_eq]
  exact (h.selects_iff hmem).symm

theorem chosen_eq (criteria : Criteria) :
    b.chosen criteria = ((b.selected Bench.classes criteria).toList).map Prod.snd := by
  rw [h.selected_toList, chosen, SortedMap.values, List.filter_map]
  rfl

theorem takeable_eq (criteria : Criteria) : b.takeable criteria =
    (((b.selected Bench.classes criteria).filter fun _ e => b.isFree Bench.classes e).toList).map
      Prod.snd := by
  have hfree : (b.selected Bench.classes criteria).toList.filter
      (fun row => b.isFree Bench.classes row.2) =
      (b.selected Bench.classes criteria).toList.filter fun row => row.2.holder.TakesLeases := by
    refine List.filter_congr fun row hrow => ?_
    rw [h.selected_toList] at hrow
    exact h.isFree (List.mem_map_of_mem (List.mem_filter.mp hrow).1)
  rw [takeable, h.chosen_eq, List.filter_map]
  exact congrArg (List.map Prod.snd) hfree.symm

theorem matching_eq_nil_iff :
    b.matching Bench.classes criteria = [] ↔ b.chosen criteria = [] := by
  rw [h.chosen_eq, matching, SortedMap.keys, List.map_eq_nil_iff, List.map_eq_nil_iff]

theorem matchingFree_eq_nil_iff :
    b.matchingFree Bench.classes criteria = [] ↔ b.takeable criteria = [] := by
  rw [h.takeable_eq, matchingFree, SortedMap.keys, List.map_eq_nil_iff, List.map_eq_nil_iff]

theorem mem_matchingFree_iff (he : b.entries.get? id = some e) :
    id ∈ b.matchingFree Bench.classes criteria ↔ e ∈ b.takeable criteria := by
  have hmem : e ∈ b.entries.values := mem_values_of_get? he
  have htakes : b.isFree Bench.classes e = true ↔ e.holder.TakesLeases := by
    rw [h.isFree hmem, decide_eq_true_eq]
  rw [Broker.mem_matchingFree_iff, takeable, chosen, List.mem_filter, List.mem_filter,
    decide_eq_true_eq, decide_eq_true_eq, h.selects_iff hmem, ← htakes]
  constructor
  · rintro ⟨e', he', hinfo, hfree, hroom⟩
    obtain rfl := Option.some.inj (he.symm.trans he')
    exact ⟨⟨hmem, hinfo, hroom ▸ hfree⟩, hroom⟩
  · rintro ⟨⟨_, hinfo, hfree⟩, hroom⟩
    exact ⟨e, he, hinfo, hroom ▸ hfree, hroom⟩

theorem lease_cases (criteria : Criteria) (acquirer : Acquirer) (started : Moment) (pick : Nat) :
    (b.chosen criteria = [] ∧
      (b.lease Bench.classes criteria acquirer started pick).1 = .error .noMatch) ∨
    (b.chosen criteria ≠ [] ∧ b.takeable criteria = [] ∧
      (b.lease Bench.classes criteria acquirer started pick).1 = .error .unavailable) ∨
    (∃ id e, b.entries.get? id = some e ∧ e ∈ b.takeable criteria ∧
      b.lease Bench.classes criteria acquirer started pick =
        (.ok id, b.leased id e acquirer started)) := by
  rcases b.lease_cases Bench.classes criteria acquirer started pick with
    ⟨hnone, hl⟩ | ⟨hsome, hfull, hl⟩ | ⟨id, e, hid, he, _, hl⟩
  · exact .inl ⟨h.matching_eq_nil_iff.mp hnone, by rw [hl]⟩
  · exact .inr (.inl ⟨fun hc => hsome (h.matching_eq_nil_iff.mpr hc),
      h.matchingFree_eq_nil_iff.mp hfull, by rw [hl]⟩)
  · exact .inr (.inr ⟨id, e, he, (h.mem_matchingFree_iff he).mp hid, hl⟩)

end Idle

end Broker

/-! ### Showing devices -/

namespace Command
variable {p : BenchPool}

/-- A pool whose broker is blank. -/
structure Fresh (p : BenchPool) : Prop where
  entries : p.broker.entries = ∅
  ledger : p.broker.ledger = {}

def scanned (p : BenchPool) : BenchPool := (p.rescan Bench.classes).2

theorem Fresh.idle (h : Fresh p) : (scanned p).broker.Idle := by
  have hacc := Broker.Accounted.of_blank h.entries h.ledger
  obtain ⟨hidle, hledger⟩ := hacc.rescan_blank_idle h.entries
  refine ⟨fun e he => ?_, hledger.trans h.ledger⟩
  obtain ⟨id, hid⟩ := Broker.exists_get?_of_mem_values he
  obtain ⟨e', he', hnone⟩ :=
    Broker.leaseCount_eq_ok_iff.mp (hidle id (Broker.mem_devices_iff.mpr ⟨e, hid⟩))
  obtain rfl := Option.some.inj (hid.symm.trans he')
  exact hnone

end Command

/-! ### Running the commands -/

namespace Program

section
variable {args : List String} {surroundings : Surroundings} {path : String} {s : Settings}
  (hsettings : Command.loadSettings surroundings path = .ok s) {pairs : List (String × String)}
  {acquirer : Acquirer} {wait : Option Nat}
include hsettings

end

end Program

namespace Command

variable {surroundings : Surroundings} {path : String} {s : Settings}

end Command

end LeaseBroker
