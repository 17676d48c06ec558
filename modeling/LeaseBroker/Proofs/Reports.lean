import LeaseBroker.Proofs.ReconcileChanges
import Mathlib.Data.List.Induction

/-!
# Which class owns a device after a scan

A scan asks the classes one after another, each in the world that those before it leave behind. The
owners after a scan depend on nothing but what the classes report, in order of registration. A class
that fails reports nothing, and of several classes that report an identifier the last one owns it.
Nothing is left of the owners of an earlier scan. What a rescan expects to be registered is what has
an owner then and is permitted.
-/

set_option autoImplicit false

namespace LeaseBroker

/-- What the classes of a list answer when they are asked what is there, each in the world that
those before it leave behind. -/
def DeviceClasses.scans {W K H : Type} (cls : DeviceClasses W K H) (w : W) :
    List K → List (Except Fault (List DeviceId))
  | [] => []
  | k :: rest => (cls.rescan k w).answer :: cls.scans (cls.rescan k w).world rest

def DeviceClasses.reports {W K H : Type} (cls : DeviceClasses W K H) (w : W) :
    List K → List (K × List DeviceId)
  | [] => []
  | k :: rest =>
    (k, (cls.rescan k w).answer.toOption.getD []) :: cls.reports (cls.rescan k w).world rest

section Reports
variable {K : Type}

/-- Enters every identifier of a report with the class that it comes from. -/
def recordReport (owners : SortedMap DeviceId K) (report : K × List DeviceId) :
    SortedMap DeviceId K :=
  report.2.foldl (fun m id => m.insert id report.1) owners

def lastReporter (reports : List (K × List DeviceId)) (id : DeviceId) : Option K :=
  (reports.reverse.find? fun report => report.2.contains id).map (·.1)

theorem get?_recordReport (owners : SortedMap DeviceId K) (report : K × List DeviceId)
    (id : DeviceId) : (recordReport owners report).get? id =
      if report.2.contains id then some report.1 else owners.get? id := by
  obtain ⟨k, ids⟩ := report
  change (ids.foldl (fun m i => m.insert i k) owners).get? id = _
  induction ids generalizing owners with
  | nil => simp
  | cons i rest ih =>
    rw [List.foldl_cons, ih, SortedMap.get?_insert]
    by_cases hrest : rest.contains id = true
    · simp_all
    · by_cases hi : id = i
      · simp_all
      · simp_all

theorem get?_recordReports (reports : List (K × List DeviceId)) (id : DeviceId) :
    (reports.foldl recordReport ∅).get? id = lastReporter reports id := by
  -- The induction takes the last report off, since it decides before all others.
  induction reports using List.reverseRecOn with
  | nil => rfl
  | append_singleton reports last ih =>
    rw [List.foldl_append, List.foldl_cons, List.foldl_nil, get?_recordReport, ih, lastReporter,
      lastReporter, List.reverse_append, List.reverse_singleton, List.singleton_append,
      List.find?_cons]
    split <;> simp_all

theorem exists_lastReporter_iff {reports : List (K × List DeviceId)} {id : DeviceId} :
    (∃ k, lastReporter reports id = some k) ↔ ∃ report ∈ reports, id ∈ report.2 := by
  rw [← Option.ne_none_iff_exists', lastReporter, Ne, Option.map_eq_none_iff, List.find?_eq_none]
  simp

theorem mem_of_lastReporter {reports : List (K × List DeviceId)} {id : DeviceId} {k : K}
    (h : lastReporter reports id = some k) : ∃ ids, (k, ids) ∈ reports ∧ id ∈ ids := by
  obtain ⟨⟨k, ids⟩, hfind, rfl⟩ := Option.map_eq_some_iff.mp h
  have hmem : (k, ids) ∈ reports := List.mem_reverse.mp (List.mem_of_find?_eq_some hfind)
  have hid : ids.contains id = true := by simpa using List.find?_some hfind
  exact ⟨ids, hmem, List.contains_iff_mem.mp hid⟩

end Reports

namespace Broker
variable {W K H : Type} (cls : DeviceClasses W K H) (b : Broker W K H)

/-- Whether a rescan is to have a device registered: a class that answers reports it, and it is
permitted. -/
def Expected (id : DeviceId) : Prop :=
  (∃ ids, .ok ids ∈ cls.scans b.world b.classes ∧ id ∈ ids) ∧ b.access.permits id = true

theorem foldl_claim_world (k : K) (ids : List DeviceId) :
    (ids.foldl (claim cls k) b).world = b.world :=
  foldl_claim_preserve (P := fun c => c.world = b.world) (fun _ _ _ _ h => h)
    (fun _ _ _ h => h) (List.mem_singleton_self k) ids rfl

theorem survey_world (k : K) : (survey cls b k).world = (cls.rescan k b.world).world := by
  unfold survey
  dsimp only
  split
  · rw [foldl_claim_world]
    rfl
  · rfl

theorem claim_owners (k : K) (i : DeviceId) :
    (claim cls k b i).owners = b.owners.insert i k := by
  unfold claim
  split <;> rfl

theorem foldl_claim_owners (k : K) (ids : List DeviceId) :
    (ids.foldl (claim cls k) b).owners = recordReport b.owners (k, ids) := by
  induction ids generalizing b with
  | nil => rfl
  | cons id rest ih =>
    rw [List.foldl_cons, ih, claim_owners]
    rfl

theorem survey_owners (k : K) : (survey cls b k).owners =
    recordReport b.owners (k, (cls.rescan k b.world).answer.toOption.getD []) := by
  unfold survey
  dsimp only
  split
  · rename_i ids h
    rw [foldl_claim_owners, h]
    rfl
  · rename_i fault h
    rw [h]
    rfl

theorem foldl_survey_owners (ks : List K) : (ks.foldl (survey cls) b).owners =
    (cls.reports b.world ks).foldl recordReport b.owners := by
  induction ks generalizing b with
  | nil => rfl
  | cons k rest ih =>
    rw [List.foldl_cons, ih, survey_owners, survey_world]
    rfl

theorem scan_owners : (b.scan cls).owners =
    (cls.reports b.world b.classes).foldl recordReport ∅ :=
  foldl_survey_owners cls _ b.classes

theorem scan_owner (id : DeviceId) : (b.scan cls).owners.get? id =
    lastReporter (cls.reports b.world b.classes) id := by
  rw [scan_owners, get?_recordReports]

theorem mem_reports_iff (w : W) (ks : List K) (id : DeviceId) :
    (∃ report ∈ cls.reports w ks, id ∈ report.2) ↔ ∃ ids, .ok ids ∈ cls.scans w ks ∧ id ∈ ids := by
  induction ks generalizing w with
  | nil => simp [DeviceClasses.reports, DeviceClasses.scans]
  | cons k rest ih =>
    simp only [DeviceClasses.reports, DeviceClasses.scans, List.mem_cons, or_and_right, exists_or,
      exists_eq_left, ih]
    cases (cls.rescan k w).answer with
    | error fault => simp [Except.toOption]
    | ok ids => simp [Except.toOption]

/-- The owned identifiers after a scan are those that a class which answers reports. -/
theorem scan_owned (id : DeviceId) : (∃ k, (b.scan cls).owners.get? id = some k) ↔
    ∃ ids, .ok ids ∈ cls.scans b.world b.classes ∧ id ∈ ids := by
  simp only [scan_owner]
  exact exists_lastReporter_iff.trans (mem_reports_iff cls b.world b.classes id)

theorem mem_eligible_scan {id : DeviceId} : id ∈ (b.scan cls).eligible ↔ b.Expected cls id := by
  rw [eligible, List.mem_filter, SortedMap.mem_keys_iff, scan_owned, scan_access, Expected]

end Broker

end LeaseBroker
