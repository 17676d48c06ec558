import LeaseBroker.Proofs.Filtering
import LeaseBroker.Proofs.Holders

/-!
# The answers of a scan decide who owns what

A scan asks every class once, in the order of registration, and each may list identifiers, the same
one several times over, or fail. The owner of an identifier is the last class that lists it. What
nobody lists has no owner until the next rescan, whoever owned it before. An answer that is a
failure might as well not have been given.
-/

set_option autoImplicit false

namespace LeaseBroker

structure ScanAnswer (K : Type) where
  asked : K
  answer : Except Fault (List DeviceId)

namespace ScanAnswer
variable {K : Type} {a : ScanAnswer K} {answers front back : List (ScanAnswer K)} {id : DeviceId}
  {k : K}

def Lists (a : ScanAnswer K) (id : DeviceId) : Prop :=
  ∃ ids, a.answer = .ok ids ∧ id ∈ ids

/-- Whether a class is the last one that lists an identifier. -/
def LastToList (answers : List (ScanAnswer K)) (id : DeviceId) (k : K) : Prop :=
  ∃ front a back, answers = front ++ a :: back ∧ a.asked = k ∧ a.Lists id ∧
    ∀ later ∈ back, ¬ later.Lists id

def report (a : ScanAnswer K) : K × List DeviceId := (a.asked, a.answer.toOption.getD [])

theorem report_contains_iff : a.report.2.contains id = true ↔ a.Lists id := by
  obtain ⟨k, fault | ids⟩ := a
  · simp [report, Lists, Except.toOption]
  · simp [report, Lists, Except.toOption]

def owners (answers : List (ScanAnswer K)) : SortedMap DeviceId K :=
  (answers.map report).foldl recordReport ∅

theorem get?_owners (answers : List (ScanAnswer K)) (id : DeviceId) : (owners answers).get? id =
    (answers.reverse.find? fun a => a.report.2.contains id).map (·.asked) := by
  rw [owners, get?_recordReports, lastReporter, ← List.map_reverse, List.find?_map, Option.map_map]
  rfl

theorem get?_owners_eq_some_iff :
    (owners answers).get? id = some k ↔ LastToList answers id k := by
  rw [get?_owners]
  simp only [Option.map_eq_some_iff, List.find?_eq_some_iff_append, Bool.not_eq_true',
    ← Bool.not_eq_true, report_contains_iff]
  constructor
  · rintro ⟨a, ⟨hlists, later, earlier, hanswers, hlater⟩, hasked⟩
    refine ⟨earlier.reverse, a, later.reverse, ?_, hasked, hlists, ?_⟩
    · rw [← List.reverse_reverse answers, hanswers]
      simp
    · exact fun a ha => hlater a (List.mem_reverse.mp ha)
  · rintro ⟨earlier, a, later, rfl, hasked, hlists, hlater⟩
    refine ⟨a, ⟨hlists, later.reverse, earlier.reverse, ?_, ?_⟩, hasked⟩
    · simp
    · exact fun a ha => hlater a (List.mem_reverse.mp ha)

theorem get?_owners_eq_none_iff :
    (owners answers).get? id = none ↔ ∀ a ∈ answers, ¬ a.Lists id := by
  rw [get?_owners]
  simp only [Option.map_eq_none_iff, List.find?_eq_none, List.mem_reverse, report_contains_iff]

/-- A failure makes no difference. -/
theorem owners_of_failed {fault : Fault} :
    owners (front ++ ⟨k, .error fault⟩ :: back) = owners (front ++ back) := by
  simp only [owners, List.map_append, List.map_cons, List.foldl_append, List.foldl_cons]
  rfl

end ScanAnswer

/-- What the classes of a list answer to a scan, each in the world that those before it leave
behind. -/
def DeviceClasses.answers {W K H : Type} (cls : DeviceClasses W K H) (w : W) :
    List K → List (ScanAnswer K)
  | [] => []
  | k :: rest => ⟨k, (cls.rescan k w).answer⟩ :: cls.answers (cls.rescan k w).world rest

namespace Broker
variable {W K H : Type} (cls : DeviceClasses W K H) (b : Broker W K H) {id : DeviceId}

def answers : List (ScanAnswer K) := cls.answers b.world b.classes

theorem reports_eq_map (w : W) (ks : List K) :
    cls.reports w ks = (cls.answers w ks).map ScanAnswer.report := by
  induction ks generalizing w with
  | nil => rfl
  | cons k rest ih =>
    rw [DeviceClasses.reports, DeviceClasses.answers, List.map_cons, ih]
    rfl

theorem scan_owners_eq : (b.scan cls).owners = ScanAnswer.owners (b.answers cls) := by
  rw [scan_owners, reports_eq_map]
  rfl

theorem add_unknown_iff :
    (b.add cls id).1 = .error (.unknownDevice id) ↔ b.owners.get? id = none := by
  rcases add_decided cls b id with
    ⟨hnone, h⟩ | ⟨k, howner, _, h⟩ | ⟨k, _, howner, _, _, h⟩ |
      ⟨k, ⟨_, howner, _⟩, ⟨r, c, hadopt, h⟩ | ⟨c, _, h⟩⟩ <;> rw [h]
  · simp [hnone]
  · simp [howner]
  · simp [howner]
  · rcases adopt_cases cls b id k with
      ⟨_, _, ha⟩ | ⟨_, _, _, _, _, ha⟩ | ⟨_, _, _, _, ha⟩ <;> rw [ha] at hadopt <;>
      cases hadopt <;> simp [howner]
  · simp [howner]

end Broker

namespace Pool
variable {W K H : Type} {cls : DeviceClasses W K H} {p : Pool W K H} {id : DeviceId}

theorem run_owners {actions : List (Action W K)} (h : .rescan ∉ actions) :
    (p.run cls actions).broker.owners = p.broker.owners := by
  induction actions generalizing p with
  | nil => rfl
  | cons action rest ih =>
    rw [List.mem_cons, not_or] at h
    obtain ⟨hfirst, hrest⟩ := h
    exact (ih hrest).trans (step_owners (Ne.symm hfirst))

theorem add_unknown_iff : p.add cls id = (.error (.unknownDevice id), p) ↔
    p.broker.owners.get? id = none := by
  constructor
  · intro h
    have hresult := congrArg Prod.fst h
    rw [add, notifying_fst] at hresult
    exact (p.broker.add_unknown_iff cls).mp hresult
  · intro hnone
    simp only [add, notifying, quietly, Broker.add, hnone]

variable (cls) in
/-- A scan leaves owners for exactly the identifiers that some class lists, each the last class in
order of registration to list it. The owners stay as they are until the next rescan, and in all
that time an addition knows exactly what is owned. A class that fails makes no difference: the
owners are those that the other answers make, and those of any broker that gets no others. -/
theorem scan_owns_last_listed (p : Pool W K H) :
    (∀ id, id ∈ (p.broker.scan cls).owners.keys ↔ ∃ a ∈ p.broker.answers cls, a.Lists id) ∧
    (∀ id k, (p.broker.scan cls).owners.get? id = some k ↔
      ScanAnswer.LastToList (p.broker.answers cls) id k) ∧
    (∀ actions, .rescan ∉ actions →
      ((p.rescan cls).2.run cls actions).broker.owners = (p.broker.scan cls).owners ∧
      ∀ id, ((p.rescan cls).2.run cls actions).add cls id =
          (.error (.unknownDevice id), (p.rescan cls).2.run cls actions) ↔
        ∀ a ∈ p.broker.answers cls, ¬ a.Lists id) ∧
    (∀ front k fault back, p.broker.answers cls = front ++ ⟨k, .error fault⟩ :: back →
      (∀ id j, (p.broker.scan cls).owners.get? id = some j ↔
        ScanAnswer.LastToList (front ++ back) id j) ∧
      ∀ b : Broker W K H, b.answers cls = front ++ back →
        (b.scan cls).owners = (p.broker.scan cls).owners) := by
  rw [Broker.scan_owners_eq]
  refine ⟨?_, fun _ _ => ScanAnswer.get?_owners_eq_some_iff, ?_, ?_⟩
  · intro id
    rw [SortedMap.mem_keys_iff, ← Option.ne_none_iff_exists', Ne,
      ScanAnswer.get?_owners_eq_none_iff]
    simp
  · intro actions hactions
    have howners : ((p.rescan cls).2.run cls actions).broker.owners =
        ScanAnswer.owners (p.broker.answers cls) := by
      rw [run_owners hactions, rescan_broker, Broker.rescan_owners, Broker.scan_owners_eq]
    refine ⟨howners, fun id => ?_⟩
    rw [add_unknown_iff, howners, ScanAnswer.get?_owners_eq_none_iff]
  · intro front k fault back hanswers
    rw [hanswers, ScanAnswer.owners_of_failed]
    refine ⟨fun _ _ => ScanAnswer.get?_owners_eq_some_iff, fun b hb => ?_⟩
    rw [Broker.scan_owners_eq, hb]

/-- The contested pool after a rescan. From then on the second of its classes fails. -/
def lapsed : Pool Bench DeviceClass Handle :=
  let pool := (contested.rescan Bench.classes).2
  let phones := SimulatedFamily.ofDevices [{ id := "X" }, { id := "Y" }]
  let world := pool.broker.world.setSimulated 1 1 phones { scenarios := [.always .rescan] }
  pool.run Bench.classes [.world world]

/-- While both classes answer, the second one owns `X` and `Y`. When it fails, `X` falls to the
first one and `Y` cannot be added any more. -/
theorem scan_owns_last_listed_lapsed :
    (contested.broker.scan Bench.classes).owners.get? "X" = some secondPhones ∧
    lapsed.broker.owners.keys = ["X", "Y"] ∧
    (lapsed.broker.scan Bench.classes).owners.get? "X" = some firstPhones ∧
    .rescan ∉ ([.advance 5] : List (Action Bench DeviceClass)) ∧
    (((lapsed.rescan Bench.classes).2.run Bench.classes [.advance 5]).add Bench.classes "Y").1 =
      .error (.unknownDevice "Y") := by
  have hboth : contested.broker.answers Bench.classes =
      [⟨firstPhones, .ok ["X"]⟩, ⟨secondPhones, .ok ["X", "Y"]⟩] := rfl
  have hfails : lapsed.broker.answers Bench.classes =
      [⟨firstPhones, .ok ["X"]⟩] ++ ⟨secondPhones, .error _⟩ :: [] := rfl
  have hquiet : .rescan ∉ ([.advance 5] : List (Action Bench DeviceClass)) := by simp
  obtain ⟨_, hcontested, _⟩ := scan_owns_last_listed Bench.classes contested
  obtain ⟨_, _, hlater, hlapsed⟩ := scan_owns_last_listed Bench.classes lapsed
  refine ⟨?_, by decide +kernel, ?_, hquiet, ?_⟩
  · rw [hcontested, hboth]
    exact ⟨[⟨firstPhones, .ok ["X"]⟩], ⟨secondPhones, .ok ["X", "Y"]⟩, [], rfl, rfl,
      ⟨["X", "Y"], rfl, by decide⟩, nofun⟩
  · rw [(hlapsed _ _ _ _ hfails).1]
    exact ⟨[], ⟨firstPhones, .ok ["X"]⟩, [], rfl, rfl, ⟨["X"], rfl, by decide⟩, nofun⟩
  · rw [((hlater _ hquiet).2 "Y").mpr]
    rw [hfails]
    simp [ScanAnswer.Lists]

end Pool

end LeaseBroker
