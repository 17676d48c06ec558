import LeaseBroker.Proofs.Adoptions
import LeaseBroker.Proofs.Reconciliation

/-!
# Filtered identifiers are never adopted

Devices are registered by rescans and one at a time on request. A request relies on owners that an
earlier scan has found, and the lists may have changed since then. Still nothing is registered that
the lists of the moment filter, or that the most recent scan has not seen. Changing a list alone
registers nothing and strikes off nothing; the next rescan does.
-/

set_option autoImplicit false

namespace LeaseBroker

namespace AccessLists
variable {lists : AccessLists} {id : DeviceId}

theorem mem_members_iff {list : Listing} :
    id ∈ lists.members list ↔ (lists.get list).contains id = true :=
  SortedSet.mem_members_iff

theorem isEmpty_iff {list : Listing} :
    (lists.get list).isEmpty = true ↔ lists.members list = [] := by
  rw [members, SortedSet.members, SortedMap.keys, List.map_eq_nil_iff, SortedMap.isEmpty,
    List.isEmpty_iff]

theorem permits_iff : lists.permits id = true ↔
    id ∉ lists.members .deny ∧ (lists.members .allow = [] ∨ id ∈ lists.members .allow) := by
  rw [mem_members_iff, mem_members_iff, ← isEmpty_iff]
  simp only [permits, get, Bool.and_eq_true, Bool.or_eq_true, Bool.not_eq_true']
  rw [Bool.not_eq_true]
  exact and_comm

end AccessLists

namespace Broker
variable {W K H : Type} {cls : DeviceClasses W K H} {b c : Broker W K H}

/-! ### Operations that register nothing -/

def NoneAdopted (b c : Broker W K H) : Prop := c.devices ⊆ b.devices

namespace NoneAdopted

theorem of_entries (h : c.entries = b.entries) : NoneAdopted b c := by
  intro id hid
  rwa [devices, h] at hid

theorem trans {d : Broker W K H} (hbc : NoneAdopted b c) (hcd : NoneAdopted c d) :
    NoneAdopted b d :=
  fun _ hid => hbc (hcd hid)

theorem update {id : DeviceId} {e e' : Entry K H} (he : b.entries.get? id = some e)
    (h : c.entries = b.entries.insert id e') : NoneAdopted b c := by
  intro i hi
  obtain ⟨f, hf⟩ := mem_devices_iff.mp hi
  rw [h, SortedMap.get?_insert] at hf
  split at hf
  · rename_i hsame
    exact mem_devices_iff.mpr ⟨e, hsame ▸ he⟩
  · exact mem_devices_iff.mpr ⟨f, hf⟩

theorem lease (criteria : Criteria) (acquirer : Acquirer) (started : Moment) (pick : Nat) :
    NoneAdopted b (b.lease cls criteria acquirer started pick).2 := by
  rcases lease_cases cls b criteria acquirer started pick with
    ⟨_, hl⟩ | ⟨_, _, hl⟩ | ⟨_, _, _, he, _, hl⟩ <;> rw [hl]
  · exact .of_entries rfl
  · exact .of_entries rfl
  · exact .update he rfl

theorem poll (w : Waiter) (pick : Nat) (giveUpFirst : Bool) :
    NoneAdopted b (w.poll cls b pick giveUpFirst).2.2 := by
  rcases w.poll_cases cls b pick giveUpFirst with
    ⟨_, hp, _⟩ | ⟨_, _, _, _, hp⟩ | ⟨_, _, _, he, _, hp⟩ <;> rw [hp]
  · exact .of_entries rfl
  · exact .of_entries rfl
  · exact .update he rfl

theorem endLease (id : DeviceId) (acquirer : Option Acquirer) :
    NoneAdopted b (b.endLease id acquirer).2 := by
  rcases endLease_cases b id acquirer with
    ⟨_, hr⟩ | ⟨_, _, _, _, hr⟩ | ⟨_, _, _, _, he, _, _, _, hr⟩ <;> rw [hr]
  · exact .of_entries rfl
  · exact .of_entries rfl
  · exact .update he rfl

theorem releaseAll (acquirer : Acquirer) : NoneAdopted b (b.releaseAll acquirer).2 :=
  releaseAll_preserve (P := NoneAdopted b) acquirer
    (fun _ id hc => hc.trans (endLease id (some acquirer))) (.of_entries rfl)

theorem remove (hb : Accounted b.entries b.ledger) (id : DeviceId) (force : Bool) :
    NoneAdopted b (b.remove cls id force).2 := by
  rcases hb.remove_spec cls id force with ⟨r, h⟩ | ⟨e, c, _, _, h, hgone, hsame, _⟩ <;> rw [h]
  · exact .of_entries rfl
  · intro i hi
    obtain ⟨f, hf⟩ := mem_devices_iff.mp hi
    change c.entries.get? i = some f at hf
    have hne : i ≠ id := by
      rintro rfl
      rw [hgone] at hf
      cases hf
    exact mem_devices_iff.mpr ⟨f, (hsame.entries hne).symm.trans hf⟩

end NoneAdopted

theorem enlist_eq (b : Broker W K H) (list : Listing) (id : DeviceId) :
    ∃ access log, (b.enlist list id).2 = { b with access, log } := by
  unfold enlist
  split
  · exact ⟨b.access, b.log, rfl⟩
  · exact ⟨_, _, rfl⟩

theorem delist_eq (b : Broker W K H) (list : Listing) (id : DeviceId) :
    ∃ access log, (b.delist list id).2 = { b with access, log } := by
  unfold delist
  split
  · exact ⟨b.access, b.log, rfl⟩
  · exact ⟨_, _, rfl⟩

/-! ### Operations that may register -/

variable (cls) in
/-- Adding a device registers it if it may be asked of its owner and is given, and changes nothing
in the registry otherwise. -/
theorem add_cases (b : Broker W K H) (id : DeviceId) :
    (b.add cls id).2.toRegistry = b.toRegistry ∨
    (∃ k handle info, b.Adoptable id k ∧ (b.add cls id).2.toRegistry =
      { b.toRegistry with
        entries := b.entries.insert id { handle, info, holder := k }
        infos := b.infos.insert info id }) := by
  rcases add_decided cls b id with
    ⟨_, h⟩ | ⟨_, _, _, h⟩ | ⟨_, _, _, _, _, h⟩ |
      ⟨k, hadoptable, ⟨r, c, hadopt, h⟩ | ⟨c, hadopt, h⟩⟩ <;> rw [h]
  · exact Or.inl rfl
  · exact Or.inl rfl
  · exact Or.inl rfl
  · exact Or.inl (adopt_refused hadopt)
  · rcases adopt_cases cls b id k with
      ⟨_, _, ha⟩ | ⟨_, _, _, _, _, ha⟩ | ⟨handle, info, _, _, ha⟩ <;> rw [ha] at hadopt <;>
      cases hadopt
    exact Or.inr ⟨k, handle, info, hadoptable, rfl⟩

theorem add_access (b : Broker W K H) (id : DeviceId) : (b.add cls id).2.access = b.access := by
  rcases add_cases cls b id with hsame | ⟨_, _, _, _, hadded⟩
  · exact congrArg Registry.access hsame
  · have haccess := congrArg Registry.access hadded
    exact haccess

theorem add_registers {id i : DeviceId} (hbefore : i ∉ b.devices)
    (hafter : i ∈ (b.add cls id).2.devices) :
    (∃ k, b.owners.get? i = some k) ∧ b.access.permits i = true := by
  rcases add_cases cls b id with hsame | ⟨k, _, _, hadoptable, hadded⟩
  · rw [devices, congrArg Registry.entries hsame] at hafter
    exact absurd hafter hbefore
  · obtain ⟨e, he⟩ := mem_devices_iff.mp hafter
    rw [congrArg Registry.entries hadded, SortedMap.get?_insert] at he
    split at he
    · rename_i hi
      subst hi
      exact ⟨⟨k, hadoptable.owned⟩, hadoptable.permitted⟩
    · exact absurd (mem_devices_iff.mpr ⟨e, he⟩) hbefore

end Broker

namespace Pool
variable {W K H : Type} (cls : DeviceClasses W K H) {p : Pool W K H}

/-- The answers of the most recent scan when an action has been carried out. Only a rescan scans. -/
def latestScan (p : Pool W K H) (before : List (Except Fault (List DeviceId))) :
    Action W K → List (Except Fault (List DeviceId))
  | .rescan => cls.scans p.broker.world p.broker.classes
  | _ => before

/-- The pools that a new broker can come to, each with the answers of the most recent scan. Before
the first scan there are none. -/
inductive Scanned : List (Except Fault (List DeviceId)) → Pool W K H → Prop where
  | start (world : W) (access : AccessLists) : Scanned [] ⟨.start world access, []⟩
  | step {answers : List (Except Fault (List DeviceId))} {p : Pool W K H} (action : Action W K) :
      Scanned answers p → Scanned (p.latestScan cls answers action) (p.step cls action).2

variable {cls} {answers : List (Except Fault (List DeviceId))}

theorem Scanned.reachable (hp : Scanned cls answers p) : Reachable cls p := by
  induction hp with
  | start world access => exact .start world access
  | step action _ ih => exact ih.step action

theorem Reachable.scanned (hp : Reachable cls p) : ∃ answers, Scanned cls answers p := by
  induction hp with
  | start world access => exact ⟨[], .start world access⟩
  | step action _ ih =>
    obtain ⟨answers, h⟩ := ih
    exact ⟨_, h.step action⟩

theorem step_owners {action : Action W K} (h : action ≠ .rescan) :
    (p.step cls action).2.broker.owners = p.broker.owners := by
  have heffect := step_effect cls p action
  generalize (p.step cls action).2.broker = c at heffect ⊢
  cases heffect with
  | register | world => rfl
  | rescan => exact absurd rfl h
  | reset =>
    obtain ⟨log, hreset⟩ := p.broker.reset_eq
    rw [hreset]
  | deeds deeds => exact deeds.owners

theorem Scanned.owned_iff (hp : Scanned cls answers p) {id : DeviceId} :
    (∃ k, p.broker.owners.get? id = some k) ↔ ∃ ids, .ok ids ∈ answers ∧ id ∈ ids := by
  induction hp with
  | start world access => simp [Broker.start]
  | @step answers p action _ ih =>
    by_cases hrescan : action = .rescan
    · subst hrescan
      change (∃ k, (p.broker.rescan cls).2.owners.get? id = some k) ↔ _
      rw [Broker.rescan_owners]
      exact p.broker.scan_owned cls id
    · have hsame : p.latestScan cls answers action = answers := by
        cases action with
        | rescan => exact absurd rfl hrescan
        | _ => rfl
      rw [hsame, step_owners hrescan]
      exact ih

theorem step_noneAdopted (hp : Reachable cls p) {action : Action W K} (hrescan : action ≠ .rescan)
    (hadd : ∀ id, action ≠ .add id) : p.broker.NoneAdopted (p.step cls action).2.broker := by
  have hnotifying {α : Type} {op : Broker W K H → Except Refusal α × Broker W K H}
      (hop : p.broker.NoneAdopted (op p.broker).2) :
      p.broker.NoneAdopted (p.notifying op).2.broker := by
    rw [notifying_broker]
    exact hop
  cases action with
  | rescan => exact absurd rfl hrescan
  | add id => exact absurd rfl (hadd id)
  | register | advance | world => exact .of_entries rfl
  | reset => exact List.nil_subset _
  | enlist list id => exact .of_entries (p.broker.enlist_entries list id)
  | delist list id => exact .of_entries (p.broker.delist_entries list id)
  | cancel name => exact .of_entries (congrArg (·.entries) (cancel_broker p name))
  | drop name => exact .of_entries (congrArg (·.entries) (drop_broker p name))
  | tryAcquire criteria acquirer pick => exact .lease criteria acquirer p.broker.now pick
  | release id acquirer =>
    refine hnotifying ?_
    rw [Broker.release_snd]
    exact .endLease id (some acquirer)
  | releaseAny id => exact hnotifying (.endLease id none)
  | releaseAll acquirer => exact hnotifying (.releaseAll acquirer)
  | remove id force => exact hnotifying (.remove hp.accounted id force)
  | park name criteria acquirer patience pick giveUpFirst =>
    change p.broker.NoneAdopted (p.park cls _ pick giveUpFirst).2.broker
    rw [park_broker]
    exact .poll _ pick giveUpFirst
  | poll place pick giveUpFirst =>
    change p.broker.NoneAdopted (p.pollAt cls place pick giveUpFirst).2.broker
    rcases p.pollAt_cases cls place pick giveUpFirst with hnone | ⟨w, _, _, hbroker⟩
    · rw [hnone]
      exact .of_entries rfl
    · rw [hbroker]
      exact .poll w pick giveUpFirst

theorem Scanned.registers (hp : Scanned cls answers p) {action : Action W K} {id : DeviceId}
    (hbefore : id ∉ p.broker.devices) (hafter : id ∈ (p.step cls action).2.broker.devices) :
    (p.step cls action).2.broker.access = p.broker.access ∧
    p.broker.access.permits id = true ∧
    ∃ ids, .ok ids ∈ p.latestScan cls answers action ∧ id ∈ ids := by
  by_cases hrescan : action = .rescan
  · subst hrescan
    have hregistered : id ∈ (p.broker.rescan cls).2.devices := hafter
    obtain ⟨hseen, hpermits⟩ := hp.reachable.accounted.expected_of_registered hregistered
    exact ⟨p.broker.rescan_access cls, hpermits, hseen⟩
  by_cases hadd : ∃ i, action = .add i
  · obtain ⟨i, rfl⟩ := hadd
    have hbroker : (p.step cls (.add i)).2.broker = (p.broker.add cls i).2 := notifying_broker p _
    rw [hbroker] at hafter ⊢
    obtain ⟨howned, hpermits⟩ := Broker.add_registers hbefore hafter
    exact ⟨p.broker.add_access i, hpermits, hp.owned_iff.mp howned⟩
  · -- Nothing else registers anything.
    have hnone := step_noneAdopted hp.reachable hrescan (not_exists.mp hadd)
    exact absurd (hnone hafter) hbefore

/-- A device that a step registers is on the lists of that moment, which the step leaves alone, and
some class has reported it in the most recent scan, that of the step included. An operation on the
lists changes nothing but the lists, and after a rescan only permitted devices are registered. -/
theorem filtered_never_adopted (hp : Scanned cls answers p) :
    (∀ (action : Action W K) (id : DeviceId), id ∉ p.broker.devices →
      id ∈ (p.step cls action).2.broker.devices →
      (p.step cls action).2.broker.access = p.broker.access ∧
      id ∉ p.broker.access.members .deny ∧
      (p.broker.access.members .allow = [] ∨ id ∈ p.broker.access.members .allow) ∧
      ∃ ids, .ok ids ∈ p.latestScan cls answers action ∧ id ∈ ids) ∧
    (∀ (list : Listing) (id : DeviceId),
      (∃ access log, (p.step cls (.enlist list id)).2 =
        { p with broker := { p.broker with access, log } }) ∧
      (∃ access log, (p.step cls (.delist list id)).2 =
        { p with broker := { p.broker with access, log } })) ∧
    (∀ id ∈ (p.step cls .rescan).2.broker.devices,
      id ∉ (p.step cls .rescan).2.broker.access.members .deny ∧
      ((p.step cls .rescan).2.broker.access.members .allow = [] ∨
        id ∈ (p.step cls .rescan).2.broker.access.members .allow)) := by
  refine ⟨?_, ?_, ?_⟩
  · intro action id hbefore hafter
    obtain ⟨haccess, hpermits, hseen⟩ := hp.registers hbefore hafter
    obtain ⟨hdeny, hallow⟩ := AccessLists.permits_iff.mp hpermits
    exact ⟨haccess, hdeny, hallow, hseen⟩
  · intro list id
    obtain ⟨access, log, henlist⟩ := p.broker.enlist_eq list id
    obtain ⟨access', log', hdelist⟩ := p.broker.delist_eq list id
    constructor
    · exact ⟨access, log, congrArg (fun b => { p with broker := b }) henlist⟩
    · exact ⟨access', log', congrArg (fun b => { p with broker := b }) hdelist⟩
  · intro id hid
    have hregistered : id ∈ (p.broker.rescan cls).2.devices := hid
    have hexpected := hp.reachable.accounted.expected_of_registered hregistered
    have haccess : (p.step cls .rescan).2.broker.access = p.broker.access :=
      p.broker.rescan_access cls
    rw [haccess]
    exact AccessLists.permits_iff.mp hexpected.2

/-- A pool that has scanned nothing yet, with the second of its devices denied. -/
def deniedPool : Pool Bench DeviceClass Handle :=
  let phones := SimulatedFamily.ofDevices [{ id := "A" }, { id := "B" }]
  Pool.run Bench.classes ⟨.start (({} : Bench).setSimulated 0 0 phones {}) {}, []⟩
    [.register sharedPhones, .enlist .deny "B"]

/-- The same pool after a rescan, with the first of its devices removed. -/
def filteredPool : Pool Bench DeviceClass Handle :=
  deniedPool.run Bench.classes [.rescan, .remove "A" false]

theorem filteredPool_scanned : Scanned Bench.classes [.ok ["A", "B"]] filteredPool := by
  have hdenied : Scanned Bench.classes [] deniedPool :=
    ((Scanned.start _ _).step (.register sharedPhones)).step (.enlist .deny "B")
  have hanswers : Bench.classes.scans deniedPool.broker.world deniedPool.broker.classes =
      [.ok ["A", "B"]] := by decide +kernel
  rw [← hanswers]
  exact (hdenied.step .rescan).step (.remove "A" false)

/-- The first device can be added again. The second has been seen as well, but stays out. -/
theorem filtered_never_adopted_removed :
    "A" ∉ filteredPool.broker.devices ∧
    "A" ∈ (filteredPool.step Bench.classes (.add "A")).2.broker.devices ∧
    "A" ∉ filteredPool.broker.access.members .deny ∧
    (∃ ids : List DeviceId, (.ok ids : Except Fault (List DeviceId)) ∈ [.ok ["A", "B"]] ∧
      "A" ∈ ids) ∧
    (filteredPool.step Bench.classes (.add "B")).1 = .refused (.denied "B") ∧
    "B" ∉ (filteredPool.step Bench.classes .rescan).2.broker.devices := by
  obtain ⟨hregisters, _, hrescan⟩ := filtered_never_adopted filteredPool_scanned
  have hbefore : "A" ∉ filteredPool.broker.devices := by decide +kernel
  have hafter : "A" ∈ (filteredPool.step Bench.classes (.add "A")).2.broker.devices := by
    decide +kernel
  obtain ⟨_, hdeny, _, hseen⟩ := hregisters (.add "A") "A" hbefore hafter
  refine ⟨hbefore, hafter, hdeny, hseen, rfl, fun hB => ?_⟩
  have hdenied : "B" ∈ (filteredPool.step Bench.classes .rescan).2.broker.access.members .deny := by
    decide +kernel
  exact (hrescan "B" hB).1 hdenied

end Pool

end LeaseBroker
