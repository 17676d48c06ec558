import LeaseBroker.Proofs.Acquires
import LeaseBroker.Proofs.Labelling
import LeaseBroker.Proofs.Removal

/-!
# What an addition comes to

An addition is refused without asking anybody if no class has reported the device in the most recent
scan, if the lists do not permit it, or if it is registered, in this order. Otherwise its owner is
asked, and the device is registered with what the owner gives unless another device has that info.
Nothing stands in the way of a device that has been removed: whoever held it has been given it back,
so its owner gives it out again.
-/

set_option autoImplicit false

namespace LeaseBroker

namespace Broker

section Told
variable {W K H : Type} {cls : DeviceClasses W K H} {b c : Broker W K H} {id : DeviceId} {k : K}
  {handle : H} {info : DeviceInfo} {fault fault' : AdoptionFault}

theorem adoptable_iff : b.Adoptable id k ↔
    b.entries.get? id = none ∧ b.owners.get? id = some k ∧ b.access.permits id = true :=
  ⟨fun h => ⟨h.fresh, h.owned, h.permitted⟩, fun ⟨fresh, owned, permitted⟩ =>
    ⟨fresh, owned, permitted⟩⟩

theorem add_unasked (h : b.owners.get? id = none ∨ b.access.permits id = false ∨ id ∈ b.devices) :
    ∃ r, ∀ cls : DeviceClasses W K H, b.add cls id = (.error r, b) := by
  cases howner : b.owners.get? id with
  | none => exact ⟨_, fun cls => add_of_unowned cls howner⟩
  | some k =>
    cases hpermits : b.access.permits id with
    | false => exact ⟨_, fun cls => add_of_unpermitted cls howner hpermits⟩
    | true =>
      have hid : id ∈ b.devices := by simpa [howner, hpermits] using h
      obtain ⟨e, he⟩ := mem_devices_iff.mp hid
      exact ⟨_, fun cls => add_of_registered cls howner hpermits he⟩

/-- Why a device that an owner is asked for is not registered: the owner fails, or the info that it
gives is that of a registered device. -/
inductive AdoptionFails (cls : DeviceClasses W K H) (b : Broker W K H) (id : DeviceId) (k : K) :
    AdoptionFault → Prop where
  | declined {fault : Fault} (declined : (cls.adopt k id b.world).answer = .error fault) :
    AdoptionFails cls b id k (.reported fault)
  | doubled {handle : H} {info : DeviceInfo} {other : DeviceId}
      (given : (cls.adopt k id b.world).answer = .ok (handle, info))
      (registered : b.info other = .ok info) : AdoptionFails cls b id k (.duplicateInfo other)

structure AddTold (cls : DeviceClasses W K H) (b : Broker W K H) (id : DeviceId) (reported : Prop)
    (result : Except Refusal Unit) : Prop where
  unknown : result = .error (.unknownDevice id) ↔ ¬ reported
  denied : result = .error (.denied id) ↔ reported ∧ b.access.permits id = false
  alreadyAdded : result = .error (.alreadyAdded id) ↔
    reported ∧ b.access.permits id = true ∧ id ∈ b.devices
  failed : ∀ fault, result = .error (.adoptionFailed id fault) ↔
    ∃ k, b.Adoptable id k ∧ AdoptionFails cls b id k fault
  added : result = .ok () ↔ ∃ k handle info, b.Adoptable id k ∧
    (cls.adopt k id b.world).answer = .ok (handle, info) ∧ ∀ other, b.info other ≠ .ok info

/-- A broker in which a device has been registered with what its owner gave, and nothing else has
changed. The log has what the class and the broker had to say of it. -/
structure Added (cls : DeviceClasses W K H) (b : Broker W K H) (id : DeviceId) (k : K) (handle : H)
    (info : DeviceInfo) (c : Broker W K H) : Prop where
  described : c.info id = .ok info
  idle : c.leaseCount id = .ok 0
  unheld : ∀ acquirer, c.ledger.since acquirer id = []
  registry : c.toRegistry = { b.toRegistry with
    entries := b.entries.insert id { handle, info, holder := k }
    infos := b.infos.insert info id }
  world : c.world = (cls.adopt k id b.world).world
  now : c.now = b.now
  log : c.log = .added id :: ((cls.adopt k id b.world).notices.reverse ++ b.log)

theorem AdoptionFails.known (hfails : AdoptionFails cls b id k fault)
    (hgiven : (cls.adopt k id b.world).answer = .ok (handle, info)) :
    ∃ other, b.info other = .ok info := by
  cases hfails with
  | declined declined =>
    rw [declined] at hgiven
    cases hgiven
  | @doubled _ _ other given registered =>
    rw [given] at hgiven
    cases hgiven
    exact ⟨other, registered⟩

theorem Accounted.added (hacc : Accounted b.entries b.ledger) (hfresh : b.entries.get? id = none) :
    Added cls b id k handle info
      ((b.adopted (cls.adopt k id b.world) id k handle info).note (.added id)) where
  described := Pool.info_eq_ok_iff.mpr ⟨_, SortedMap.get?_insert_self _ _ _, rfl⟩
  idle := leaseCount_eq_ok_iff.mpr ⟨_, SortedMap.get?_insert_self _ _ _, rfl⟩
  unheld := fun _ => hacc.since_eq_nil_of_unregistered hfresh
  registry := rfl
  world := rfl
  now := rfl
  log := rfl

namespace Indexed
variable (h : Indexed b.entries b.infos)
include h

theorem info_known_iff {other : DeviceId} : b.infos.get? info = some other ↔
    b.info other = .ok info := by
  rw [h.agree, Pool.info_eq_ok_iff]

theorem info_unknown_iff : b.infos.get? info = none ↔ ∀ other, b.info other ≠ .ok info := by
  rw [Option.eq_none_iff_forall_ne_some]
  exact forall_congr' fun other => not_congr h.info_known_iff

theorem adoptionFails_unique (hfails : AdoptionFails cls b id k fault)
    (hfails' : AdoptionFails cls b id k fault') : fault = fault' := by
  cases hfails with
  | declined declined =>
    cases hfails' with
    | declined declined' =>
      rw [declined] at declined'
      cases declined'
      rfl
    | doubled given _ =>
      rw [declined] at given
      cases given
  | doubled given registered =>
    cases hfails' with
    | declined declined =>
      rw [given] at declined
      cases declined
    | doubled given' registered' =>
      rw [given] at given'
      cases given'
      rw [← h.info_known_iff] at registered registered'
      rw [registered] at registered'
      cases registered'
      rfl

theorem add_asked (cls : DeviceClasses W K H) (hacc : Accounted b.entries b.ledger)
    (hadoptable : b.Adoptable id k) :
    (∃ fault c, AdoptionFails cls b id k fault ∧
      b.add cls id = (.error (.adoptionFailed id fault), c)) ∨
    (∃ handle info c, (cls.adopt k id b.world).answer = .ok (handle, info) ∧
      (∀ other, b.info other ≠ .ok info) ∧ b.add cls id = (.ok (), c) ∧
      Added cls b id k handle info c) := by
  rw [add_of_adoptable cls hadoptable]
  rcases adopt_cases cls b id k with
    ⟨fault, hdeclined, ha⟩ | ⟨handle, info, other, hgiven, hknown, ha⟩ |
      ⟨handle, info, hgiven, hunknown, ha⟩ <;> rw [ha]
  · exact Or.inl ⟨.reported fault, _, .declined hdeclined, rfl⟩
  · exact Or.inl ⟨.duplicateInfo other, _, .doubled hgiven (h.info_known_iff.mp hknown), rfl⟩
  · exact Or.inr ⟨handle, info, _, hgiven, h.info_unknown_iff.mp hunknown, rfl,
      hacc.added hadoptable.fresh⟩

theorem addTold (cls : DeviceClasses W K H) (hacc : Accounted b.entries b.ledger)
    (id : DeviceId) :
    AddTold cls b id (∃ k, b.owners.get? id = some k) (b.add cls id).1 := by
  rcases add_decided cls b id with
    ⟨hnone, ha⟩ | ⟨k, howner, hpermits, ha⟩ | ⟨k, e, howner, hpermits, he, ha⟩ |
      ⟨k, hadoptable, _⟩
  · constructor <;> simp [ha, hnone, adoptable_iff]
  · constructor <;> simp [ha, howner, hpermits, adoptable_iff]
  · constructor <;> simp [ha, howner, hpermits, adoptable_iff, he, mem_devices_iff]
  · have hasked : ∀ {j}, b.Adoptable id j ↔ j = k := by
      intro j
      constructor
      · intro hj
        exact Option.some.inj (hj.owned.symm.trans hadoptable.owned)
      · rintro rfl
        exact hadoptable
    have hfresh : id ∉ b.devices := not_mem_devices_iff.mpr hadoptable.fresh
    rcases h.add_asked cls hacc hadoptable with
      ⟨fault, c, hfails, ha⟩ | ⟨handle, info, c, hgiven, hother, ha, _⟩
    · constructor
      · simp [ha, hadoptable.owned]
      · simp [ha, hadoptable.permitted]
      · simp [ha, hfresh]
      · intro fault'
        simp only [ha, hasked, exists_eq_left, Except.error.injEq, Refusal.adoptionFailed.injEq,
          true_and]
        constructor
        · rintro rfl
          exact hfails
        · exact h.adoptionFails_unique hfails
      · simp only [ha, hasked, reduceCtorEq, false_iff, not_exists]
        rintro j handle info ⟨rfl, hgiven, hother⟩
        obtain ⟨other, hknown⟩ := hfails.known hgiven
        exact hother other hknown
    · constructor
      · simp [ha, hadoptable.owned]
      · simp [ha, hadoptable.permitted]
      · simp [ha, hfresh]
      · intro fault
        simp only [ha, hasked, exists_eq_left, reduceCtorEq, false_iff]
        intro hfails
        obtain ⟨other, hknown⟩ := hfails.known hgiven
        exact hother other hknown
      · simp only [ha, hasked, true_iff]
        exact ⟨k, handle, info, rfl, hgiven, hother⟩

end Indexed

end Told

/-! ### Adding what has been removed -/

section Fleet
variable {b c : Broker Bench DeviceClass Handle} {id : DeviceId} {slot : Nat}

/-- Whether a device is permitted and its owner, a simulated class that has no reason to fail, still
has it plugged in. -/
structure Awaited (b : Broker Bench DeviceClass Handle) (id : DeviceId) (slot : Nat) : Prop where
  permitted : b.access.permits id = true
  owned : ∃ k plan, b.owners.get? id = some k ∧ k.family = .simulated slot plan ∧
    (b.world.planAt plan).scenarios = []
  present : (b.world.simulatedAt slot).present.contains id = true

theorem Awaited.congr (h : b.Awaited id slot) (howners : c.owners = b.owners)
    (haccess : c.access = b.access) (halike : Bench.Alike b.world c.world) :
    c.Awaited id slot where
  permitted := by
    rw [haccess]
    exact h.permitted
  owned := by
    obtain ⟨k, plan, howner, hfamily, hscenarios⟩ := h.owned
    refine ⟨k, plan, ?_, hfamily, (halike.scenarios plan).trans hscenarios⟩
    rw [howners]
    exact howner
  present := by
    rw [halike.present]
    exact h.present

end Fleet

end Broker

theorem DeviceClass.adopt_of_present {k : DeviceClass} {w : Bench} {slot plan : Nat}
    {id : DeviceId} (hfamily : k.family = .simulated slot plan)
    (hscenarios : (w.planAt plan).scenarios = [])
    (hpresent : (w.simulatedAt slot).present.contains id = true)
    (hadopted : (w.adoptedAt k.place).contains id = false) :
    (Bench.adopt k id w).answer = .ok (.simulated id, (w.simulatedAt slot).infoOf id) := by
  obtain ⟨name, capacity, family⟩ := k
  obtain rfl : family = .simulated slot plan := hfamily
  exact SimulatedFamily.adopt_of_no_scenarios hscenarios name hpresent hadopted

namespace Bench

/-- Whether no class has adopted anything yet, and every catalogue comes of plugging devices in. -/
structure Fresh (w : Bench) : Prop where
  stocked : w.Stocked
  unused : ∀ place, w.adoptedAt place = ∅

/-- Whether an action is no reset, makes no class known but one of some, and lets nothing happen on
the bench but one turn. -/
def ServedBy (fleet : List DeviceClass) (w : Bench) : Action Bench DeviceClass → Prop
  | .register k => k ∈ fleet
  | .reset => False
  | .world later => w.Turn later
  | _ => True

end Bench

/-- Whether classes keep sets, each at a place of its own. -/
structure Fleet (fleet : List DeviceClass) : Prop where
  keepsSet : ∀ k ∈ fleet, k.KeepsSet
  apart : ∀ j ∈ fleet, ∀ k ∈ fleet, j.place = k.place → j = k

namespace Pool
variable {p : Pool Bench DeviceClass Handle} {fleet : List DeviceClass} {id : DeviceId}
  {slot : Nat}

namespace ReachableUnder

theorem builtIn (hfleet : Fleet fleet)
    (hp : ReachableUnder Bench.classes Bench.Fresh (Bench.ServedBy fleet) p) :
    ReachableUnder Bench.classes Bench.Stocked Bench.BuiltIn p := by
  apply hp.mono
  · exact fun w hw => hw.stocked
  · intro w action hadmits
    cases action with
    | register k => exact hfleet.keepsSet k hadmits
    | world later => exact hadmits
    | _ => trivial

theorem admits (hfleet : Fleet fleet) {k : DeviceClass} (hk : k ∈ fleet)
    (hp : ReachableUnder Bench.classes Bench.Fresh (Bench.ServedBy fleet) p) :
    ReachableUnder Bench.classes (fun w => w.adoptedAt k.place = ∅) k.Admits p := by
  apply hp.mono
  · exact fun w hw => hw.unused k.place
  · intro w action hadmits
    cases action with
    | register j => exact hfleet.apart j hadmits k hk
    | reset => exact hadmits
    | world later => exact hadmits.adoptedAt k.place
    | _ => trivial

theorem add_awaited (hfleet : Fleet fleet)
    (hp : ReachableUnder Bench.classes Bench.Fresh (Bench.ServedBy fleet) p)
    (h : p.broker.Awaited id slot) (hfresh : p.broker.entries.get? id = none) :
    ∃ c, p.add Bench.classes id = (.ok (), ⟨c, p.notify.waiting⟩) ∧
      c.info id = .ok ((p.broker.world.simulatedAt slot).infoOf id) ∧
      c.leaseCount id = .ok 0 := by
  obtain ⟨k, plan, howner, hfamily, hscenarios⟩ := h.owned
  have hk : k ∈ fleet := (hp.known fun _ _ hadmits => hadmits).owners id k howner
  -- The owner is used by this broker alone, so it counts as adopted only what is registered.
  have hadopted : (p.broker.world.adoptedAt k.place).contains id = false := by
    rw [Bool.eq_false_iff]
    intro hadopted
    have htends := (hp.admits hfleet hk).tends (hfleet.keepsSet k hk)
    obtain ⟨e, he, _⟩ := htends.adopted.agree.mp hadopted
    rw [hfresh] at he
    cases he
  have hgiven := DeviceClass.adopt_of_present hfamily hscenarios h.present hadopted
  have hadoptable : p.broker.Adoptable id k := ⟨hfresh, howner, h.permitted⟩
  have hindexed := hp.reachable.indexed
  rcases hindexed.add_asked Bench.classes hp.reachable.accounted hadoptable with
    ⟨fault, c, hfails, _⟩ | ⟨handle, info, c, hanswer, _, hadd, hadded⟩
  · obtain ⟨other, hknown⟩ := hfails.known hgiven
    have hunknown := (hp.builtIn hfleet).labelled.given_unknown hindexed hadoptable hgiven
    exact absurd hknown (hindexed.info_unknown_iff.mp hunknown other)
  · have hsame := hgiven.symm.trans hanswer
    cases hsame
    exact ⟨c, notifying_of_ok hadd, hadded.described, hadded.idle⟩

theorem removed {starts : Bench → Prop} {admits : Bench → Action Bench DeviceClass → Prop}
    (hp : ReachableUnder Bench.classes starts admits p)
    (hadmits : admits p.broker.world (.remove id true)) (hid : id ∈ p.broker.devices) :
    ∃ q, p.remove Bench.classes id true = (.ok (), q) ∧
      ReachableUnder Bench.classes starts admits q ∧ q.broker.entries.get? id = none ∧
      q.broker.owners = p.broker.owners ∧ q.broker.access = p.broker.access ∧
      Bench.Alike p.broker.world q.broker.world := by
  obtain ⟨e, he⟩ := Broker.mem_devices_iff.mp hid
  obtain ⟨c, hforget, hgone, hsame, _⟩ := hp.reachable.accounted.forget_spec Bench.classes he
  have hremove : p.remove Bench.classes id true =
      (.ok (), ⟨c.note (.removed id true), p.notify.waiting⟩) :=
    notifying_of_ok (Broker.remove_of_forget he (Or.inr rfl) hforget)
  have hstep : (p.step Bench.classes (.remove id true)).2 =
      ⟨c.note (.removed id true), p.notify.waiting⟩ := congrArg Prod.snd hremove
  have hdeeds := Broker.forget_deeds Bench.classes p.broker id
  rw [hforget] at hdeeds
  refine ⟨_, hremove, ?_, hgone, hsame.owners, hsame.access, hdeeds.alike⟩
  rw [← hstep]
  exact .step hadmits hp

theorem readded (hfleet : Fleet fleet)
    (hp : ReachableUnder Bench.classes Bench.Fresh (Bench.ServedBy fleet) p)
    (hid : id ∈ p.broker.devices) (h : p.broker.Awaited id slot) :
    ∃ q, p.remove Bench.classes id true = (.ok (), q) ∧ id ∉ q.broker.devices ∧
      ∃ r, q.add Bench.classes id = (.ok (), r) ∧
        r.broker.info id = .ok ((p.broker.world.simulatedAt slot).infoOf id) ∧
        r.broker.leaseCount id = .ok 0 := by
  obtain ⟨q, hremove, hq, hgone, howners, haccess, halike⟩ := hp.removed trivial hid
  obtain ⟨c, hadd, hinfo, hidle⟩ :=
    hq.add_awaited hfleet (h.congr howners haccess halike) hgone
  have hsame : (q.broker.world.simulatedAt slot).infoOf id =
      (p.broker.world.simulatedAt slot).infoOf id := by
    rw [SimulatedFamily.infoOf, halike.catalogue]
    rfl
  rw [hsame] at hinfo
  exact ⟨q, hremove, Broker.not_mem_devices_iff.mpr hgone, ⟨c, q.notify.waiting⟩, hadd, hinfo,
    hidle⟩

end ReachableUnder

/-- What an addition is told can be read off the most recent scan, the lists, the registered devices
and the answer of the owner, in this order, and the owner is not asked if one of the first three
refuses. A device that is given with an info of its own is registered with it and has no leases,
and all else stays as it was but for the log and the waiters, who are notified. Where only this
broker uses the classes, a registered device that is permitted and that its owner still has plugged
in can be removed by force and added again. -/
theorem addition_outcomes :
    (∀ {W K H : Type} {cls : DeviceClasses W K H} {answers : List (Except Fault (List DeviceId))}
      {p : Pool W K H}, Scanned cls answers p → ∀ id : DeviceId,
      p.broker.AddTold cls id (∃ ids, .ok ids ∈ answers ∧ id ∈ ids) (p.add cls id).1 ∧
      ((¬ ∃ ids, .ok ids ∈ answers ∧ id ∈ ids) ∨ p.broker.access.permits id = false ∨
          id ∈ p.broker.devices →
        ∃ r, ∀ other : DeviceClasses W K H, p.add other id = (.error r, p)) ∧
      ∀ (k : K) (handle : H) (info : DeviceInfo), p.broker.Adoptable id k →
        (cls.adopt k id p.broker.world).answer = .ok (handle, info) →
        (∀ other, p.broker.info other ≠ .ok info) →
        ∃ c, p.add cls id = (.ok (), ⟨c, p.notify.waiting⟩) ∧
          p.broker.Added cls id k handle info c) ∧
    ∀ {fleet : List DeviceClass} {p : Pool Bench DeviceClass Handle}, Fleet fleet →
      ReachableUnder Bench.classes Bench.Fresh (Bench.ServedBy fleet) p →
      ∀ {id : DeviceId} {slot : Nat}, id ∈ p.broker.devices → p.broker.Awaited id slot →
        ∃ q, p.remove Bench.classes id true = (.ok (), q) ∧ id ∉ q.broker.devices ∧
          ∃ r, q.add Bench.classes id = (.ok (), r) ∧
            r.broker.info id = .ok ((p.broker.world.simulatedAt slot).infoOf id) ∧
            r.broker.leaseCount id = .ok 0 := by
  constructor
  · intro W K H cls answers p hp id
    have hindexed := hp.reachable.indexed
    have hacc := hp.reachable.accounted
    have hreported : (∃ k, p.broker.owners.get? id = some k) ↔ _ := hp.owned_iff
    refine ⟨?_, ?_, ?_⟩
    · rw [add, notifying_fst, ← hreported]
      exact hindexed.addTold cls hacc id
    · intro hrefused
      rw [← hreported, not_exists, ← Option.eq_none_iff_forall_ne_some] at hrefused
      obtain ⟨r, hr⟩ := Broker.add_unasked hrefused
      exact ⟨r, fun other => notifying_of_error (hr other)⟩
    · intro k handle info hadoptable hgiven hunknown
      rcases hindexed.add_asked cls hacc hadoptable with
        ⟨fault, c, hfails, _⟩ | ⟨_, _, c, hanswer, _, hadd, hadded⟩
      · obtain ⟨other, hknown⟩ := hfails.known hgiven
        exact absurd hknown (hunknown other)
      · rw [hgiven] at hanswer
        cases hanswer
        exact ⟨c, notifying_of_ok hadd, hadded⟩
  · intro fleet p hfleet hp id slot hid hawaited
    exact hp.readded hfleet hid hawaited

theorem sharedPhones_fleet : Fleet [sharedPhones] where
  keepsSet := by
    intro k hk slot hplace
    rw [List.mem_singleton.mp hk] at hplace
    cases hplace
  apart := by
    intro j hj k hk _
    rw [List.mem_singleton.mp hj, List.mem_singleton.mp hk]

theorem sharedPool_served :
    ReachableUnder Bench.classes Bench.Fresh (Bench.ServedBy [sharedPhones]) sharedPool := by
  have hfresh : Bench.Fresh
      (({} : Bench).setSimulated 0 0 (.ofDevices [{ id := "A" }, { id := "B" }]) {}) := by
    constructor
    · intro slot
      rw [Bench.simulatedAt_setSimulated]
      split
      · exact ⟨_, rfl⟩
      · exact ⟨[], rfl⟩
    · intro place
      rw [Bench.adoptedAt_setSimulated]
      split
      · rfl
      · cases place <;> rfl
  have hstart : ReachableUnder Bench.classes Bench.Fresh (Bench.ServedBy [sharedPhones])
      ⟨.start (({} : Bench).setSimulated 0 0
        (.ofDevices [{ id := "A" }, { id := "B" }]) {}) {}, []⟩ := .start {} hfresh
  exact hstart.run (by simp [Bench.ServedBy])

/-- One device has been removed and is given out again, another is denied, and a third nobody has
ever seen. A device with two leases is removed and comes back without any. -/
theorem addition_outcomes_filtered :
    (filteredPool.add Bench.classes "Z").1 = .error (.unknownDevice "Z") ∧
    (filteredPool.add Bench.classes "B").1 = .error (.denied "B") ∧
    (∃ c, filteredPool.add Bench.classes "A" = (.ok (), ⟨c, filteredPool.notify.waiting⟩) ∧
      filteredPool.broker.Added Bench.classes "A" sharedPhones (.simulated "A") { id := "A" } c) ∧
    sharedPool.broker.leaseCount "A" = .ok 2 ∧
    ∃ q, sharedPool.remove Bench.classes "A" true = (.ok (), q) ∧ "A" ∉ q.broker.devices ∧
      ∃ r, q.add Bench.classes "A" = (.ok (), r) ∧
        r.broker.info "A" = .ok { id := "A" } ∧ r.broker.leaseCount "A" = .ok 0 := by
  obtain ⟨htold, hreadded⟩ := addition_outcomes
  obtain ⟨hunknown, _⟩ := htold filteredPool_scanned "Z"
  obtain ⟨hdenied, _⟩ := htold filteredPool_scanned "B"
  obtain ⟨_, _, hadded⟩ := htold filteredPool_scanned "A"
  have hunseen : ¬ ∃ ids, (.ok ids : Except Fault (List DeviceId)) ∈ [.ok ["A", "B"]] ∧
      "Z" ∈ ids := by
    rintro ⟨ids, hids, hmem⟩
    cases List.mem_singleton.mp hids
    revert hmem
    decide
  have hseen : ∃ ids, (.ok ids : Except Fault (List DeviceId)) ∈ [.ok ["A", "B"]] ∧ "B" ∈ ids :=
    ⟨["A", "B"], List.mem_singleton_self _, by decide⟩
  have hnone : filteredPool.broker.entries = ∅ := SortedMap.ext_toList rfl
  have hawaited : sharedPool.broker.Awaited "A" 0 :=
    ⟨by decide +kernel, ⟨sharedPhones, 0, rfl, rfl, by decide +kernel⟩, by decide +kernel⟩
  obtain ⟨q, hremove, hgone, r, hadd, hinfo, hidle⟩ :=
    hreadded sharedPhones_fleet sharedPool_served (by decide +kernel) hawaited
  refine ⟨hunknown.unknown.mpr hunseen, hdenied.denied.mpr ⟨hseen, by decide +kernel⟩, ?_,
    by decide +kernel, q, hremove, hgone, r, hadd, hinfo, hidle⟩
  refine hadded sharedPhones (.simulated "A") { id := "A" } ⟨?_, rfl, by decide +kernel⟩ rfl ?_
  · rw [hnone, SortedMap.get?_empty]
  · intro other hother
    obtain ⟨e, he, _⟩ := info_eq_ok_iff.mp hother
    rw [hnone, SortedMap.get?_empty] at he
    cases he

end Pool

end LeaseBroker
