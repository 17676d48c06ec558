import LeaseBroker.Proofs.Refusals

/-!
# What forgetting a device leaves alone

A device that is forgotten takes its leases with it and nothing else: every other device keeps its
entry and every lease of another device stays as it is recorded.
-/

set_option autoImplicit false

namespace LeaseBroker.Broker
variable {W K H : Type} {cls : DeviceClasses W K H} {b c d : Broker W K H} {id : DeviceId}

/-- Whether two brokers differ in nothing but one device, apart from the index of infos. -/
structure SameElsewhere (id : DeviceId) (b c : Broker W K H) : Prop where
  entries : ∀ {i : DeviceId}, i ≠ id → c.entries.get? i = b.entries.get? i
  since : ∀ {a : Acquirer} {i : DeviceId}, i ≠ id → c.ledger.since a i = b.ledger.since a i
  classes : c.classes = b.classes
  owners : c.owners = b.owners
  access : c.access = b.access

namespace SameElsewhere

theorem refl (id : DeviceId) (b : Broker W K H) : SameElsewhere id b b :=
  ⟨fun _ => rfl, fun _ => rfl, rfl, rfl, rfl⟩

theorem trans (hb : SameElsewhere id b c) (hc : SameElsewhere id c d) : SameElsewhere id b d where
  entries := fun hi => (hc.entries hi).trans (hb.entries hi)
  since := fun hi => (hc.since hi).trans (hb.since hi)
  classes := hc.classes.trans hb.classes
  owners := hc.owners.trans hb.owners
  access := hc.access.trans hb.access

theorem unleased (b : Broker W K H) (e : Entry K H) {holder : Acquirer} {since : Moment}
    {ledger : Ledger} (hp : b.ledger.pop holder id = (some since, ledger)) :
    SameElsewhere id b (b.unleased id e holder since ledger) where
  entries := fun hi => SortedMap.get?_insert_of_ne _ _ hi
  since := by
    intro a i hi
    obtain ⟨older, _, rfl⟩ := Ledger.pop_eq_some hp
    exact (Ledger.since_setStack _ _ _ _ _ _).trans (if_neg fun h => hi h.2)
  classes := rfl
  owners := rfl
  access := rfl

theorem endLease {acquirer : Option Acquirer} {holder : Acquirer}
    (h : b.endLease id acquirer = (.ok holder, c)) : SameElsewhere id b c := by
  rcases endLease_cases b id acquirer with
    ⟨_, hr⟩ | ⟨_, _, _, _, hr⟩ | ⟨e, _, _, _, _, _, _, hp, hr⟩ <;> rw [hr] at h <;> cases h
  exact .unleased _ e hp

theorem releaseTimes {n : Nat} (h : b.releaseTimes id n = (.ok (), c)) : SameElsewhere id b c := by
  induction n generalizing b with
  | zero =>
    cases h
    exact .refl id _
  | succ n ih =>
    unfold Broker.releaseTimes at h
    split at h
    · rename_i hend
      exact (SameElsewhere.endLease hend).trans (ih h)
    · cases h

theorem struckOff (b : Broker W K H) (e : Entry K H) : SameElsewhere id b (b.struckOff id e) where
  entries := fun hi => (SortedMap.get?_erase _ _ _).trans (if_neg hi)
  since := fun _ => rfl
  classes := rfl
  owners := rfl
  access := rfl

theorem of_toRegistry (h : c.toRegistry = b.toRegistry) : SameElsewhere id b c where
  entries := fun {i} _ => congrArg (fun r => r.entries.get? i) h
  since := fun {a i} _ => congrArg (fun r => r.ledger.since a i) h
  classes := congrArg Registry.classes h
  owners := congrArg Registry.owners h
  access := congrArg Registry.access h

end SameElsewhere

variable (cls) in
/-- A registered device can be forgotten, and nothing of it is left. -/
theorem Accounted.forget_spec (h : Accounted b.entries b.ledger) {e : Entry K H}
    (he : b.entries.get? id = some e) :
    ∃ c, b.forget cls id = (.ok (), c) ∧ c.entries.get? id = none ∧ SameElsewhere id b c ∧
      Accounted c.entries c.ledger := by
  obtain ⟨released, hr⟩ := h.releaseTimes_ok he (Nat.le_refl _)
  have hf : b.forget cls id = _ := forget_of_released he hr
  have hregistry := abandon_toRegistry cls (released.struckOff id e) id e.holder e.info e.handle
  have hafter := h.changes (forget_deeds cls b id).changes
  rw [hf] at hafter
  refine ⟨_, hf, ?_, ?_, hafter⟩
  · rw [congrArg Registry.entries hregistry]
    exact (SortedMap.get?_erase _ _ _).trans (if_pos rfl)
  · exact ((SameElsewhere.releaseTimes hr).trans (.struckOff released e)).trans
      (.of_toRegistry hregistry)

variable (cls) in
/-- A removal is refused and changes nothing, or leaves nothing of the device. -/
theorem Accounted.remove_spec (h : Accounted b.entries b.ledger) (id : DeviceId) (force : Bool) :
    (∃ r, b.remove cls id force = (.error r, b)) ∨
    (∃ e c, b.entries.get? id = some e ∧ (e.leases = 0 ∨ force = true) ∧
      b.remove cls id force = (.ok (), c.note (.removed id force)) ∧
      c.entries.get? id = none ∧ SameElsewhere id b c ∧ Accounted c.entries c.ledger) := by
  rcases remove_decided cls b id force with
    ⟨_, hr⟩ | ⟨_, _, _, _, hr⟩ | ⟨e, he, hforce, _⟩
  · exact Or.inl ⟨_, hr⟩
  · exact Or.inl ⟨_, hr⟩
  · obtain ⟨c, hc, hgone, hsame, hafter⟩ := h.forget_spec cls he
    exact Or.inr ⟨e, c, he, hforce, remove_of_forget he hforce hc, hgone, hsame, hafter⟩

end LeaseBroker.Broker
