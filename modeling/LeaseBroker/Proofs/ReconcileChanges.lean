import LeaseBroker.Proofs.Changes

/-!
# Reconciliation as a sequence of deeds

The paths of the operations that adopt and forget devices. A rescan first finds the owners anew and
is made of deeds from there on. Adoptions are made from the owners and access lists that stand
then, and nothing in the pass moves either of them.
-/

set_option autoImplicit false

namespace LeaseBroker.Broker
variable {W K H : Type} (cls : DeviceClasses W K H) (b : Broker W K H)

theorem register_changes (k : K) : Changes cls b (b.register cls k) :=
  .tail (.single (.classes b (b.classes ++ [k]))) (.note _ _)

/-! ### Scanning -/

section Scanning
variable {cls b} {P : Broker W K H → Prop} {ks : List K}
  (answered : ∀ (c : Broker W K H) {k : K}, k ∈ ks → P c → P (c.accept (cls.rescan k c.world)))
  (claimed : ∀ (c : Broker W K H) {k : K} (id : DeviceId), k ∈ ks → P c →
    P { c with owners := c.owners.insert id k })
  (noted : ∀ (c : Broker W K H) {notice : Notice}, ¬ notice.AboutLease → P c → P (c.note notice))
include claimed noted

theorem claim_preserve {k : K} (hk : k ∈ ks) (id : DeviceId) (h : P b) : P (claim cls k b id) := by
  have hclaimed := claimed b id hk h
  unfold claim
  split
  · exact hclaimed
  · exact noted _ not_false hclaimed

theorem foldl_claim_preserve {k : K} (hk : k ∈ ks) (ids : List DeviceId) (h : P b) :
    P (ids.foldl (claim cls k) b) := by
  induction ids generalizing b with
  | nil => exact h
  | cons id rest ih => exact ih (claim_preserve claimed noted hk id h)

include answered

theorem survey_preserve {k : K} (hk : k ∈ ks) (h : P b) : P (survey cls b k) := by
  have hanswered := answered b hk h
  unfold survey
  dsimp only
  split
  · exact foldl_claim_preserve claimed noted hk _ hanswered
  · exact noted _ not_false hanswered

theorem foldl_survey_preserve {rest : List K} (hrest : ∀ k ∈ rest, k ∈ ks) (h : P b) :
    P (rest.foldl (survey cls) b) := by
  induction rest generalizing b with
  | nil => exact h
  | cons k rest ih =>
    refine ih (fun j hj => hrest j (List.mem_cons_of_mem k hj)) ?_
    exact survey_preserve answered claimed noted (hrest k List.mem_cons_self) h

end Scanning

variable {cls b} in
/-- A scan starts without owners. Then classes answer and claim devices, and some of this is
logged. -/
theorem scan_preserve {P : Broker W K H → Prop} (unowned : P { b with owners := ∅ })
    (answered : ∀ (c : Broker W K H) {k : K}, k ∈ b.classes → P c →
      P (c.accept (cls.rescan k c.world)))
    (claimed : ∀ (c : Broker W K H) {k : K} (id : DeviceId), k ∈ b.classes → P c →
      P { c with owners := c.owners.insert id k })
    (noted : ∀ (c : Broker W K H) {notice : Notice}, ¬ notice.AboutLease → P c →
      P (c.note notice)) : P (b.scan cls) :=
  foldl_survey_preserve answered claimed noted (fun _ hk => hk) unowned

theorem scan_changes : Changes cls b (b.scan cls) :=
  scan_preserve (P := Changes cls b) (.single (.owners _ _)) (fun _ _ _ h => h.tail (.accept _ _))
    (fun _ _ _ _ h => h.tail (.owners _ _)) (fun _ _ _ h => h.tail (.note _ _))

/-- Nothing but the owners is found anew by a scan. -/
theorem scan_toRegistry :
    (b.scan cls).toRegistry = { b.toRegistry with owners := (b.scan cls).owners } :=
  scan_preserve (P := fun c => c.toRegistry = { b.toRegistry with owners := c.owners }) rfl
    (fun _ _ _ h => h)
    (fun c k id _ h => congrArg (fun r => { r with owners := c.owners.insert id k }) h)
    (fun _ _ _ h => h)

/-! ### Adopting -/

/-- Asking a class for a device is in vain, brings a device that must go back, or brings one that
is registered. -/
theorem adopt_cases (id : DeviceId) (k : K) :
    (∃ fault, (cls.adopt k id b.world).answer = .error fault ∧
      b.adopt cls id k =
        (.error (.adoptionFailed id (.reported fault)), b.accept (cls.adopt k id b.world))) ∨
    (∃ handle info other, (cls.adopt k id b.world).answer = .ok (handle, info) ∧
      b.infos.get? info = some other ∧
      b.adopt cls id k = (.error (.adoptionFailed id (.duplicateInfo other)),
        (b.accept (cls.adopt k id b.world)).abandon cls id k info handle)) ∨
    (∃ handle info, (cls.adopt k id b.world).answer = .ok (handle, info) ∧
      b.infos.get? info = none ∧
      b.adopt cls id k = (.ok (), b.adopted (cls.adopt k id b.world) id k handle info)) := by
  unfold adopt
  rcases hanswer : (cls.adopt k id b.world).answer with fault | ⟨handle, info⟩
  · exact Or.inl ⟨fault, rfl, by simp only [hanswer]⟩
  · cases hknown : b.infos.get? info with
    | some other =>
      refine Or.inr (Or.inl ⟨handle, info, other, rfl, hknown, ?_⟩)
      simp only [hanswer, accept, hknown]
    | none =>
      refine Or.inr (Or.inr ⟨handle, info, rfl, hknown, ?_⟩)
      simp only [hanswer, accept, hknown, adopted]

theorem adopt_deeds {id : DeviceId} {k : K} (h : b.Adoptable id k) :
    Deeds cls b (b.adopt cls id k).2 := by
  rcases adopt_cases cls b id k with
    ⟨_, hdeclined, ha⟩ | ⟨_, _, _, hgiven, hknown, ha⟩ | ⟨_, _, hgiven, hunknown, ha⟩ <;> rw [ha]
  · exact .single (.decline h hdeclined)
  · exact .single (.reject h hgiven hknown)
  · exact .single (.adopt h hgiven hunknown)

/-! ### Forgetting -/

/-- Ending a number of leases of a device leaves it registered with as many leases less. -/
theorem releaseTimes_entry {b c : Broker W K H} {id : DeviceId} {e : Entry K H} {n : Nat}
    (he : b.entries.get? id = some e) (h : b.releaseTimes id n = (.ok (), c)) :
    n ≤ e.leases ∧ c.entries.get? id = some { e with leases := e.leases - n } := by
  induction n generalizing b e with
  | zero =>
    cases h
    exact ⟨Nat.zero_le _, he⟩
  | succ n ih =>
    unfold releaseTimes at h
    rcases endLease_cases b id none with
      ⟨r, hr⟩ | ⟨r, _, _, _, hr⟩ | ⟨e', holder, since, ledger, he', h0, _, _, hr⟩
    · rw [hr] at h
      cases h
    · rw [hr] at h
      cases h
    · rw [hr] at h
      have hee : e' = e := Option.some.inj (he'.symm.trans he)
      subst e'
      have hnext : (b.unleased id e holder since ledger).entries.get? id =
          some { e with leases := e.leases - 1 } := SortedMap.get?_insert_self _ _ _
      obtain ⟨hle, hc⟩ := ih hnext h
      refine ⟨by simp only at hle; omega, ?_⟩
      rw [hc]
      simp only [Nat.sub_sub, Nat.add_comm]

section Forgetting
variable {cls b} {c : Broker W K H} {id : DeviceId} {e : Entry K H}

theorem forget_of_released (he : b.entries.get? id = some e)
    (h : b.releaseTimes id e.leases = (.ok (), c)) :
    b.forget cls id =
      (.ok (), (c.struckOff id e).abandon cls id e.holder e.info e.handle) := by
  simp only [forget, he, h, struckOff]

theorem forget_of_stuck {r : Refusal} (he : b.entries.get? id = some e)
    (h : b.releaseTimes id e.leases = (.error r, c)) : b.forget cls id = (.error r, c) := by
  simp only [forget, he, h]

end Forgetting

theorem forget_deeds (id : DeviceId) : Deeds cls b (b.forget cls id).2 := by
  cases he : b.entries.get? id with
  | none =>
    simp only [forget, he]
    exact .refl
  | some e =>
    have hleases := releaseTimes_deeds cls b id e.leases
    rcases hr : b.releaseTimes id e.leases with ⟨r | ⟨⟩, c⟩ <;> rw [hr] at hleases
    · rw [forget_of_stuck he hr]
      exact hleases
    · rw [forget_of_released he hr]
      obtain ⟨_, hc⟩ := releaseTimes_entry he hr
      exact hleases.tail
        (.forget (e := { e with leases := e.leases - e.leases }) hc (Nat.sub_self e.leases))

theorem releaseTimes_access (id : DeviceId) (n : Nat) :
    (b.releaseTimes id n).2.access = b.access :=
  releaseTimes_preserve (P := fun c => c.access = b.access) id
    (fun c hc => (endLease_access c id none).trans hc) n rfl

theorem releaseTimes_world (id : DeviceId) (n : Nat) : (b.releaseTimes id n).2.world = b.world :=
  releaseTimes_preserve (P := fun c => c.world = b.world) id
    (fun c hc => (endLease_world c id none).trans hc) n rfl

theorem forget_access (id : DeviceId) : (b.forget cls id).2.access = b.access := by
  cases he : b.entries.get? id with
  | none => simp only [forget, he]
  | some e =>
    have hleases := releaseTimes_access b id e.leases
    rcases hr : b.releaseTimes id e.leases with ⟨r | ⟨⟩, c⟩ <;> rw [hr] at hleases
    · rw [forget_of_stuck he hr]
      exact hleases
    · rw [forget_of_released he hr, abandon_toRegistry]
      exact hleases

/-! ### Rescanning -/

theorem adopt_access (id : DeviceId) (k : K) : (b.adopt cls id k).2.access = b.access := by
  rcases adopt_cases cls b id k with ⟨_, _, h⟩ | ⟨_, _, _, _, _, h⟩ | ⟨_, _, _, _, h⟩ <;> rw [h]
  · rfl
  · rw [abandon_toRegistry]
    rfl
  · rfl

theorem adopt_ledger (id : DeviceId) (k : K) : (b.adopt cls id k).2.ledger = b.ledger := by
  rcases adopt_cases cls b id k with ⟨_, _, h⟩ | ⟨_, _, _, _, _, h⟩ | ⟨_, _, _, _, h⟩ <;> rw [h]
  · rfl
  · rw [abandon_toRegistry]
    rfl
  · rfl

/-- What a rescan does with a device that it expects. -/
theorem welcome_cases (state : RescanReport × Broker W K H) (id : DeviceId) :
    ((∃ e, state.2.entries.get? id = some e) ∧ welcome cls state id =
      ({ state.1 with kept := state.1.kept ++ [id] }, state.2.note (.kept id))) ∨
    (state.2.entries.get? id = none ∧ state.2.owners.get? id = none ∧
      welcome cls state id = state) ∨
    (∃ k, state.2.entries.get? id = none ∧ state.2.owners.get? id = some k ∧
      ((∃ c, state.2.adopt cls id k = (.ok (), c) ∧ welcome cls state id =
          ({ state.1 with found := state.1.found ++ [id] }, c.note (.found id (cls.name k)))) ∨
        (∃ r c, state.2.adopt cls id k = (.error r, c) ∧ welcome cls state id =
          ({ state.1 with failed := state.1.failed ++ [id] },
            c.note (.connectFailed id (cls.name k) r.message))))) := by
  obtain ⟨report, b⟩ := state
  unfold welcome
  cases he : b.entries.get? id with
  | some e => exact Or.inl ⟨⟨e, rfl⟩, by simp [SortedMap.contains, he]⟩
  | none =>
    cases ho : b.owners.get? id with
    | none => exact Or.inr (Or.inl ⟨rfl, rfl, by simp [SortedMap.contains, he, ho]⟩)
    | some k =>
      refine Or.inr (Or.inr ⟨k, rfl, rfl, ?_⟩)
      rcases ha : b.adopt cls id k with ⟨r | ⟨⟩, c⟩
      · exact Or.inr ⟨r, c, rfl, by simp [SortedMap.contains, he, ho, ha]⟩
      · exact Or.inl ⟨c, rfl, by simp [SortedMap.contains, he, ho, ha]⟩

theorem welcome_access (state : RescanReport × Broker W K H) (id : DeviceId) :
    (welcome cls state id).2.access = state.2.access := by
  rcases welcome_cases cls state id with
    ⟨_, h⟩ | ⟨_, _, h⟩ | ⟨k, _, _, ⟨c, ha, h⟩ | ⟨r, c, ha, h⟩⟩ <;> rw [h]
  · rfl
  · rw [← adopt_access cls state.2 id k, ha]
    rfl
  · rw [← adopt_access cls state.2 id k, ha]
    rfl

theorem welcome_deeds (state : RescanReport × Broker W K H) {id : DeviceId}
    (permitted : state.2.access.permits id = true) :
    Deeds cls state.2 (welcome cls state id).2 := by
  rcases welcome_cases cls state id with
    ⟨_, h⟩ | ⟨_, _, h⟩ | ⟨k, fresh, owned, hadopt⟩
  · rw [h]
    exact .single (.note _ not_false)
  · rw [h]
  · have hdeeds := adopt_deeds cls state.2 ⟨fresh, owned, permitted⟩
    rcases hadopt with ⟨c, ha, h⟩ | ⟨r, c, ha, h⟩ <;> rw [ha] at hdeeds <;> rw [h]
    · exact hdeeds.tail (.note _ not_false)
    · exact hdeeds.tail (.note _ not_false)

theorem foldl_welcome_deeds (ids : List DeviceId) (state : RescanReport × Broker W K H)
    (permitted : ∀ id ∈ ids, state.2.access.permits id = true) :
    Deeds cls state.2 (ids.foldl (welcome cls) state).2 := by
  induction ids generalizing state with
  | nil => exact .refl
  | cons id rest ih =>
    have hid := welcome_deeds cls state (permitted id List.mem_cons_self)
    refine hid.trans (ih _ fun j hj => ?_)
    rw [welcome_access]
    exact permitted j (List.mem_cons_of_mem id hj)

theorem dismiss_deeds (state : RescanReport × Broker W K H) (id : DeviceId) :
    Deeds cls state.2 (dismiss cls state id).2 := by
  obtain ⟨report, b⟩ := state
  have hforget := forget_deeds cls b id
  unfold dismiss
  dsimp only
  split <;> rename_i h <;> rw [h] at hforget <;> exact hforget.tail (.note _ not_false)

theorem foldl_dismiss_deeds (ids : List DeviceId) (state : RescanReport × Broker W K H) :
    Deeds cls state.2 (ids.foldl (dismiss cls) state).2 := by
  induction ids generalizing state with
  | nil => exact .refl
  | cons id rest ih => exact (dismiss_deeds cls state id).trans (ih _)

theorem foldl_welcome_access (ids : List DeviceId) (state : RescanReport × Broker W K H) :
    (ids.foldl (welcome cls) state).2.access = state.2.access := by
  induction ids generalizing state with
  | nil => rfl
  | cons id rest ih => exact (ih _).trans (welcome_access cls state id)

theorem foldl_dismiss_access (ids : List DeviceId) (state : RescanReport × Broker W K H) :
    (ids.foldl (dismiss cls) state).2.access = state.2.access := by
  induction ids generalizing state with
  | nil => rfl
  | cons id rest ih =>
    obtain ⟨report, b⟩ := state
    have hforget := forget_access cls b id
    have hdismiss : (dismiss cls (report, b) id).2.access = b.access := by
      unfold dismiss
      dsimp only
      split <;> rename_i h <;> rw [h] at hforget <;> exact hforget
    exact (ih _).trans hdismiss

/-! ### The whole rescan -/

/-- The registered devices that are not in a list. -/
def gone (ids : List DeviceId) : List DeviceId := b.devices.filter fun id => !ids.contains id

/-- A rescan when the devices that it expects are welcomed. -/
def midway : RescanReport × Broker W K H :=
  (b.scan cls).eligible.foldl (welcome cls) ({}, b.scan cls)

/-- A rescan when the devices that are gone are dismissed as well. -/
def cleared : RescanReport × Broker W K H :=
  ((b.midway cls).2.gone (b.scan cls).eligible).foldl (dismiss cls) (b.midway cls)

theorem rescan_eq : b.rescan cls = ((b.cleared cls).1, (b.cleared cls).2.note
    (.scanned (b.cleared cls).1.found.length (b.cleared cls).1.kept.length
      (b.cleared cls).1.forgot.length (b.cleared cls).1.failed.length)) := rfl

theorem midway_deeds : Deeds cls (b.scan cls) (b.midway cls).2 :=
  foldl_welcome_deeds cls _ ({}, b.scan cls) fun _ hid => (List.mem_filter.mp hid).2

/-- Once the owners are found, the rest of a rescan is made of deeds. -/
theorem rescan_deeds : Deeds cls (b.scan cls) (b.rescan cls).2 := by
  have hcleared : Deeds cls (b.midway cls).2 (b.cleared cls).2 :=
    foldl_dismiss_deeds cls _ (b.midway cls)
  rw [rescan_eq]
  exact ((b.midway_deeds cls).trans hcleared).tail (.note _ not_false)

theorem scan_access : (b.scan cls).access = b.access := by
  rw [scan_toRegistry]

theorem rescan_access : (b.rescan cls).2.access = b.access := by
  have hmidway : (b.midway cls).2.access = b.access :=
    (foldl_welcome_access cls _ _).trans (b.scan_access cls)
  rw [rescan_eq]
  exact (foldl_dismiss_access cls _ (b.midway cls)).trans hmidway

theorem rescan_classes : (b.rescan cls).2.classes = b.classes := by
  have hscan : (b.scan cls).classes = b.classes := by rw [scan_toRegistry]
  exact (b.rescan_deeds cls).classes.trans hscan

theorem rescan_owners : (b.rescan cls).2.owners = (b.scan cls).owners :=
  (b.rescan_deeds cls).owners

/-! ### Operations of clients -/

section Adding
variable {b} {id : DeviceId} {k : K}

theorem add_of_unowned (h : b.owners.get? id = none) :
    b.add cls id = (.error (.unknownDevice id), b) := by
  rw [add, h]

theorem add_of_unpermitted (howner : b.owners.get? id = some k)
    (h : b.access.permits id = false) : b.add cls id = (.error (.denied id), b) := by
  simp [add, howner, h]

theorem add_of_registered (howner : b.owners.get? id = some k)
    (hpermits : b.access.permits id = true) {e : Entry K H} (he : b.entries.get? id = some e) :
    b.add cls id = (.error (.alreadyAdded id), b) := by
  have hcontains : b.entries.contains id = true := SortedMap.contains_eq_true_iff.mpr ⟨e, he⟩
  simp [add, howner, hpermits, hcontains]

theorem add_of_adoptable (h : b.Adoptable id k) : b.add cls id =
    match b.adopt cls id k with
    | (.ok (), c) => (.ok (), c.note (.added id))
    | (.error r, c) => (.error r, c) := by
  have hfresh : b.entries.contains id = false := SortedMap.contains_eq_false_iff.mpr h.fresh
  rcases hadopt : b.adopt cls id k with ⟨r | ⟨⟩, c⟩ <;>
    simp [add, h.owned, h.permitted, hfresh, hadopt]

end Adding

/-- What adding a device comes to: the owner is asked only if nothing else is in the way. -/
theorem add_decided (id : DeviceId) :
    (b.owners.get? id = none ∧ b.add cls id = (.error (.unknownDevice id), b)) ∨
    (∃ k, b.owners.get? id = some k ∧ b.access.permits id = false ∧
      b.add cls id = (.error (.denied id), b)) ∨
    (∃ k e, b.owners.get? id = some k ∧ b.access.permits id = true ∧
      b.entries.get? id = some e ∧ b.add cls id = (.error (.alreadyAdded id), b)) ∨
    (∃ k, b.Adoptable id k ∧
      ((∃ r c, b.adopt cls id k = (.error r, c) ∧ b.add cls id = (.error r, c)) ∨
        ∃ c, b.adopt cls id k = (.ok (), c) ∧ b.add cls id = (.ok (), c.note (.added id)))) := by
  cases howner : b.owners.get? id with
  | none => exact Or.inl ⟨rfl, add_of_unowned cls howner⟩
  | some k =>
    refine Or.inr ?_
    cases hpermits : b.access.permits id with
    | false => exact Or.inl ⟨k, rfl, rfl, add_of_unpermitted cls howner hpermits⟩
    | true =>
      refine Or.inr ?_
      cases he : b.entries.get? id with
      | some e => exact Or.inl ⟨k, e, rfl, rfl, rfl, add_of_registered cls howner hpermits he⟩
      | none =>
        have hadoptable : b.Adoptable id k := ⟨he, howner, hpermits⟩
        refine Or.inr ⟨k, hadoptable, ?_⟩
        rcases hadopt : b.adopt cls id k with ⟨r | ⟨⟩, c⟩
        · exact Or.inl ⟨r, c, rfl, by rw [add_of_adoptable cls hadoptable, hadopt]⟩
        · exact Or.inr ⟨c, rfl, by rw [add_of_adoptable cls hadoptable, hadopt]⟩

theorem add_deeds (id : DeviceId) : Deeds cls b (b.add cls id).2 := by
  rcases add_decided cls b id with
    ⟨_, h⟩ | ⟨_, _, _, h⟩ | ⟨_, _, _, _, _, h⟩ |
      ⟨k, hadoptable, ⟨r, c, hadopt, h⟩ | ⟨c, hadopt, h⟩⟩ <;> rw [h]
  · have hdeeds := adopt_deeds cls b hadoptable
    rwa [hadopt] at hdeeds
  · have hdeeds := adopt_deeds cls b hadoptable
    rw [hadopt] at hdeeds
    exact hdeeds.tail (.note _ not_false)

theorem add_ledger (id : DeviceId) : (b.add cls id).2.ledger = b.ledger := by
  rcases add_decided cls b id with
    ⟨_, h⟩ | ⟨_, _, _, h⟩ | ⟨_, _, _, _, _, h⟩ |
      ⟨k, _, ⟨r, c, hadopt, h⟩ | ⟨c, hadopt, h⟩⟩ <;> rw [h]
  · have hledger := adopt_ledger cls b id k
    rwa [hadopt] at hledger
  · have hledger := adopt_ledger cls b id k
    rwa [hadopt] at hledger

section Removing
variable {b} {id : DeviceId} {force : Bool} {e : Entry K H} {c : Broker W K H}

theorem remove_of_unknown (h : b.entries.get? id = none) :
    b.remove cls id force = (.error (.unknownDevice id), b) := by
  simp only [remove, h]

variable {cls} in
theorem remove_busy (he : b.entries.get? id = some e) (hleased : 0 < e.leases) :
    b.remove cls id false = (.error (.busy id), b) := by
  simp only [remove, he, hleased, Bool.not_false, and_self, if_true]

theorem remove_of_allowed (he : b.entries.get? id = some e)
    (hforce : e.leases = 0 ∨ force = true) : b.remove cls id force =
    match b.forget cls id with
    | (.ok (), c) => (.ok (), c.note (.removed id force))
    | (.error r, c) => (.error r, c) := by
  have hallowed : ¬ (0 < e.leases ∧ (!force) = true) := by
    rintro ⟨hleased, hgentle⟩
    rcases hforce with hidle | rfl
    · omega
    · cases hgentle
  rcases hforget : b.forget cls id with ⟨r | ⟨⟩, c⟩ <;>
    simp only [remove, he, if_neg hallowed, hforget]

variable {cls} in
theorem remove_of_forget (he : b.entries.get? id = some e)
    (hforce : e.leases = 0 ∨ force = true) (h : b.forget cls id = (.ok (), c)) :
    b.remove cls id force = (.ok (), c.note (.removed id force)) := by
  rw [remove_of_allowed cls he hforce, h]

end Removing

/-- What removing a device comes to: it is forgotten unless there is none, or it has leases and no
force is used. -/
theorem remove_decided (id : DeviceId) (force : Bool) :
    (b.entries.get? id = none ∧ b.remove cls id force = (.error (.unknownDevice id), b)) ∨
    (∃ e, b.entries.get? id = some e ∧ 0 < e.leases ∧ force = false ∧
      b.remove cls id force = (.error (.busy id), b)) ∨
    (∃ e, b.entries.get? id = some e ∧ (e.leases = 0 ∨ force = true) ∧
      ((∃ r c, b.forget cls id = (.error r, c) ∧ b.remove cls id force = (.error r, c)) ∨
        ∃ c, b.forget cls id = (.ok (), c) ∧
          b.remove cls id force = (.ok (), c.note (.removed id force)))) := by
  cases he : b.entries.get? id with
  | none => exact Or.inl ⟨rfl, remove_of_unknown cls he⟩
  | some e =>
    refine Or.inr ?_
    by_cases hforce : e.leases = 0 ∨ force = true
    · refine Or.inr ⟨e, rfl, hforce, ?_⟩
      rcases hforget : b.forget cls id with ⟨r | ⟨⟩, c⟩
      · exact Or.inl ⟨r, c, rfl, by rw [remove_of_allowed cls he hforce, hforget]⟩
      · exact Or.inr ⟨c, rfl, remove_of_forget he hforce hforget⟩
    · rw [not_or, Bool.not_eq_true] at hforce
      obtain ⟨hleases, rfl⟩ := hforce
      have hleased := Nat.pos_of_ne_zero hleases
      exact Or.inl ⟨e, rfl, hleased, rfl, remove_busy he hleased⟩

theorem remove_deeds (id : DeviceId) (force : Bool) :
    Deeds cls b (b.remove cls id force).2 := by
  have hforget := forget_deeds cls b id
  rcases remove_decided cls b id force with
    ⟨_, h⟩ | ⟨_, _, _, _, h⟩ | ⟨_, _, _, ⟨r, c, hr, h⟩ | ⟨c, hc, h⟩⟩ <;> rw [h]
  · rwa [hr] at hforget
  · rw [hc] at hforget
    exact hforget.tail (.note _ not_false)

theorem reset_changes : Changes cls b b.reset := by
  have hnotes : ∀ (rows : List (DeviceId × Entry K H)) (b : Broker W K H), Changes cls b
      (rows.foldl (fun b row => b.note (.droppedOnReset row.1 row.2.leases)) b) := by
    intro rows
    induction rows with
    | nil => exact fun b => .refl
    | cons row rest ih => exact fun b => (ih _).head (.note _ _)
  exact (hnotes _ b).tail (.clear _)

theorem reset_eq : ∃ log, b.reset = { b with entries := ∅, infos := ∅, ledger := {}, log } := by
  have hnotes : ∀ (rows : List (DeviceId × Entry K H)) (b : Broker W K H), ∃ log,
      rows.foldl (fun b row => b.note (.droppedOnReset row.1 row.2.leases)) b = { b with log } := by
    intro rows
    induction rows with
    | nil => exact fun b => ⟨b.log, rfl⟩
    | cons row rest ih => exact fun b => ih (b.note (.droppedOnReset row.1 row.2.leases))
  obtain ⟨log, hlog⟩ := hnotes (b.entries.toList.filter fun row => 0 < row.2.leases) b
  exact ⟨log, by rw [reset, hlog]⟩

theorem enlist_deeds (list : Listing) (id : DeviceId) : Deeds cls b (b.enlist list id).2 := by
  unfold enlist
  split
  · exact .refl
  · refine .tail (.single (.access b _)) (.note _ ?_)
    cases list <;> exact not_false

theorem delist_deeds (list : Listing) (id : DeviceId) : Deeds cls b (b.delist list id).2 := by
  unfold delist
  split
  · exact .refl
  · refine .tail (.single (.access b _)) (.note _ ?_)
    cases list <;> exact not_false

theorem enlist_entries (list : Listing) (id : DeviceId) :
    (b.enlist list id).2.entries = b.entries := by
  unfold enlist
  split <;> rfl

theorem delist_entries (list : Listing) (id : DeviceId) :
    (b.delist list id).2.entries = b.entries := by
  unfold delist
  split <;> rfl

theorem enlist_ledger (list : Listing) (id : DeviceId) :
    (b.enlist list id).2.ledger = b.ledger := by
  unfold enlist
  split <;> rfl

theorem delist_ledger (list : Listing) (id : DeviceId) :
    (b.delist list id).2.ledger = b.ledger := by
  unfold delist
  split <;> rfl

end LeaseBroker.Broker
