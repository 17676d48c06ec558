import LeaseBroker.Proofs.Reconciliation

/-!
# The two indexes agree

Devices are found by their identifiers and by their infos. Adopting a device and forgetting one
change both indexes, and nothing else changes the info of a registered device, so each index can
be read off the other. A class may give any info for any identifier, also one that another device
has already: such a device is never registered.
-/

set_option autoImplicit false

namespace LeaseBroker

namespace Broker
variable {W K H : Type} {cls : DeviceClasses W K H} {b c : Broker W K H}

/-! ### Infos -/

/-- The index of infos has exactly the infos of the registered devices. -/
structure Indexed (entries : SortedMap DeviceId (Entry K H))
    (infos : SortedMap DeviceInfo DeviceId) : Prop where
  agree : ∀ {i : DeviceInfo} {id : DeviceId},
    infos.get? i = some id ↔ ∃ e, entries.get? id = some e ∧ e.info = i

namespace Indexed
variable {entries : SortedMap DeviceId (Entry K H)} {infos : SortedMap DeviceInfo DeviceId}
  {id : DeviceId} {e : Entry K H}

theorem empty : Indexed (∅ : SortedMap DeviceId (Entry K H)) ∅ where
  agree := by simp

theorem eq_of_info (h : Indexed entries infos) {id' : DeviceId} {e' : Entry K H}
    (he : entries.get? id = some e) (he' : entries.get? id' = some e') (hinfo : e.info = e'.info) :
    id = id' := by
  have hid := h.agree.mpr ⟨e, he, rfl⟩
  have hid' := h.agree.mpr ⟨e', he', rfl⟩
  rw [hinfo, hid'] at hid
  exact (Option.some.inj hid).symm

theorem update (h : Indexed entries infos) (he : entries.get? id = some e) {e' : Entry K H}
    (hinfo : e'.info = e.info) : Indexed (entries.insert id e') infos where
  agree := by
    intro i j
    rw [h.agree, SortedMap.get?_insert]
    split
    · rename_i hj
      subst j
      simp [he, hinfo]
    · rfl

theorem adopt (h : Indexed entries infos) (fresh : entries.get? id = none)
    (unknown : infos.get? e.info = none) :
    Indexed (entries.insert id e) (infos.insert e.info id) where
  agree := by
    intro i j
    rw [SortedMap.get?_insert, SortedMap.get?_insert]
    by_cases hi : i = e.info
    · subst i
      by_cases hj : j = id
      · simp [hj]
      · rw [if_pos rfl, if_neg hj, ← h.agree, unknown]
        simp [Ne.symm hj]
    · rw [if_neg hi, h.agree]
      by_cases hj : j = id
      · simp [hj, fresh, Ne.symm hi]
      · rw [if_neg hj]

theorem forget (h : Indexed entries infos) (he : entries.get? id = some e) :
    Indexed (entries.erase id) (infos.erase e.info) where
  agree := by
    intro i j
    rw [SortedMap.get?_erase, SortedMap.get?_erase]
    by_cases hj : j = id
    · subst j
      rw [if_pos rfl]
      -- What the index says of the erased identifier can only stand under its info.
      by_cases hi : i = e.info
      · simp [hi]
      · rw [if_neg hi, h.agree, he]
        simp [Ne.symm hi]
    · rw [if_neg hj, ← h.agree]
      split
      · rename_i hi
        subst i
        rw [h.agree.mpr ⟨e, he, rfl⟩]
        simp [Ne.symm hj]
      · rfl

theorem size_eq (h : Indexed entries infos) : infos.size = entries.size := by
  have hnodup : (infos.toList.map (·.2)).Nodup := by
    refine List.Nodup.map_on ?_ (List.Nodup.of_map _ infos.keys_nodup)
    rintro ⟨i, id⟩ hi ⟨i', id'⟩ hi' rfl
    obtain ⟨e, he, rfl⟩ := h.agree.mp (SortedMap.mem_toList_iff.mp hi)
    obtain ⟨e', he', rfl⟩ := h.agree.mp (SortedMap.mem_toList_iff.mp hi')
    rw [Option.some.inj (he.symm.trans he')]
  have hperm : (infos.toList.map (·.2)).Perm entries.keys := by
    refine (List.perm_ext_iff_of_nodup hnodup entries.keys_nodup).mpr fun id => ?_
    rw [List.mem_map, SortedMap.mem_keys_iff]
    constructor
    · rintro ⟨⟨i, id⟩, hi, rfl⟩
      obtain ⟨e, he, _⟩ := h.agree.mp (SortedMap.mem_toList_iff.mp hi)
      exact ⟨e, he⟩
    · rintro ⟨e, he⟩
      exact ⟨(e.info, id), SortedMap.mem_toList_iff.mpr (h.agree.mpr ⟨e, he, rfl⟩), rfl⟩
  have hlength := hperm.length_eq
  rwa [List.length_map, SortedMap.keys, List.length_map] at hlength

theorem change (hc : Change cls b c) (h : Indexed b.entries b.infos) :
    Indexed c.entries c.infos := by
  cases hc with
  | lease acquirer started registered free => exact h.update registered rfl
  | endLease registered busy popped => exact h.update registered rfl
  | adopt handle fresh unknown owned permitted =>
    exact h.adopt (e := { handle, info := _, holder := _ }) fresh unknown
  | forget registered idle => exact h.forget registered
  | clear => exact empty
  | popInVain | classes | owners | access | accept | note | world | clock => exact h

theorem changes (h : Indexed b.entries b.infos) (hc : Changes cls b c) :
    Indexed c.entries c.infos :=
  hc.preserve (P := fun b => Indexed b.entries b.infos) (fun hc hb => hb.change hc) h

end Indexed

/-! ### Owners -/

def Owned (entries : SortedMap DeviceId (Entry K H)) (owners : SortedMap DeviceId K) : Prop :=
  entries.All fun id _ => ∃ k, owners.get? id = some k

theorem Owned.deed (hd : Deed cls b c) (h : Owned b.entries b.owners) :
    Owned c.entries c.owners := by
  cases hd with
  | lease acquirer started registered free => exact SortedMap.All.insert h (h _ _ registered)
  | endLease registered busy popped => exact SortedMap.All.insert h (h _ _ registered)
  | adopt adoptable given unknown => exact SortedMap.All.insert h ⟨_, adoptable.owned⟩
  | forget registered idle =>
    rw [abandon_toRegistry]
    exact SortedMap.All.erase h _
  | reject =>
    rw [abandon_toRegistry]
    exact h
  | popInVain | decline | access | note | clock => exact h

/-- After a rescan every registered device has an owner, whatever had one before. -/
theorem Accounted.rescan_owned (h : Accounted b.entries b.ledger) (cls : DeviceClasses W K H) :
    Owned (b.rescan cls).2.entries (b.rescan cls).2.owners := by
  intro id e he
  have hexpected : b.Expected cls id :=
    h.expected_of_registered (mem_devices_iff.mpr ⟨e, he⟩)
  rw [rescan_owners]
  exact (scan_owned cls b id).mpr hexpected.1

end Broker

namespace Pool
variable {W K H : Type} {cls : DeviceClasses W K H}

theorem Reachable.indexed {p : Pool W K H} (hp : Reachable cls p) :
    Broker.Indexed p.broker.entries p.broker.infos :=
  hp.preserve (P := fun b => Broker.Indexed b.entries b.infos) (fun _ _ => .empty)
    (fun hc h => h.change hc)

theorem Reachable.owned {p : Pool W K H} (hp : Reachable cls p) :
    Broker.Owned p.broker.entries p.broker.owners := by
  induction hp with
  | start => exact SortedMap.All.empty
  | @step p action hp ih =>
    have heffect := step_effect cls p action
    generalize (p.step cls action).2.broker = c at heffect
    cases heffect with
    | register | world => exact ih
    | rescan => exact hp.accounted.rescan_owned cls
    | reset => exact SortedMap.All.empty
    | deeds deeds =>
      exact deeds.preserve (P := fun b => Broker.Owned b.entries b.owners)
        (fun hd h => h.deed hd) ih

theorem info_eq_ok_iff {b : Broker W K H} {id : DeviceId} {info : DeviceInfo} :
    b.info id = .ok info ↔ ∃ e, b.entries.get? id = some e ∧ e.info = info := by
  unfold Broker.info Broker.entry
  cases b.entries.get? id <;> simp [Except.map]

/-- The index of infos finds a device by an info exactly if it is registered with that info. So no
two devices have the same info, and both indexes have the same size. Every registered device has
an owner in the map that the last scan built. -/
theorem indexes_agree {p : Pool W K H} (hp : Reachable cls p) :
    (∀ info id, p.broker.infos.get? info = some id ↔ p.broker.info id = .ok info) ∧
    (∀ info id id', p.broker.info id = .ok info → p.broker.info id' = .ok info → id = id') ∧
    p.broker.infos.size = p.broker.entries.size ∧
    (∀ id ∈ p.broker.devices, ∃ k, p.broker.owners.get? id = some k) := by
  have h := hp.indexed
  refine ⟨fun info id => h.agree.trans info_eq_ok_iff.symm, ?_, h.size_eq, ?_⟩
  · intro info id id' hid hid'
    obtain ⟨e, he, hinfo⟩ := info_eq_ok_iff.mp hid
    obtain ⟨e', he', hinfo'⟩ := info_eq_ok_iff.mp hid'
    exact h.eq_of_info he he' (hinfo.trans hinfo'.symm)
  · intro id hid
    obtain ⟨e, he⟩ := Broker.mem_devices_iff.mp hid
    exact hp.owned id e he

/-- A pool whose only class gives `B` the info that `A` has, and to both of them another
identifier. -/
def doubled : Pool Bench DeviceClass Handle :=
  let script : ScriptedFamily :=
    { scans := [.ok ["A", "B", "C"]]
      infos := .ofList [("A", { id := "X" }), ("B", { id := "X" })] }
  Pool.run Bench.classes ⟨.start (({} : Bench).setScripted 0 script) {}, []⟩
    [.register ⟨"script", .exclusive, .scripted 0⟩, .rescan]

theorem doubled_reachable : Reachable Bench.classes doubled :=
  (Reachable.start _ _).run _

theorem indexes_agree_doubled :
    doubled.broker.devices = ["A", "C"] ∧
    doubled.broker.info "A" = .ok { id := "X" } ∧
    doubled.broker.infos.get? { id := "X" } = some "A" ∧
    doubled.broker.infos.size = 2 ∧
    (∃ k, doubled.broker.owners.get? "C" = some k) := by
  have hdevices : doubled.broker.devices = ["A", "C"] := by decide +kernel
  have hinfo : doubled.broker.info "A" = .ok { id := "X" } := rfl
  have hsize : doubled.broker.entries.size = 2 := by decide +kernel
  obtain ⟨hindex, _, hsizes, howned⟩ := indexes_agree doubled_reachable
  exact ⟨hdevices, hinfo, (hindex _ _).mpr hinfo, hsizes.trans hsize,
    howned "C" (by rw [hdevices]; decide)⟩

end Pool

end LeaseBroker
