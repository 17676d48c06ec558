import LeaseBroker.Proofs.Filtering
import LeaseBroker.Proofs.Holders
import LeaseBroker.Proofs.Rebuilding

/-!
# Devices are registered under their own identifiers

A class may give any info for an identifier, but the built-in families that keep a set never give
one of another device. A simulated family has its catalogue under the identifiers of the infos,
however often devices are plugged in and out, and makes up an info for a device that is not in it.
A serial family makes up every info. So infos never collide, whoever owns a device and whatever has
been registered in its place before.
-/

set_option autoImplicit false

namespace LeaseBroker

namespace Broker

section Known
variable {W K H : Type} {cls : DeviceClasses W K H} {b c : Broker W K H} {P : K → Prop}

structure Known (P : K → Prop) (r : Registry K H) : Prop where
  classes : ∀ k ∈ r.classes, P k
  owners : r.owners.All fun _ k => P k

namespace Known

theorem start (world : W) (access : AccessLists) :
    Known P (Broker.start (K := K) (H := H) world access).toRegistry where
  classes := nofun
  owners := SortedMap.All.empty

theorem register {k : K} (hk : P k) (h : Known P b.toRegistry) :
    Known P (b.register cls k).toRegistry where
  classes := by
    intro j hj
    rcases List.mem_append.mp hj with hj | hj
    · exact h.classes j hj
    · rw [List.mem_singleton.mp hj]
      exact hk
  owners := h.owners

theorem scan (h : Known P b.toRegistry) : Known P (b.scan cls).toRegistry := by
  apply scan_preserve (P := fun c => Known P c.toRegistry)
  · exact ⟨h.classes, SortedMap.All.empty⟩
  · exact fun _ _ _ hc => hc
  · exact fun _ _ _ hk hc => ⟨hc.classes, hc.owners.insert (h.classes _ hk)⟩
  · exact fun _ _ _ hc => hc

theorem deed (hd : Deed cls b c) (h : Known P b.toRegistry) : Known P c.toRegistry := by
  have hdeeds : Deeds cls b c := .single hd
  constructor
  · rw [hdeeds.classes]
    exact h.classes
  · rw [hdeeds.owners]
    exact h.owners

end Known

end Known

end Broker

theorem Pool.ReachableUnder.known {W K H : Type} {cls : DeviceClasses W K H} {starts : W → Prop}
    {admits : W → Action W K → Prop} {P : K → Prop} {p : Pool W K H}
    (hregister : ∀ (w : W) (k : K), admits w (.register k) → P k)
    (hp : ReachableUnder cls starts admits p) : Broker.Known P p.broker.toRegistry := by
  apply hp.preserve (P := fun b => Broker.Known P b.toRegistry)
  · exact fun {world} access _ => .start world access
  · exact fun hk h => h.register (hregister _ _ hk)
  · exact fun h => h.scan
  · intro b _ h
    obtain ⟨log, hlog⟩ := b.reset_eq
    rw [hlog]
    exact ⟨h.classes, h.owners⟩
  · exact fun _ h => ⟨h.classes, h.owners⟩
  · exact fun hd h => h.deed hd

theorem Criteria.matchesInfo_concat {c : Criteria} {field : Field} {pattern : Pattern}
    {info : DeviceInfo} :
    ({ c with patterns := c.patterns ++ [(field, pattern)] } : Criteria).matchesInfo info = true ↔
      c.matchesInfo info = true ∧ pattern.isMatch (field.value info) = true := by
  simp only [matchesInfo, List.all_append, List.all_cons, List.all_nil, Bool.and_true,
    Bool.and_eq_true]

/-! ### What happens on a bench -/

namespace SimulatedFamily
variable {s : SimulatedFamily}

theorem Keyed.unplug (h : s.Keyed) (id : DeviceId) : (s.unplug id).Keyed := h

theorem Keyed.setPresent (h : s.Keyed) (ids : List DeviceId) : (s.setPresent ids).Keyed := h

end SimulatedFamily

namespace Bench
variable {w later : Bench}

def alter (w : Bench) (slot : Nat) (f : SimulatedFamily → SimulatedFamily) : Bench :=
  { w with simulated := w.simulated.insert slot (f (w.simulatedAt slot)) }

/-- What can happen on a bench behind the back of the broker: devices are plugged in, unplugged or
marked as present, links come and go, and calls begin or cease to fail. -/
inductive Turn (w : Bench) : Bench → Prop where
  | plug (slot : Nat) (info : DeviceInfo) : Turn w (w.alter slot (·.plug info))
  | unplug (slot : Nat) (id : DeviceId) : Turn w (w.alter slot (·.unplug id))
  | setPresent (slot : Nat) (ids : List DeviceId) : Turn w (w.alter slot (·.setPresent ids))
  | relink (directories : SortedMap String LinkDirectory) : Turn w { w with directories }
  | replan (plans : SortedMap Nat FaultPlan) : Turn w { w with plans }

/-- Whether every catalogue is what plugging devices in one after another has left. -/
def Stocked (w : Bench) : Prop :=
  ∀ slot, ∃ devices,
    (w.simulatedAt slot).catalogue = (SimulatedFamily.ofDevices devices).catalogue

def Keyed (w : Bench) : Prop := ∀ slot, (w.simulatedAt slot).Keyed

theorem simulatedAt_alter (w : Bench) (slot other : Nat) (f : SimulatedFamily → SimulatedFamily) :
    (w.alter slot f).simulatedAt other =
      if other = slot then f (w.simulatedAt slot) else w.simulatedAt other := by
  simp only [simulatedAt, alter, SortedMap.get?_insert]
  split <;> rfl

theorem Stocked.keyed (h : w.Stocked) : w.Keyed := by
  intro slot
  obtain ⟨devices, hdevices⟩ := h slot
  rw [SimulatedFamily.Keyed, hdevices]
  exact SimulatedFamily.keyed_ofDevices devices

namespace Keyed

theorem alike (h : w.Keyed) (halike : Alike w later) : later.Keyed := by
  intro slot
  rw [SimulatedFamily.Keyed, halike.catalogue]
  exact h slot

theorem alter (h : w.Keyed) (slot : Nat) {f : SimulatedFamily → SimulatedFamily}
    (hf : ∀ s : SimulatedFamily, s.Keyed → (f s).Keyed) : (w.alter slot f).Keyed := by
  intro other
  rw [simulatedAt_alter]
  split
  · exact hf _ (h slot)
  · exact h other

theorem turn (h : w.Keyed) (hturn : w.Turn later) : later.Keyed := by
  cases hturn with
  | plug slot info => exact h.alter slot fun _ hs => hs.plug info
  | unplug slot id => exact h.alter slot fun _ hs => hs.unplug id
  | setPresent slot ids => exact h.alter slot fun _ hs => hs.setPresent ids
  | relink | replan => exact h

end Keyed

theorem Turn.adoptedAt (h : w.Turn later) (place : Place) :
    later.adoptedAt place = w.adoptedAt place := by
  have haltered : ∀ (slot : Nat) {f : SimulatedFamily → SimulatedFamily},
      (∀ s, (f s).adopted = s.adopted) → (w.alter slot f).adoptedAt place = w.adoptedAt place := by
    intro slot f hf
    cases place with
    | simulated other =>
      simp only [Bench.adoptedAt, simulatedAt_alter]
      split
      · rename_i hslot
        rw [hf, hslot]
      · rfl
    | serial | scripted => rfl
  cases h with
  | plug slot | unplug slot | setPresent slot => exact haltered slot fun _ => rfl
  | relink | replan => cases place <;> rfl

/-- Whether an action makes known none but simulated and serial classes, and lets nothing happen on
the bench but one turn. -/
def BuiltIn (w : Bench) : Action Bench DeviceClass → Prop
  | .register k => k.KeepsSet
  | .world later => w.Turn later
  | _ => True

end Bench

theorem DeviceClass.labels_of_keyed {k : DeviceClass} {w : Bench} (hw : w.Keyed)
    (hk : k.KeepsSet) : k.Labels w where
  keepsSet := hk
  info_id := by
    intro later id handle info halike hgiven
    obtain ⟨name, capacity, family⟩ := k
    cases family with
    | simulated slot plan => exact info_id_of_simulated rfl (hw.alike halike slot) hgiven
    | serial slot directory => exact info_id_of_serial rfl hgiven
    | scripted slot => exact absurd rfl (hk slot)

/-! ### Every registered device has its own identifier -/

namespace Broker
variable {b c : Broker Bench DeviceClass Handle} {id : DeviceId}

theorem Deed.alike (hd : Deed Bench.classes b c) : Bench.Alike b.world c.world := by
  cases hd with
  | adopt | decline => exact Bench.adopt_alike _ _ _
  | reject =>
    rw [abandon_world]
    exact (Bench.adopt_alike _ _ _).trans (Bench.abandon_alike _ _ _ _)
  | forget =>
    rw [abandon_world]
    exact Bench.abandon_alike _ _ _ _
  | _ => exact .refl _

theorem Deeds.alike (hd : Deeds Bench.classes b c) : Bench.Alike b.world c.world :=
  hd.preserve (P := fun c => Bench.Alike b.world c.world) (fun hd h => h.trans hd.alike) (.refl _)

/-- A broker of classes that keep sets, on a bench where infos stand under their own identifiers,
that has registered every device under the identifier of its info. -/
structure Labelled (b : Broker Bench DeviceClass Handle) : Prop where
  keyed : b.world.Keyed
  known : Known DeviceClass.KeepsSet b.toRegistry
  named : b.entries.All fun id e => e.info.id = id

namespace Labelled

theorem given_id (h : b.Labelled) {k : DeviceClass} (howner : b.owners.get? id = some k)
    {handle : Handle} {info : DeviceInfo}
    (hgiven : (Bench.adopt k id b.world).answer = .ok (handle, info)) : info.id = id :=
  (DeviceClass.labels_of_keyed h.keyed (h.known.owners id k howner)).info_id (.refl _) hgiven

theorem deed (hd : Deed Bench.classes b c) (h : b.Labelled) : c.Labelled where
  keyed := h.keyed.alike hd.alike
  known := h.known.deed hd
  named := by
    cases hd with
    | lease acquirer started registered free =>
      exact SortedMap.All.insert h.named (h.named _ _ registered :)
    | endLease registered busy popped =>
      exact SortedMap.All.insert h.named (h.named _ _ registered :)
    | adopt adoptable given unknown =>
      exact SortedMap.All.insert h.named (h.given_id adoptable.owned given)
    | forget registered idle =>
      rw [abandon_toRegistry]
      exact SortedMap.All.erase h.named _
    | reject =>
      rw [abandon_toRegistry]
      exact h.named
    | popInVain | decline | access | note | clock => exact h.named

theorem scan (h : b.Labelled) : (b.scan Bench.classes).Labelled where
  keyed := h.keyed.alike b.scan_alike
  known := h.known.scan
  named := by
    rw [scan_toRegistry]
    exact h.named

theorem reaching (h : b.Labelled) (id : DeviceId) : (b.reaching Bench.classes id).2.Labelled :=
  (b.reaching_deeds Bench.classes id).preserve (fun hd h => h.deed hd) h.scan

theorem given_unknown (h : b.Labelled) (hindexed : Indexed b.entries b.infos) {k : DeviceClass}
    (hadoptable : b.Adoptable id k) {handle : Handle} {info : DeviceInfo}
    (hgiven : (Bench.adopt k id b.world).answer = .ok (handle, info)) :
    b.infos.get? info = none := by
  cases hother : b.infos.get? info with
  | none => rfl
  | some other =>
    -- It would be registered under the identifier of its info, which is that of the new one.
    obtain ⟨e, he, rfl⟩ := hindexed.agree.mp hother
    have hsame : other = id :=
      (h.named other e he).symm.trans (h.given_id hadoptable.owned hgiven)
    rw [hsame, hadoptable.fresh] at he
    cases he

/-- An owner that is asked for a device fails, or the device is registered with what it gives. -/
theorem adopt_cases (h : b.Labelled) (hindexed : Indexed b.entries b.infos) {k : DeviceClass}
    (hadoptable : b.Adoptable id k) :
    (∃ fault, (Bench.adopt k id b.world).answer = .error fault ∧
      (b.adopt Bench.classes id k).1 = .error (.adoptionFailed id (.reported fault))) ∨
    (∃ handle info, (Bench.adopt k id b.world).answer = .ok (handle, info) ∧
      b.adopt Bench.classes id k =
        (.ok (), b.adopted (Bench.adopt k id b.world) id k handle info)) := by
  rcases Broker.adopt_cases Bench.classes b id k with
    ⟨fault, hdeclined, ha⟩ | ⟨_, _, _, hgiven, hknown, _⟩ | ⟨handle, info, hgiven, _, ha⟩
  · exact Or.inl ⟨fault, hdeclined, congrArg Prod.fst ha⟩
  · rw [h.given_unknown hindexed hadoptable hgiven] at hknown
    cases hknown
  · exact Or.inr ⟨handle, info, hgiven, ha⟩

theorem add_ne_duplicate (h : b.Labelled) (hindexed : Indexed b.entries b.infos)
    (id device other : DeviceId) :
    (b.add Bench.classes id).1 ≠ .error (.adoptionFailed device (.duplicateInfo other)) := by
  rcases add_decided Bench.classes b id with
    ⟨_, ha⟩ | ⟨_, _, _, ha⟩ | ⟨_, _, _, _, _, ha⟩ |
      ⟨k, hadoptable, ⟨r, c, hadopt, ha⟩ | ⟨_, _, ha⟩⟩ <;> rw [ha]
  · exact nofun
  · exact nofun
  · exact nofun
  · rcases h.adopt_cases hindexed hadoptable with ⟨fault, _, hfault⟩ | ⟨_, _, _, hok⟩
    · rw [hadopt] at hfault
      cases hfault
      exact nofun
    · rw [hadopt] at hok
      cases hok
  · exact nofun

theorem mem_failed_iff (h : b.Labelled) (hacc : Accounted b.entries b.ledger)
    (hindexed : Indexed b.entries b.infos) : id ∈ (b.rescan Bench.classes).1.failed ↔
      ∃ k, b.Asks Bench.classes id k ∧
        ∃ fault, (Bench.adopt k id (b.reaching Bench.classes id).2.world).answer =
          .error fault := by
  constructor
  · intro hid
    obtain ⟨hfresh, hexpected⟩ := (hacc.reconciled Bench.classes).seen.mp (Or.inr hid)
    obtain ⟨k, hasks⟩ := asks_of_expected hfresh hexpected
    refine ⟨k, hasks, ?_⟩
    rcases hanswer : (Bench.adopt k id (b.reaching Bench.classes id).2.world).answer with
      fault | ⟨handle, info⟩
    · exact ⟨fault, rfl⟩
    · have hgiven : Bench.classes.given k id (b.reaching Bench.classes id).2.world = some info :=
        congrArg (fun answer => answer.toOption.map Prod.snd) hanswer
      obtain ⟨other, hknown⟩ := (hacc.mem_failed_iff hasks).mp hid info hgiven
      rw [(h.reaching id).given_unknown (hindexed.reaching id) hasks.adoptable hanswer] at hknown
      cases hknown
  · rintro ⟨k, hasks, fault, hanswer⟩
    rw [hacc.mem_failed_iff hasks]
    intro info hgiven
    have hnone : Bench.classes.given k id (b.reaching Bench.classes id).2.world = none :=
      congrArg (fun answer => answer.toOption.map Prod.snd) hanswer
    rw [hnone] at hgiven
    cases hgiven

theorem mem_matching_iff (h : b.Labelled) {criteria : Criteria} {pattern : Pattern} :
    id ∈ b.matching Bench.classes
        { criteria with patterns := criteria.patterns ++ [(.id, pattern)] } ↔
      id ∈ b.matching Bench.classes criteria ∧ pattern.isMatch id = true := by
  rw [Broker.mem_matching_iff, Broker.mem_matching_iff]
  constructor
  · rintro ⟨e, he, hinfo, hfree⟩
    obtain ⟨hothers, hid⟩ := Criteria.matchesInfo_concat.mp hinfo
    rw [Field.value.eq_def, h.named id e he] at hid
    exact ⟨⟨e, he, hothers, hfree⟩, hid⟩
  · rintro ⟨⟨e, he, hothers, hfree⟩, hid⟩
    refine ⟨e, he, Criteria.matchesInfo_concat.mpr ⟨hothers, ?_⟩, hfree⟩
    rw [Field.value.eq_def, h.named id e he]
    exact hid

end Labelled

end Broker

namespace Pool
variable {p : Pool Bench DeviceClass Handle}

theorem ReachableUnder.labelled (hp : ReachableUnder Bench.classes Bench.Stocked Bench.BuiltIn p) :
    p.broker.Labelled := by
  apply hp.preserve (P := Broker.Labelled)
  · exact fun access hworld => ⟨hworld.keyed, .start _ access, SortedMap.All.empty⟩
  · exact fun hk h => ⟨h.keyed, h.known.register hk, h.named⟩
  · exact fun h => h.scan
  · intro b _ h
    obtain ⟨log, hlog⟩ := b.reset_eq
    rw [hlog]
    exact ⟨h.keyed, ⟨h.known.classes, h.known.owners⟩, SortedMap.All.empty⟩
  · exact fun hturn h => ⟨h.keyed.turn hturn, ⟨h.known.classes, h.known.owners⟩, h.named⟩
  · exact fun hd h => h.deed hd

/-- Whatever is plugged in and out, linked or made to fail while simulated and serial classes are
asked for devices: each device is registered with an info of its own identifier, patterns for the
field `id` are tried on the identifiers of the registry, and no device is turned away for an info
that another one has, be it added or found by a rescan. A rescan fails to adopt a device exactly if
its owner fails. -/
theorem infos_never_collide
    (hp : ReachableUnder Bench.classes Bench.Stocked Bench.BuiltIn p) :
    (∀ (id : DeviceId) (info : DeviceInfo), p.broker.info id = .ok info → info.id = id) ∧
    (∀ (criteria : Criteria) (pattern : Pattern) (id : DeviceId),
      id ∈ p.broker.matching Bench.classes
          { criteria with patterns := criteria.patterns ++ [(.id, pattern)] } ↔
        id ∈ p.broker.matching Bench.classes criteria ∧ pattern.isMatch id = true) ∧
    (∀ id device other : DeviceId,
      (p.add Bench.classes id).1 ≠ .error (.adoptionFailed device (.duplicateInfo other))) ∧
    (∀ (id : DeviceId) (k : DeviceClass), p.broker.Asks Bench.classes id k →
      ∀ device other : DeviceId, ((p.broker.reaching Bench.classes id).2.adopt
        Bench.classes id k).1 ≠ .error (.adoptionFailed device (.duplicateInfo other))) ∧
    ∀ id : DeviceId, id ∈ (p.rescan Bench.classes).1.failed ↔
      ∃ k, p.broker.Asks Bench.classes id k ∧
        ∃ fault, (Bench.adopt k id (p.broker.reaching Bench.classes id).2.world).answer =
          .error fault := by
  have hlabelled := hp.labelled
  have hindexed := hp.reachable.indexed
  refine ⟨?_, ?_, ?_, ?_, ?_⟩
  · intro id info hinfo
    obtain ⟨e, he, rfl⟩ := info_eq_ok_iff.mp hinfo
    exact hlabelled.named id e he
  · intro criteria pattern id
    exact hlabelled.mem_matching_iff
  · intro id device other
    rw [add, notifying_fst]
    exact hlabelled.add_ne_duplicate hindexed id device other
  · intro id k hasks device other
    rcases (hlabelled.reaching id).adopt_cases (hindexed.reaching id) hasks.adoptable with
      ⟨fault, _, hfault⟩ | ⟨_, _, _, hok⟩
    · rw [hfault]
      exact nofun
    · rw [hok]
      exact nofun
  · intro id
    exact hlabelled.mem_failed_iff hp.reachable.accounted hindexed

def turned (p : Pool Bench DeviceClass Handle) (f : Bench → Bench) :
    Pool Bench DeviceClass Handle :=
  (p.step Bench.classes (.world (f p.broker.world))).2

theorem ReachableUnder.turned (hp : ReachableUnder Bench.classes Bench.Stocked Bench.BuiltIn p)
    {f : Bench → Bench} (hturn : ∀ w : Bench, w.Turn (f w)) :
    ReachableUnder Bench.classes Bench.Stocked Bench.BuiltIn (p.turned f) :=
  hp.step (hturn p.broker.world)

/-- A device is plugged in again with another info after the first of two classes has adopted it,
and the second one reports it as well, together with one that nobody has ever plugged in. -/
def relabelled : Pool Bench DeviceClass Handle :=
  let found := ((run Bench.classes ⟨.start {} {}, []⟩
    [.register firstPhones, .register secondPhones]).turned
      (·.alter 0 (·.plug { id := "A", kind := "phone-1" }))).run Bench.classes [.rescan]
  ((found.turned (·.alter 0 (·.plug { id := "A", kind := "phone-2" }))).turned
    (·.alter 1 (·.setPresent ["A", "Z"]))).run Bench.classes [.rescan]

theorem relabelled_reachable :
    ReachableUnder Bench.classes Bench.Stocked Bench.BuiltIn relabelled := by
  have hstart : ReachableUnder Bench.classes Bench.Stocked Bench.BuiltIn ⟨.start {} {}, []⟩ :=
    .start {} fun _ => ⟨[], rfl⟩
  have hregister : ∀ action ∈ [Action.register firstPhones, .register secondPhones], ∀ w,
      Bench.BuiltIn w action := by
    simp [Bench.BuiltIn, DeviceClass.KeepsSet, DeviceClass.place, firstPhones, secondPhones]
  have hrescan : ∀ action ∈ [(.rescan : Action Bench DeviceClass)], ∀ w,
      Bench.BuiltIn w action := by
    simp [Bench.BuiltIn]
  have hplugged := (hstart.run hregister).turned fun _ => .plug 0 { id := "A", kind := "phone-1" }
  have hagain := (hplugged.run hrescan).turned fun _ => .plug 0 { id := "A", kind := "phone-2" }
  exact (hagain.turned fun _ => .setPresent 1 ["A", "Z"]).run hrescan

/-- The first device keeps the info it was adopted with, and the second has one made up for it.
When the first is removed and added again, it comes from the second class with such an info. -/
theorem infos_never_collide_relabelled :
    relabelled.broker.info "A" = .ok { id := "A", kind := "phone-1" } ∧
    relabelled.broker.info "Z" = .ok { id := "Z", kind := "mock" } ∧
    (∀ pattern : Pattern, pattern.isMatch "Z" = true →
      "Z" ∈ relabelled.broker.matching Bench.classes { patterns := [(.id, pattern)] }) ∧
    (relabelled.run Bench.classes [.remove "A" false, .add "A"]).broker.info "A" =
      .ok { id := "A", kind := "mock" } ∧
    ∀ device other : DeviceId, (relabelled.add Bench.classes "A").1 ≠
      .error (.adoptionFailed device (.duplicateInfo other)) := by
  obtain ⟨_, hmatching, hadd, _⟩ := infos_never_collide relabelled_reachable
  refine ⟨by decide +kernel, by decide +kernel, ?_, by decide +kernel, hadd "A"⟩
  intro pattern hpattern
  exact (hmatching {} pattern "Z").mpr ⟨by decide +kernel, hpattern⟩

end Pool

end LeaseBroker
