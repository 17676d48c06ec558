import LeaseBroker.Broker.Reconcile
import LeaseBroker.Proofs.LedgerCounts
import Mathlib.Logic.Relation

/-!
# Operations as sequences of small changes

Whatever an operation does to a broker, refused or not, it does by small changes of a few kinds,
each of which keeps the entries, the index of infos and the ledger in step. A deed is made of such
changes and names in addition the call of a class that it comes from. Both are only listed here,
together with the paths of the operations on leases; what they preserve is proved elsewhere, once
for each kind.
-/

set_option autoImplicit false

namespace LeaseBroker

def Notice.AboutLease : Notice → Prop
  | .acquired .. | .released .. => True
  | _ => False

namespace Broker
variable {W K H : Type}

def leased (b : Broker W K H) (id : DeviceId) (e : Entry K H) (acquirer : Acquirer)
    (started : Moment) : Broker W K H :=
  { b with
    entries := b.entries.insert id { e with leases := e.leases + 1 }
    ledger := b.ledger.record acquirer id b.now }.note (.acquired id acquirer (b.now - started))

/-- The broker after a lease that began at `since` has ended and left the given ledger. -/
def unleased (b : Broker W K H) (id : DeviceId) (e : Entry K H) (holder : Acquirer)
    (since : Moment) (ledger : Ledger) : Broker W K H :=
  { b with entries := b.entries.insert id { e with leases := e.leases - 1 }, ledger }.note
    (.released id holder (b.now - since))

/-- A single step in the life of a broker. -/
inductive Change (cls : DeviceClasses W K H) : Broker W K H → Broker W K H → Prop where
  | lease {b : Broker W K H} {id : DeviceId} {e : Entry K H} (acquirer : Acquirer)
      (started : Moment) (registered : b.entries.get? id = some e)
      (free : b.isFree cls e = true) : Change cls b (b.leased id e acquirer started)
  | endLease {b : Broker W K H} {id : DeviceId} {e : Entry K H} {holder : Acquirer}
      {since : Moment} {ledger : Ledger} (registered : b.entries.get? id = some e)
      (busy : e.leases ≠ 0) (popped : b.ledger.pop holder id = (some since, ledger)) :
      Change cls b (b.unleased id e holder since ledger)
  | popInVain {b : Broker W K H} {id : DeviceId} {holder : Acquirer} {ledger : Ledger}
      (popped : b.ledger.pop holder id = (none, ledger)) : Change cls b { b with ledger }
  | adopt {b : Broker W K H} {id : DeviceId} {k : K} {info : DeviceInfo} (handle : H)
      (fresh : b.entries.get? id = none) (unknown : b.infos.get? info = none)
      (owned : b.owners.get? id = some k) (permitted : b.access.permits id = true) :
      Change cls b { b with
        entries := b.entries.insert id { handle, info, holder := k }
        infos := b.infos.insert info id }
  | forget {b : Broker W K H} {id : DeviceId} {e : Entry K H}
      (registered : b.entries.get? id = some e) (idle : e.leases = 0) :
      Change cls b { b with entries := b.entries.erase id, infos := b.infos.erase e.info }
  | clear (b : Broker W K H) : Change cls b { b with entries := ∅, infos := ∅, ledger := {} }
  | classes (b : Broker W K H) (classes : List K) : Change cls b { b with classes }
  | owners (b : Broker W K H) (owners : SortedMap DeviceId K) : Change cls b { b with owners }
  | access (b : Broker W K H) (access : AccessLists) : Change cls b { b with access }
  | accept {α : Type} (b : Broker W K H) (reply : Reply W α) : Change cls b (b.accept reply)
  | note (b : Broker W K H) (notice : Notice) : Change cls b (b.note notice)
  | world (b : Broker W K H) (world : W) : Change cls b { b with world }
  | clock (b : Broker W K H) (now : Moment) : Change cls b { b with now }

abbrev Changes (cls : DeviceClasses W K H) : Broker W K H → Broker W K H → Prop :=
  Relation.ReflTransGen (Change cls)

theorem Changes.preserve {cls : DeviceClasses W K H} {P : Broker W K H → Prop}
    (step : ∀ {b c : Broker W K H}, Change cls b c → P b → P c) {b c : Broker W K H}
    (hc : Changes cls b c) (hb : P b) : P c := by
  induction hc with
  | refl => exact hb
  | tail _ h ih => exact step h ih

/-! ### Giving a device back -/

section Abandoning
variable (cls : DeviceClasses W K H) (b : Broker W K H) (id : DeviceId) (k : K) (info : DeviceInfo)
  (handle : H)

theorem abandon_cases :
    (b.abandon cls id k info handle = b.accept (cls.abandon k info handle b.world)) ∨
    (∃ plugin error, b.abandon cls id k info handle =
      (b.accept (cls.abandon k info handle b.world)).note (.abandonFailed id plugin error)) := by
  unfold abandon
  dsimp only
  split
  · exact Or.inl rfl
  · exact Or.inr ⟨_, _, rfl⟩

@[simp] theorem abandon_toRegistry :
    (b.abandon cls id k info handle).toRegistry = b.toRegistry := by
  rcases abandon_cases cls b id k info handle with h | ⟨_, _, h⟩ <;> rw [h] <;> rfl

@[simp] theorem abandon_world :
    (b.abandon cls id k info handle).world = (cls.abandon k info handle b.world).world := by
  rcases abandon_cases cls b id k info handle with h | ⟨_, _, h⟩ <;> rw [h] <;> rfl

theorem abandon_changes : Changes cls b (b.abandon cls id k info handle) := by
  have hreply : Changes cls b (b.accept (cls.abandon k info handle b.world)) :=
    .single (.accept _ _)
  rcases abandon_cases cls b id k info handle with h | ⟨_, _, h⟩ <;> rw [h]
  · exact hreply
  · exact hreply.tail (.note _ _)

end Abandoning

/-! ### Deeds -/

/-- Whether a device may be asked of a class: the class owns its identifier, which is permitted and
not registered yet. -/
structure Adoptable (b : Broker W K H) (id : DeviceId) (k : K) : Prop where
  fresh : b.entries.get? id = none
  owned : b.owners.get? id = some k
  permitted : b.access.permits id = true

def adopted (b : Broker W K H) (reply : Reply W (H × DeviceInfo)) (id : DeviceId) (k : K)
    (handle : H) (info : DeviceInfo) : Broker W K H :=
  { b.accept reply with
    entries := b.entries.insert id { handle, info, holder := k }
    infos := b.infos.insert info id }

def struckOff (b : Broker W K H) (id : DeviceId) (e : Entry K H) : Broker W K H :=
  { b with entries := b.entries.erase id, infos := b.infos.erase e.info }

/-- What a broker does at a time while it knows its classes and their devices. Calls of classes are
part of the deeds that they belong to. -/
inductive Deed (cls : DeviceClasses W K H) : Broker W K H → Broker W K H → Prop where
  | lease {b : Broker W K H} {id : DeviceId} {e : Entry K H} (acquirer : Acquirer)
      (started : Moment) (registered : b.entries.get? id = some e)
      (free : b.isFree cls e = true) : Deed cls b (b.leased id e acquirer started)
  | endLease {b : Broker W K H} {id : DeviceId} {e : Entry K H} {holder : Acquirer}
      {since : Moment} {ledger : Ledger} (registered : b.entries.get? id = some e)
      (busy : e.leases ≠ 0) (popped : b.ledger.pop holder id = (some since, ledger)) :
      Deed cls b (b.unleased id e holder since ledger)
  | popInVain {b : Broker W K H} {id : DeviceId} {holder : Acquirer} {ledger : Ledger}
      (popped : b.ledger.pop holder id = (none, ledger)) : Deed cls b { b with ledger }
  | adopt {b : Broker W K H} {id : DeviceId} {k : K} {handle : H} {info : DeviceInfo}
      (adoptable : b.Adoptable id k)
      (given : (cls.adopt k id b.world).answer = .ok (handle, info))
      (unknown : b.infos.get? info = none) :
      Deed cls b (b.adopted (cls.adopt k id b.world) id k handle info)
  | decline {b : Broker W K H} {id : DeviceId} {k : K} {fault : Fault}
      (adoptable : b.Adoptable id k)
      (declined : (cls.adopt k id b.world).answer = .error fault) :
      Deed cls b (b.accept (cls.adopt k id b.world))
  | reject {b : Broker W K H} {id other : DeviceId} {k : K} {handle : H} {info : DeviceInfo}
      (adoptable : b.Adoptable id k)
      (given : (cls.adopt k id b.world).answer = .ok (handle, info))
      (known : b.infos.get? info = some other) :
      Deed cls b ((b.accept (cls.adopt k id b.world)).abandon cls id k info handle)
  | forget {b : Broker W K H} {id : DeviceId} {e : Entry K H}
      (registered : b.entries.get? id = some e) (idle : e.leases = 0) :
      Deed cls b ((b.struckOff id e).abandon cls id e.holder e.info e.handle)
  | access (b : Broker W K H) (access : AccessLists) : Deed cls b { b with access }
  | note (b : Broker W K H) {notice : Notice} (quiet : ¬ notice.AboutLease) :
      Deed cls b (b.note notice)
  | clock (b : Broker W K H) (now : Moment) : Deed cls b { b with now }

abbrev Deeds (cls : DeviceClasses W K H) : Broker W K H → Broker W K H → Prop :=
  Relation.ReflTransGen (Deed cls)

theorem Deeds.preserve {cls : DeviceClasses W K H} {P : Broker W K H → Prop}
    (deed : ∀ {b c : Broker W K H}, Deed cls b c → P b → P c) {b c : Broker W K H}
    (hc : Deeds cls b c) (hb : P b) : P c := by
  induction hc with
  | refl => exact hb
  | tail _ h ih => exact deed h ih

theorem Deed.changes {cls : DeviceClasses W K H} {b c : Broker W K H} (h : Deed cls b c) :
    Changes cls b c := by
  cases h with
  | lease acquirer started registered free =>
    exact .single (.lease acquirer started registered free)
  | endLease registered busy popped => exact .single (.endLease registered busy popped)
  | popInVain popped => exact .single (.popInVain popped)
  | @adopt id k handle info adoptable given unknown =>
    have hreply : Changes cls b (b.accept (cls.adopt k id b.world)) := .single (.accept _ _)
    exact hreply.tail
      (.adopt handle adoptable.fresh unknown adoptable.owned adoptable.permitted)
  | decline adoptable declined => exact .single (.accept _ _)
  | reject adoptable given known =>
    exact .head (.accept _ _) (abandon_changes cls _ _ _ _ _)
  | forget registered idle =>
    exact .head (.forget registered idle) (abandon_changes cls _ _ _ _ _)
  | access => exact .single (.access _ _)
  | note => exact .single (.note _ _)
  | clock => exact .single (.clock _ _)

theorem Deeds.changes {cls : DeviceClasses W K H} {b c : Broker W K H} (h : Deeds cls b c) :
    Changes cls b c :=
  h.preserve (fun hd hb => hb.trans hd.changes) .refl

theorem Deeds.owners {cls : DeviceClasses W K H} {b c : Broker W K H} (h : Deeds cls b c) :
    c.owners = b.owners := by
  refine h.preserve (P := fun c => c.owners = b.owners) (fun hd hb => ?_) rfl
  cases hd with
  | reject | forget =>
    rw [abandon_toRegistry]
    exact hb
  | _ => exact hb

theorem Deeds.classes {cls : DeviceClasses W K H} {b c : Broker W K H} (h : Deeds cls b c) :
    c.classes = b.classes := by
  refine h.preserve (P := fun c => c.classes = b.classes) (fun hd hb => ?_) rfl
  cases hd with
  | reject | forget =>
    rw [abandon_toRegistry]
    exact hb
  | _ => exact hb

/-! ### Leasing -/

section Leasing
variable (cls : DeviceClasses W K H) (b : Broker W K H)

theorem choose_mem (first : DeviceId) (rest : List DeviceId) (pick : Nat) :
    choose first rest pick ∈ first :: rest :=
  List.getElem_mem _

theorem mem_matching_iff {criteria : Criteria} {id : DeviceId} :
    id ∈ b.matching cls criteria ↔ ∃ e, b.entries.get? id = some e ∧
      criteria.matchesInfo e.info = true ∧
      criteria.matchesAvailability (b.isFree cls e) = true := by
  simp only [matching, selected, SortedMap.mem_keys_iff, SortedMap.get?_filter_eq_some_iff,
    Bool.and_eq_true]

theorem mem_matchingFree_iff {criteria : Criteria} {id : DeviceId} :
    id ∈ b.matchingFree cls criteria ↔ ∃ e, b.entries.get? id = some e ∧
      criteria.matchesInfo e.info = true ∧ criteria.matchesAvailability true = true ∧
      b.isFree cls e = true := by
  simp only [matchingFree, selected, SortedMap.mem_keys_iff, SortedMap.get?_filter_eq_some_iff,
    Bool.and_eq_true]
  constructor
  · rintro ⟨e, ⟨he, hi, ha⟩, hf⟩
    exact ⟨e, he, hi, hf ▸ ha, hf⟩
  · rintro ⟨e, he, hi, ha, hf⟩
    exact ⟨e, ⟨he, hi, hf ▸ ha⟩, hf⟩

theorem lease_cases (criteria : Criteria) (acquirer : Acquirer) (started : Moment) (pick : Nat) :
    (b.matching cls criteria = [] ∧
      b.lease cls criteria acquirer started pick = (.error .noMatch, b)) ∨
    (b.matching cls criteria ≠ [] ∧ b.matchingFree cls criteria = [] ∧
      b.lease cls criteria acquirer started pick = (.error .unavailable, b)) ∨
    (∃ id e, id ∈ b.matchingFree cls criteria ∧ b.entries.get? id = some e ∧
      b.isFree cls e = true ∧
      b.lease cls criteria acquirer started pick = (.ok id, b.leased id e acquirer started)) := by
  unfold lease
  by_cases hm : b.matching cls criteria = []
  · exact Or.inl ⟨hm, if_pos hm⟩
  rw [if_neg hm]
  cases hf : b.matchingFree cls criteria with
  | nil => exact Or.inr (Or.inl ⟨hm, rfl, rfl⟩)
  | cons first rest =>
    have hmem : choose first rest pick ∈ b.matchingFree cls criteria :=
      hf ▸ choose_mem first rest pick
    obtain ⟨e, he, _, _, hfree⟩ := (mem_matchingFree_iff cls b).mp hmem
    refine Or.inr (Or.inr ⟨choose first rest pick, e, hf ▸ hmem, he, hfree, ?_⟩)
    simp only [he]
    rfl

theorem lease_deeds (criteria : Criteria) (acquirer : Acquirer) (started : Moment)
    (pick : Nat) : Deeds cls b (b.lease cls criteria acquirer started pick).2 := by
  rcases lease_cases cls b criteria acquirer started pick with
    ⟨_, h⟩ | ⟨_, _, h⟩ | ⟨id, e, _, he, hf, h⟩
  · rw [h]
  · rw [h]
  · rw [h]
    exact .single (.lease acquirer started he hf)

end Leasing

/-! ### Releasing -/

/-- Ending a lease is refused at once, is refused since the ledger has nothing to pop, or takes the
newest lease of its holder. -/
theorem endLease_cases (b : Broker W K H) (id : DeviceId) (acquirer : Option Acquirer) :
    (∃ r, b.endLease id acquirer = (.error r, b)) ∨
    (∃ r holder ledger, b.ledger.pop holder id = (none, ledger) ∧
      b.endLease id acquirer = (.error r, { b with ledger })) ∨
    (∃ e holder since ledger, b.entries.get? id = some e ∧ e.leases ≠ 0 ∧
      (acquirer <|> b.ledger.holderOf? id) = some holder ∧
      b.ledger.pop holder id = (some since, ledger) ∧
      b.endLease id acquirer = (.ok holder, b.unleased id e holder since ledger)) := by
  unfold endLease
  cases he : b.entries.get? id with
  | none => exact Or.inl ⟨_, rfl⟩
  | some e =>
    by_cases h0 : e.leases = 0
    · exact Or.inl ⟨_, if_pos h0⟩
    simp only [if_neg h0]
    cases hh : acquirer <|> b.ledger.holderOf? id with
    | none => exact Or.inl ⟨_, rfl⟩
    | some holder =>
      refine Or.inr ?_
      rcases hp : b.ledger.pop holder id with ⟨_ | since, ledger⟩
      · exact Or.inl ⟨.notLeased id (some holder), holder, ledger, hp, by simp only [hp]⟩
      · refine Or.inr ⟨e, holder, since, ledger, rfl, h0, rfl, hp, ?_⟩
        simp only [hp]
        rfl

theorem endLease_access (b : Broker W K H) (id : DeviceId) (acquirer : Option Acquirer) :
    (b.endLease id acquirer).2.access = b.access := by
  rcases endLease_cases b id acquirer with
    ⟨_, h⟩ | ⟨_, _, _, _, h⟩ | ⟨_, _, _, _, _, _, _, _, h⟩ <;> rw [h]
  rfl

theorem endLease_world (b : Broker W K H) (id : DeviceId) (acquirer : Option Acquirer) :
    (b.endLease id acquirer).2.world = b.world := by
  rcases endLease_cases b id acquirer with
    ⟨_, h⟩ | ⟨_, _, _, _, h⟩ | ⟨_, _, _, _, _, _, _, _, h⟩ <;> rw [h]
  rfl

section Releasing
variable (cls : DeviceClasses W K H) (b : Broker W K H)

theorem endLease_deeds (id : DeviceId) (acquirer : Option Acquirer) :
    Deeds cls b (b.endLease id acquirer).2 := by
  rcases endLease_cases b id acquirer with
    ⟨r, h⟩ | ⟨r, holder, ledger, hp, h⟩ | ⟨e, holder, since, ledger, he, h0, _, hp, h⟩
  · rw [h]
  · rw [h]
    exact .single (.popInVain hp)
  · rw [h]
    exact .single (.endLease he h0 hp)

theorem release_snd (id : DeviceId) (acquirer : Acquirer) :
    (b.release id acquirer).2 = (b.endLease id (some acquirer)).2 := by
  unfold release
  split <;> rename_i h <;> rw [h]

variable {b} in
theorem releaseEach_preserve {P : Broker W K H → Prop} (acquirer : Acquirer)
    (ended : ∀ (c : Broker W K H) (id : DeviceId), P c → P (c.endLease id (some acquirer)).2)
    (ids : List DeviceId) (hb : P b) : P (b.releaseEach acquirer ids).2 := by
  induction ids generalizing b with
  | nil => exact hb
  | cons id rest ih =>
    have hfirst := ended b id hb
    unfold releaseEach
    split <;> rename_i h <;> rw [h] at hfirst
    · exact ih hfirst
    · exact hfirst

variable {b} in
theorem releaseAll_preserve {P : Broker W K H → Prop} (acquirer : Acquirer)
    (ended : ∀ (c : Broker W K H) (id : DeviceId), P c → P (c.endLease id (some acquirer)).2)
    (hb : P b) : P (b.releaseAll acquirer).2 := by
  unfold releaseAll
  split
  · exact hb
  · rename_i id rest _
    have hall := releaseEach_preserve acquirer ended (id :: rest) hb
    split <;> rename_i h <;> rwa [h] at hall

variable {b} in
theorem releaseTimes_preserve {P : Broker W K H → Prop} (id : DeviceId)
    (ended : ∀ c : Broker W K H, P c → P (c.endLease id none).2) (n : Nat) (hb : P b) :
    P (b.releaseTimes id n).2 := by
  induction n generalizing b with
  | zero => exact hb
  | succ n ih =>
    have hfirst := ended b hb
    unfold releaseTimes
    split <;> rename_i h <;> rw [h] at hfirst
    · exact ih hfirst
    · exact hfirst

theorem releaseAll_deeds (acquirer : Acquirer) : Deeds cls b (b.releaseAll acquirer).2 :=
  releaseAll_preserve (P := Deeds cls b) acquirer
    (fun c id hc => hc.trans (endLease_deeds cls c id (some acquirer))) .refl

theorem releaseTimes_deeds (id : DeviceId) (n : Nat) : Deeds cls b (b.releaseTimes id n).2 :=
  releaseTimes_preserve (P := Deeds cls b) id
    (fun c hc => hc.trans (endLease_deeds cls c id none)) n .refl

end Releasing

end Broker

end LeaseBroker
