import LeaseBroker.Proofs.Run

/-!
# The broker looks into neither worlds nor handles

Classes may act on a finer world than others and give out finer handles, of which the world and the
handles of the others are images. A broker does with the finer classes what it does with the
coarser ones, and everything that its clients can see is the same.
-/

set_option autoImplicit false

namespace LeaseBroker

namespace SortedMap
variable {α β γ : Type} [Ord α]

/-- Puts an image in the place of every value. -/
def map (g : β → γ) (m : SortedMap α β) : SortedMap α γ :=
  ⟨m.toList.map fun b => (b.1, g b.2), List.pairwise_map.mpr m.ascending⟩

variable {g : β → γ}

@[simp] theorem keys_map (m : SortedMap α β) : (m.map g).keys = m.keys := by
  simp [keys, map]

@[simp] theorem get?_map (m : SortedMap α β) (k : α) : (m.map g).get? k = (m.get? k).map g := by
  obtain ⟨bs, hs⟩ := m
  change lookup k (bs.map _) = (lookup k bs).map g
  clear hs
  induction bs with
  | nil => rfl
  | cons b rest ih =>
    obtain ⟨k', v⟩ := b
    rw [List.map_cons, lookup, lookup]
    cases compare k k' with
    | eq => rfl
    | lt | gt => exact ih

@[simp] theorem contains_map (m : SortedMap α β) (k : α) :
    (m.map g).contains k = m.contains k := by
  rw [contains, contains, get?_map, Option.isSome_map]

theorem map_insert [Std.TransOrd α] (m : SortedMap α β) (k : α) (v : β) :
    (m.map g).insert k (g v) = (m.insert k v).map g := by
  apply ext_toList
  obtain ⟨bs, hs⟩ := m
  -- Where a key goes does not depend on the values.
  change insertInto k (g v) (bs.map _) = (insertInto k v bs).map _
  clear hs
  induction bs with
  | nil => rfl
  | cons b rest ih =>
    obtain ⟨k', w⟩ := b
    rw [List.map_cons, insertInto, insertInto]
    cases compare k k' with
    | lt | eq => rfl
    | gt => exact congrArg ((k', g w) :: ·) ih

theorem map_filter (m : SortedMap α β) (p : α → γ → Bool) :
    (m.map g).filter p = (m.filter fun k v => p k (g v)).map g := by
  apply ext_toList
  change (m.toList.map _).filter _ = (m.toList.filter _).map _
  rw [List.filter_map]
  rfl

theorem map_erase (m : SortedMap α β) (k : α) : (m.map g).erase k = (m.erase k).map g :=
  map_filter m _

end SortedMap

variable {W K H W' H' : Type}

/-- The reply of a class that acts on the image of a world. -/
def Reply.image {α β : Type} (v : W' → W) (f : α → β) (reply : Reply W' α) : Reply W β :=
  ⟨reply.answer.map f, v reply.world, reply.notices⟩

/-- Whether classes do on a world and with its handles what others do on the image of the world and
with the images of the handles. -/
structure DeviceClasses.Covers (fine : DeviceClasses W' K H') (coarse : DeviceClasses W K H)
    (v : W' → W) (g : H' → H) : Prop where
  name : ∀ k, coarse.name k = fine.name k
  capacity : ∀ w k, coarse.capacity (v w) k = fine.capacity w k
  rescan : ∀ k w, coarse.rescan k (v w) = (fine.rescan k w).image v fun ids => ids
  adopt : ∀ k id w, coarse.adopt k id (v w) =
    (fine.adopt k id w).image v fun given => (g given.1, given.2)
  abandon : ∀ k info handle w, coarse.abandon k info (g handle) (v w) =
    (fine.abandon k info handle w).image v fun done => done

/-- An entry with the image of its handle. -/
def Entry.image (g : H' → H) (e : Entry K H') : Entry K H :=
  { e with handle := g e.handle }

@[simp] theorem Entry.image_leases (g : H' → H) (e : Entry K H') :
    (e.image g).leases = e.leases := rfl

namespace Broker

/-- A broker in the image of its world, with the images of its handles. -/
def image (v : W' → W) (g : H' → H) (b : Broker W' K H') : Broker W K H :=
  { b with entries := b.entries.map (Entry.image g), world := v b.world }

variable {fine : DeviceClasses W' K H'} {coarse : DeviceClasses W K H} {v : W' → W} {g : H' → H}
  (b : Broker W' K H')

@[simp] theorem image_ledger : (b.image v g).ledger = b.ledger := rfl

@[simp] theorem image_infos : (b.image v g).infos = b.infos := rfl

@[simp] theorem image_owners : (b.image v g).owners = b.owners := rfl

@[simp] theorem image_access : (b.image v g).access = b.access := rfl

@[simp] theorem get?_image (id : DeviceId) :
    (b.image v g).entries.get? id = (b.entries.get? id).map (Entry.image g) :=
  SortedMap.get?_map _ _

@[simp] theorem contains_image (id : DeviceId) :
    (b.image v g).entries.contains id = b.entries.contains id :=
  SortedMap.contains_map _ _

@[simp] theorem devices_image : (b.image v g).devices = b.devices :=
  SortedMap.keys_map _

@[simp] theorem eligible_image : (b.image v g).eligible = b.eligible := rfl

theorem accept_image {α β : Type} (reply : Reply W' α) (f : α → β) :
    (b.image v g).accept (reply.image v f) = (b.accept reply).image v g := rfl

/-! ### Leasing -/

theorem leased_image (id : DeviceId) (e : Entry K H') (acquirer : Acquirer) (started : Moment) :
    (b.image v g).leased id (e.image g) acquirer started =
      (b.leased id e acquirer started).image v g := by
  have hentries := SortedMap.map_insert (g := Entry.image g) b.entries id
    { e with leases := e.leases + 1 }
  exact congrArg (fun entries => ({ b.image v g with
    entries, ledger := b.ledger.record acquirer id b.now } : Broker W K H).note
      (.acquired id acquirer (b.now - started))) hentries

section Leasing
variable (h : fine.Covers coarse v g)
include h

theorem isFree_image (e : Entry K H') : (b.image v g).isFree coarse (e.image g) = b.isFree fine e :=
  congrArg (fun c : Capacity => c.admits e.leases) (h.capacity b.world e.holder)

theorem selected_image (criteria : Criteria) :
    (b.image v g).selected coarse criteria = (b.selected fine criteria).map (Entry.image g) := by
  refine (SortedMap.map_filter _ _).trans ?_
  simp only [isFree_image b h]
  rfl

theorem matching_image (criteria : Criteria) :
    (b.image v g).matching coarse criteria = b.matching fine criteria := by
  rw [matching, selected_image b h, SortedMap.keys_map]
  rfl

theorem matchingFree_image (criteria : Criteria) :
    (b.image v g).matchingFree coarse criteria = b.matchingFree fine criteria := by
  rw [matchingFree, selected_image b h, SortedMap.map_filter, SortedMap.keys_map]
  simp only [isFree_image b h]
  rfl

theorem lease_image (criteria : Criteria) (acquirer : Acquirer) (started : Moment) (pick : Nat) :
    (b.image v g).lease coarse criteria acquirer started pick =
      (b.lease fine criteria acquirer started pick).map (fun r => r) (image v g) := by
  unfold lease
  rw [matching_image b h, matchingFree_image b h]
  split
  · rfl
  · split
    · rfl
    · rename_i first rest _
      simp only [get?_image]
      cases b.entries.get? (choose first rest pick) with
      | none => rfl
      | some e => exact congrArg (Prod.mk _) (b.leased_image _ e acquirer started)

end Leasing

/-! ### Releasing -/

theorem unleased_image (id : DeviceId) (e : Entry K H') (holder : Acquirer) (since : Moment)
    (ledger : Ledger) : (b.image v g).unleased id (e.image g) holder since ledger =
      (b.unleased id e holder since ledger).image v g := by
  have hentries := SortedMap.map_insert (g := Entry.image g) b.entries id
    { e with leases := e.leases - 1 }
  exact congrArg (fun entries => ({ b.image v g with entries, ledger } : Broker W K H).note
    (.released id holder (b.now - since))) hentries

theorem endLease_image (id : DeviceId) (acquirer : Option Acquirer) :
    (b.image v g).endLease id acquirer = (b.endLease id acquirer).map (fun r => r) (image v g) := by
  unfold endLease
  simp only [get?_image, image_ledger]
  cases b.entries.get? id with
  | none => rfl
  | some e =>
    simp only [Option.map_some, Entry.image_leases]
    by_cases h0 : e.leases = 0
    · simp only [h0, if_true]
      rfl
    · simp only [h0, if_false]
      cases acquirer <|> b.ledger.holderOf? id with
      | none => rfl
      | some holder =>
        rcases hp : b.ledger.pop holder id with ⟨_ | since, ledger⟩
        · simp only [hp]
          rfl
        · simp only [hp]
          exact congrArg (Prod.mk _) (b.unleased_image id e holder since ledger)

theorem release_image (id : DeviceId) (acquirer : Acquirer) :
    (b.image v g).release id acquirer = (b.release id acquirer).map (fun r => r) (image v g) := by
  unfold release
  rw [endLease_image]
  rcases b.endLease id (some acquirer) with ⟨_ | _, _⟩ <;> rfl

theorem releaseEach_image (acquirer : Acquirer) (ids : List DeviceId) :
    (b.image v g).releaseEach acquirer ids =
      (b.releaseEach acquirer ids).map (fun r => r) (image v g) := by
  induction ids generalizing b with
  | nil => rfl
  | cons id rest ih =>
    unfold releaseEach
    rw [endLease_image]
    rcases b.endLease id (some acquirer) with ⟨_ | _, c⟩
    · rfl
    · exact ih c

theorem releaseAll_image (acquirer : Acquirer) :
    (b.image v g).releaseAll acquirer =
      (b.releaseAll acquirer).map (fun r => r) (image v g) := by
  unfold releaseAll
  rw [image_ledger]
  split
  · rfl
  · rw [releaseEach_image]
    rcases b.releaseEach acquirer _ with ⟨_ | _, _⟩ <;> rfl

theorem releaseTimes_image (id : DeviceId) (n : Nat) :
    (b.image v g).releaseTimes id n = (b.releaseTimes id n).map (fun r => r) (image v g) := by
  induction n generalizing b with
  | zero => rfl
  | succ n ih =>
    unfold releaseTimes
    rw [endLease_image]
    rcases b.endLease id none with ⟨_ | _, c⟩
    · rfl
    · exact ih c

/-! ### Reconciliation -/

theorem adopted_image (reply : Reply W' (H' × DeviceInfo)) (id : DeviceId) (k : K) (handle : H')
    (info : DeviceInfo) :
    (b.image v g).adopted (reply.image v fun given => (g given.1, given.2)) id k (g handle) info =
      (b.adopted reply id k handle info).image v g := by
  have hentries := SortedMap.map_insert (g := Entry.image g) b.entries id
    { handle, info, holder := k }
  exact congrArg (fun entries => ({ (b.accept reply).image v g with
    entries, infos := b.infos.insert info id } : Broker W K H)) hentries

theorem struckOff_image (id : DeviceId) (e : Entry K H') :
    (b.image v g).struckOff id (e.image g) = (b.struckOff id e).image v g := by
  have hentries := SortedMap.map_erase (g := Entry.image g) b.entries id
  exact congrArg (fun entries => ({ b.image v g with
    entries, infos := b.infos.erase e.info } : Broker W K H)) hentries

section Reconciliation
variable (h : fine.Covers coarse v g)
include h

theorem register_image (k : K) :
    (b.image v g).register coarse k = (b.register fine k).image v g := by
  simp only [register, h.name]
  have hcapacity : coarse.capacity (b.image v g).world k = fine.capacity b.world k :=
    h.capacity b.world k
  rw [hcapacity]
  rfl

theorem claim_image (k : K) (id : DeviceId) :
    claim coarse k (b.image v g) id = (claim fine k b id).image v g := by
  simp only [claim, image_owners, h.name]
  cases b.owners.get? id <;> rfl

theorem foldl_claim_image (k : K) (ids : List DeviceId) :
    ids.foldl (claim coarse k) (b.image v g) = (ids.foldl (claim fine k) b).image v g := by
  induction ids generalizing b with
  | nil => rfl
  | cons id rest ih =>
    rw [List.foldl_cons, List.foldl_cons, claim_image b h]
    exact ih _

theorem survey_image (k : K) :
    survey coarse (b.image v g) k = (survey fine b k).image v g := by
  have hreply := h.rescan k b.world
  unfold survey
  dsimp only
  rw [show (b.image v g).world = v b.world from rfl, hreply, accept_image]
  simp only [Reply.image]
  cases (fine.rescan k b.world).answer with
  | ok ids => exact foldl_claim_image _ h k ids
  | error fault =>
    simp only [Except.map, h.name]
    rfl

theorem foldl_survey_image (ks : List K) :
    ks.foldl (survey coarse) (b.image v g) = (ks.foldl (survey fine) b).image v g := by
  induction ks generalizing b with
  | nil => rfl
  | cons k rest ih =>
    rw [List.foldl_cons, List.foldl_cons, survey_image b h]
    exact ih _

theorem scan_image : (b.image v g).scan coarse = (b.scan fine).image v g :=
  foldl_survey_image { b with owners := ∅ } h b.classes

theorem abandon_image (id : DeviceId) (k : K) (info : DeviceInfo) (handle : H') :
    (b.image v g).abandon coarse id k info (g handle) =
      (b.abandon fine id k info handle).image v g := by
  have hreply := h.abandon k info handle b.world
  unfold abandon
  dsimp only
  rw [show (b.image v g).world = v b.world from rfl, hreply, accept_image]
  simp only [Reply.image]
  cases (fine.abandon k info handle b.world).answer with
  | ok done => rfl
  | error fault =>
    simp only [Except.map, h.name]
    rfl

theorem adopt_image (id : DeviceId) (k : K) :
    (b.image v g).adopt coarse id k = (b.adopt fine id k).map (fun r => r) (image v g) := by
  have hreply := h.adopt k id b.world
  unfold adopt
  dsimp only
  rw [show (b.image v g).world = v b.world from rfl, hreply, accept_image]
  simp only [Reply.image]
  cases (fine.adopt k id b.world).answer with
  | error fault => rfl
  | ok given =>
    obtain ⟨handle, info⟩ := given
    simp only [Except.map, image_infos]
    cases (b.accept (fine.adopt k id b.world)).infos.get? info with
    | some other => exact congrArg (Prod.mk _) (abandon_image _ h id k info handle)
    | none =>
      exact congrArg (Prod.mk _) (b.adopted_image (fine.adopt k id b.world) id k handle info)

theorem forget_image (id : DeviceId) :
    (b.image v g).forget coarse id = (b.forget fine id).map (fun r => r) (image v g) := by
  unfold forget
  simp only [get?_image]
  cases b.entries.get? id with
  | none => rfl
  | some e =>
    simp only [Option.map_some, Entry.image_leases, releaseTimes_image]
    rcases b.releaseTimes id e.leases with ⟨_ | _, c⟩
    · rfl
    · refine congrArg (Prod.mk _) ?_
      change abandon coarse ((c.image v g).struckOff id (e.image g)) id e.holder e.info
        (g e.handle) = _
      rw [struckOff_image, abandon_image _ h]
      rfl

theorem welcome_image (state : RescanReport × Broker W' K H') (id : DeviceId) :
    welcome coarse (state.map (fun r => r) (image v g)) id =
      (welcome fine state id).map (fun r => r) (image v g) := by
  obtain ⟨report, b⟩ := state
  simp only [welcome, Prod.map, contains_image, image_owners, adopt_image b h, h.name]
  split
  · rfl
  · cases b.owners.get? id with
    | none => rfl
    | some k =>
      dsimp only
      rcases b.adopt fine id k with ⟨_ | _, c⟩ <;> rfl

theorem foldl_welcome_image (ids : List DeviceId) (state : RescanReport × Broker W' K H') :
    ids.foldl (welcome coarse) (state.map (fun r => r) (image v g)) =
      (ids.foldl (welcome fine) state).map (fun r => r) (image v g) := by
  induction ids generalizing state with
  | nil => rfl
  | cons id rest ih =>
    rw [List.foldl_cons, List.foldl_cons, welcome_image h]
    exact ih _

theorem dismiss_image (state : RescanReport × Broker W' K H') (id : DeviceId) :
    dismiss coarse (state.map (fun r => r) (image v g)) id =
      (dismiss fine state id).map (fun r => r) (image v g) := by
  obtain ⟨report, b⟩ := state
  simp only [dismiss, Prod.map, forget_image b h]
  rcases b.forget fine id with ⟨_ | _, c⟩ <;> rfl

theorem foldl_dismiss_image (ids : List DeviceId) (state : RescanReport × Broker W' K H') :
    ids.foldl (dismiss coarse) (state.map (fun r => r) (image v g)) =
      (ids.foldl (dismiss fine) state).map (fun r => r) (image v g) := by
  induction ids generalizing state with
  | nil => rfl
  | cons id rest ih =>
    rw [List.foldl_cons, List.foldl_cons, dismiss_image h]
    exact ih _

theorem midway_image :
    (b.image v g).midway coarse = (b.midway fine).map (fun r => r) (image v g) := by
  rw [midway, scan_image b h]
  exact foldl_welcome_image h _ ({}, b.scan fine)

theorem cleared_image :
    (b.image v g).cleared coarse = (b.cleared fine).map (fun r => r) (image v g) := by
  have hgone : ((b.midway fine).2.image v g).gone (b.scan fine).eligible =
      (b.midway fine).2.gone (b.scan fine).eligible := by
    rw [gone, devices_image, gone]
  rw [cleared, midway_image b h, scan_image b h, eligible_image, Prod.map_snd, hgone]
  exact foldl_dismiss_image h _ (b.midway fine)

theorem rescan_image :
    (b.image v g).rescan coarse = (b.rescan fine).map (fun r => r) (image v g) := by
  rw [rescan_eq, cleared_image b h, rescan_eq]
  rfl

theorem add_image (id : DeviceId) :
    (b.image v g).add coarse id = (b.add fine id).map (fun r => r) (image v g) := by
  simp only [add, image_owners, image_access, contains_image, adopt_image b h]
  cases b.owners.get? id with
  | none => rfl
  | some k =>
    dsimp only
    split
    · rfl
    · split
      · rfl
      · rcases b.adopt fine id k with ⟨_ | _, c⟩ <;> rfl

theorem remove_image (id : DeviceId) (force : Bool) :
    (b.image v g).remove coarse id force =
      (b.remove fine id force).map (fun r => r) (image v g) := by
  simp only [remove, get?_image, forget_image b h]
  cases b.entries.get? id with
  | none => rfl
  | some e =>
    simp only [Option.map_some]
    by_cases hbusy : 0 < e.leases ∧ !force
    · rw [if_pos hbusy, if_pos (Entry.image_leases g e ▸ hbusy)]
      rfl
    · rw [if_neg hbusy, if_neg (Entry.image_leases g e ▸ hbusy)]
      rcases b.forget fine id with ⟨_ | _, c⟩ <;> rfl

end Reconciliation

theorem reset_image : (b.image v g).reset = b.reset.image v g := by
  have hnotes : ∀ (rows : List (DeviceId × Entry K H')) (c : Broker W' K H'),
      (rows.map fun row => (row.1, row.2.image g)).foldl
          (fun b row => b.note (.droppedOnReset row.1 row.2.leases)) (c.image v g) =
        (rows.foldl (fun b row => b.note (.droppedOnReset row.1 row.2.leases)) c).image v g := by
    intro rows
    induction rows with
    | nil => exact fun c => rfl
    | cons row rest ih =>
      intro c
      rw [List.map_cons, List.foldl_cons, List.foldl_cons]
      exact ih (c.note (.droppedOnReset row.1 row.2.leases))
  have hleased : (b.image v g).entries.toList.filter (fun row => 0 < row.2.leases) =
      (b.entries.toList.filter fun row => 0 < row.2.leases).map
        fun row => (row.1, row.2.image g) := List.filter_map
  unfold reset
  rw [hleased]
  dsimp only
  rw [hnotes]
  rfl

theorem enlist_image (list : Listing) (id : DeviceId) :
    (b.image v g).enlist list id = (b.enlist list id).map (fun r => r) (image v g) := by
  unfold enlist
  rw [image_access]
  cases b.access.enlist list id <;> rfl

theorem delist_image (list : Listing) (id : DeviceId) :
    (b.image v g).delist list id = (b.delist list id).map (fun r => r) (image v g) := by
  unfold delist
  rw [image_access]
  cases b.access.delist list id <;> rfl

end Broker

/-! ### Waiting -/

namespace Waiter
variable {fine : DeviceClasses W' K H'} {coarse : DeviceClasses W K H} {v : W' → W} {g : H' → H}
  (w : Waiter) (b : Broker W' K H')

theorem giveUp_image : w.giveUp (b.image v g) =
    (w.giveUp b).map (fun r => r) (Prod.map (fun w => w) (Broker.image v g)) := by
  unfold giveUp
  change (if w.expired b.now then _ else _) = _
  split <;> rfl

section Classes
variable (h : fine.Covers coarse v g)
include h

theorem ask_image (pick : Nat) : w.ask coarse (b.image v g) pick =
    (w.ask fine b pick).map (fun r => r) (Prod.map (fun w => w) (Broker.image v g)) := by
  unfold ask
  split
  · rw [Broker.lease_image b h]
    rcases b.lease fine w.criteria w.acquirer w.started pick with ⟨refusal | id, c⟩
    · cases refusal <;> rfl
    · rfl
  · rfl

theorem poll_image (pick : Nat) (giveUpFirst : Bool) :
    w.poll coarse (b.image v g) pick giveUpFirst =
      (w.poll fine b pick giveUpFirst).map (fun r => r)
        (Prod.map (fun w => w) (Broker.image v g)) := by
  unfold poll
  split
  · rw [giveUp_image]
    rcases w.giveUp b with ⟨_ | answer, w', c⟩
    · exact w'.ask_image c h pick
    · rfl
  · rw [w.ask_image b h]
    rcases w.ask fine b pick with ⟨_ | answer, w', c⟩
    · exact w'.giveUp_image c
    · rfl

end Classes

end Waiter

/-- An action with the image of the world that it puts in place. -/
def Action.image (v : W' → W) : Action W' K → Action W K
  | .register k => .register k
  | .rescan => .rescan
  | .add id => .add id
  | .remove id force => .remove id force
  | .reset => .reset
  | .enlist list id => .enlist list id
  | .delist list id => .delist list id
  | .tryAcquire criteria acquirer pick => .tryAcquire criteria acquirer pick
  | .release id acquirer => .release id acquirer
  | .releaseAny id => .releaseAny id
  | .releaseAll acquirer => .releaseAll acquirer
  | .park name criteria acquirer patience pick giveUpFirst =>
    .park name criteria acquirer patience pick giveUpFirst
  | .poll place pick giveUpFirst => .poll place pick giveUpFirst
  | .cancel name => .cancel name
  | .drop name => .drop name
  | .advance duration => .advance duration
  | .world w => .world (v w)

namespace Pool

/-- A pool with the image of its broker. -/
def image (v : W' → W) (g : H' → H) (p : Pool W' K H') : Pool W K H :=
  ⟨p.broker.image v g, p.waiting⟩

variable {fine : DeviceClasses W' K H'} {coarse : DeviceClasses W K H} {v : W' → W} {g : H' → H}
  (p : Pool W' K H')

theorem quietly_image {α : Type} {op : Broker W' K H' → α × Broker W' K H'}
    {op' : Broker W K H → α × Broker W K H}
    (h : op' (p.broker.image v g) = (op p.broker).map (fun r => r) (Broker.image v g)) :
    (p.image v g).quietly op' = (p.quietly op).map (fun r => r) (image v g) :=
  congrArg (Prod.map (fun r => r) (Pool.mk · p.waiting)) h

theorem notifying_image {α : Type} {op : Broker W' K H' → Except Refusal α × Broker W' K H'}
    {op' : Broker W K H → Except Refusal α × Broker W K H}
    (h : op' (p.broker.image v g) = (op p.broker).map (fun r => r) (Broker.image v g)) :
    (p.image v g).notifying op' = (p.notifying op).map (fun r => r) (image v g) := by
  unfold notifying
  rw [p.quietly_image h]
  rcases p.quietly op with ⟨_ | _, q⟩ <;> rfl

theorem answering_image {α : Type} (f : α → Answer) {result : α × Pool W' K H'}
    {result' : α × Pool W K H} (h : result' = result.map (fun r => r) (image v g)) :
    answering f result' = (answering f result).map (fun r => r) (image v g) := by
  rw [h]
  rfl

theorem cancel_image (name : String) :
    (p.image v g).cancel name = (p.cancel name).map (fun r => r) (image v g) := by
  unfold cancel
  rw [show (p.image v g).waiting = p.waiting from rfl]
  cases p.waiting.findIdx? (·.name == name) with
  | none => rfl
  | some i =>
    dsimp only
    split
    · rfl
    · rfl

theorem drop_image (name : String) :
    (p.image v g).drop name = (p.drop name).map (fun r => r) (image v g) := by
  unfold drop
  rw [show (p.image v g).waiting = p.waiting from rfl]
  cases p.waiting.findIdx? (·.name == name) <;> rfl

section Classes
variable (h : fine.Covers coarse v g)
include h

theorem rescan_image :
    (p.image v g).rescan coarse = (p.rescan fine).map (fun r => r) (image v g) := by
  unfold rescan
  rw [show (p.image v g).broker = p.broker.image v g from rfl, p.broker.rescan_image h]
  rfl

theorem park_image (w : Waiter) (pick : Nat) (giveUpFirst : Bool) :
    (p.image v g).park coarse w pick giveUpFirst =
      (p.park fine w pick giveUpFirst).map (fun r => r) (image v g) := by
  have hpoll := w.poll_image p.broker h pick giveUpFirst
  unfold park
  rw [show (p.image v g).broker = p.broker.image v g from rfl, hpoll]
  rcases w.poll fine p.broker pick giveUpFirst with ⟨_ | answer, w', c⟩ <;> rfl

theorem pollAt_image (place pick : Nat) (giveUpFirst : Bool) :
    (p.image v g).pollAt coarse place pick giveUpFirst =
      (p.pollAt fine place pick giveUpFirst).map (fun r => r) (image v g) := by
  unfold pollAt
  rw [show (p.image v g).waiting = p.waiting from rfl]
  cases p.waiting[place]? with
  | none => rfl
  | some w =>
    have hpoll := w.poll_image p.broker h pick giveUpFirst
    dsimp only
    rw [show (p.image v g).broker = p.broker.image v g from rfl, hpoll]
    rcases w.poll fine p.broker pick giveUpFirst with ⟨_ | answer, w', c⟩ <;> rfl

/-- What an action does to the image of a pool is the image of what it does to the pool, and the
answers are the same. -/
theorem step_image (action : Action W' K) :
    (p.image v g).step coarse (action.image v) =
      (p.step fine action).map (fun r => r) (image v g) := by
  cases action with
  | register k =>
    have hregister := p.broker.register_image h k
    exact congrArg (fun b => (Answer.done, Pool.mk b p.waiting)) hregister
  | rescan => exact answering_image _ (p.rescan_image h)
  | add id => exact answering_image _ (p.notifying_image (p.broker.add_image h id))
  | remove id force =>
    exact answering_image _ (p.notifying_image (p.broker.remove_image h id force))
  | reset =>
    have hreset : (p.broker.image v g).reset = _ := p.broker.reset_image
    exact congrArg (fun b => (Answer.done, (Pool.mk b p.waiting).notify)) hreset
  | enlist list id => exact answering_image _ (p.quietly_image (p.broker.enlist_image list id))
  | delist list id => exact answering_image _ (p.quietly_image (p.broker.delist_image list id))
  | tryAcquire criteria acquirer pick =>
    exact answering_image _ (p.quietly_image (p.broker.lease_image h criteria acquirer _ pick))
  | release id acquirer =>
    exact answering_image _ (p.notifying_image (p.broker.release_image id acquirer))
  | releaseAny id => exact answering_image _ (p.notifying_image (p.broker.endLease_image id none))
  | releaseAll acquirer =>
    exact answering_image _ (p.notifying_image (p.broker.releaseAll_image acquirer))
  | park name criteria acquirer patience pick giveUpFirst =>
    exact answering_image _ (p.park_image h _ pick giveUpFirst)
  | poll place pick giveUpFirst => exact p.pollAt_image h place pick giveUpFirst
  | cancel name => exact answering_image (fun _ => .done) (p.cancel_image name)
  | drop name => exact answering_image (fun _ => .done) (p.drop_image name)
  | advance duration => rfl
  | world world => rfl

end Classes

end Pool

end LeaseBroker
