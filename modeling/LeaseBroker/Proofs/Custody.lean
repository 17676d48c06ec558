import LeaseBroker.Proofs.Images

/-!
# Who has a handle

Any classes can be watched: every call that adopts a device or gives one back is written down, and
every handle is numbered by the adoption that it comes from, so that no two handles are the same.
The broker runs with watched classes as with any others. As long as it is not reset, a handle is in
the entry of the device that it was given out for until it goes back, once, to the class that it
comes from.
-/

set_option autoImplicit false

namespace LeaseBroker

/-- A handle with the place of its adoption among all calls. -/
structure Numbered (H : Type) where
  handle : H
  number : Nat

inductive Call (K H : Type) where
  | adopt (k : K) (id : DeviceId) (answer : Option (Numbered H × DeviceInfo))
  | abandon (k : K) (info : DeviceInfo) (handle : Numbered H)

structure Watched (W K H : Type) where
  world : W
  calls : List (Call K H) := []

/-- Classes whose calls are written down and whose handles are numbered. -/
def DeviceClasses.watched {W K H : Type} (cls : DeviceClasses W K H) :
    DeviceClasses (Watched W K H) K (Numbered H) where
  name := cls.name
  capacity := fun w => cls.capacity w.world
  methods := cls.methods
  rescan := fun k w =>
    let reply := cls.rescan k w.world
    { reply with world := { w with world := reply.world } }
  adopt := fun k id w =>
    let reply := cls.adopt k id w.world
    let answer := reply.answer.map fun given => (⟨given.1, w.calls.length⟩, given.2)
    { reply with answer, world := ⟨reply.world, w.calls ++ [.adopt k id answer.toOption]⟩ }
  abandon := fun k info handle w =>
    let reply := cls.abandon k info handle.handle w.world
    { reply with world := ⟨reply.world, w.calls ++ [.abandon k info handle]⟩ }

namespace DeviceClasses
variable {W K H : Type} (cls : DeviceClasses W K H)

theorem watched_adopt_calls (k : K) (id : DeviceId) (w : Watched W K H) :
    (cls.watched.adopt k id w).world.calls =
      w.calls ++ [.adopt k id (cls.watched.adopt k id w).answer.toOption] := rfl

theorem watched_abandon_calls (k : K) (info : DeviceInfo) (handle : Numbered H)
    (w : Watched W K H) : (cls.watched.abandon k info handle w).world.calls =
      w.calls ++ [.abandon k info handle] := rfl

theorem watched_adopt_number {k : K} {id : DeviceId} {w : Watched W K H} {handle : Numbered H}
    {info : DeviceInfo} (h : (cls.watched.adopt k id w).answer = .ok (handle, info)) :
    handle.number = w.calls.length := by
  change (cls.adopt k id w.world).answer.map _ = _ at h
  cases hanswer : (cls.adopt k id w.world).answer with
  | error fault =>
    rw [hanswer] at h
    cases h
  | ok given =>
    rw [hanswer] at h
    cases h
    rfl

theorem watched_covers : cls.watched.Covers cls Watched.world Numbered.handle where
  name := fun _ => rfl
  capacity := fun _ _ => rfl
  rescan := by
    intro k w
    have hanswer : (cls.rescan k w.world).answer =
        (cls.watched.rescan k w).answer.map fun ids => ids := by
      change _ = (cls.rescan k w.world).answer.map _
      cases (cls.rescan k w.world).answer <;> rfl
    exact congrArg (Reply.mk · _ _) hanswer
  adopt := by
    intro k id w
    have hanswer : (cls.adopt k id w.world).answer =
        (cls.watched.adopt k id w).answer.map fun given => (given.1.handle, given.2) := by
      change _ = ((cls.adopt k id w.world).answer.map _).map _
      cases (cls.adopt k id w.world).answer <;> rfl
    exact congrArg (Reply.mk · _ _) hanswer
  abandon := by
    intro k info handle w
    have hanswer : (cls.abandon k info handle.handle w.world).answer =
        (cls.watched.abandon k info handle w).answer.map fun done => done := by
      change _ = (cls.abandon k info handle.handle w.world).answer.map _
      cases (cls.abandon k info handle.handle w.world).answer <;> rfl
    exact congrArg (Reply.mk · _ _) hanswer

end DeviceClasses

theorem getElem?_concat_eq_some_iff {α : Type} {xs : List α} {x y : α} {n : Nat} :
    (xs ++ [x])[n]? = some y ↔ xs[n]? = some y ∨ n = xs.length ∧ x = y := by
  rcases Nat.lt_trichotomy n xs.length with hn | rfl | hn
  · rw [List.getElem?_append_left hn]
    simp [Nat.ne_of_lt hn]
  · simp
  · have hnone : (xs ++ [x])[n]? = none := by
      rw [List.getElem?_eq_none_iff, List.length_append, List.length_singleton]
      omega
    rw [hnone, List.getElem?_eq_none (by omega)]
    simp [Nat.ne_of_gt hn]

namespace Broker
variable {W K H : Type}

/-- The entries and the calls so far tell of the same handles. -/
structure Custody (entries : SortedMap DeviceId (Entry K (Numbered H)))
    (calls : List (Call K H)) : Prop where
  /-- A handle knows where it was given out. -/
  numbered : ∀ {m : Nat} {k : K} {id : DeviceId} {info : DeviceInfo} {handle : Numbered H},
    calls[m]? = some (.adopt k id (some (handle, info))) → handle.number = m
  /-- What goes back was given out before, by the same class and with the same info. -/
  returned : ∀ {n : Nat} {k : K} {info : DeviceInfo} {handle : Numbered H},
    calls[n]? = some (.abandon k info handle) → handle.number < n ∧
      ∃ id, calls[handle.number]? = some (.adopt k id (some (handle, info)))
  /-- No handle goes back twice. -/
  once : ∀ {n n' : Nat} {k k' : K} {info info' : DeviceInfo} {handle handle' : Numbered H},
    calls[n]? = some (.abandon k info handle) → calls[n']? = some (.abandon k' info' handle') →
      handle.number = handle'.number → n = n'
  /-- What is registered was given out under that identifier and has not gone back. -/
  held : ∀ {id : DeviceId} {e : Entry K (Numbered H)}, entries.get? id = some e →
    calls[e.handle.number]? = some (.adopt e.holder id (some (e.handle, e.info))) ∧
      ∀ {n : Nat} {k : K} {info : DeviceInfo} {handle : Numbered H},
        calls[n]? = some (.abandon k info handle) → handle.number ≠ e.handle.number
  /-- What was given out is registered or has gone back. -/
  kept : ∀ {m : Nat} {k : K} {id : DeviceId} {info : DeviceInfo} {handle : Numbered H},
    calls[m]? = some (.adopt k id (some (handle, info))) →
      (∃ n, m < n ∧ calls[n]? = some (.abandon k info handle)) ∨
      (∃ e, entries.get? id = some e ∧ e.handle = handle ∧ e.info = info ∧ e.holder = k)
  /-- No class is asked for a device while one that was given out has not gone back. -/
  turns : ∀ {m n : Nat} {k k' : K} {id : DeviceId} {info : DeviceInfo} {handle : Numbered H}
    {answer : Option (Numbered H × DeviceInfo)}, m < n →
      calls[m]? = some (.adopt k id (some (handle, info))) →
      calls[n]? = some (.adopt k' id answer) →
      ∃ l, m < l ∧ l < n ∧ calls[l]? = some (.abandon k info handle)

namespace Custody
variable {entries : SortedMap DeviceId (Entry K (Numbered H))} {calls : List (Call K H)}
  {id : DeviceId} {e : Entry K (Numbered H)}

theorem start : Custody (∅ : SortedMap DeviceId (Entry K (Numbered H))) ([] : List (Call K H)) where
  numbered := nofun
  returned := nofun
  once := nofun
  held := nofun
  kept := nofun
  turns := nofun

theorem congr (h : Custody entries calls) {entries' : SortedMap DeviceId (Entry K (Numbered H))}
    (hsame : ∀ i, entries'.get? i = entries.get? i) : Custody entries' calls where
  numbered := h.numbered
  returned := h.returned
  once := h.once
  held := fun he => h.held (hsame _ ▸ he)
  kept := fun hgiven => by
    rw [hsame]
    exact h.kept hgiven
  turns := h.turns

theorem alone (h : Custody entries calls) {id' : DeviceId} {e' : Entry K (Numbered H)}
    (he : entries.get? id = some e) (he' : entries.get? id' = some e')
    (hnumber : e.handle.number = e'.handle.number) : id = id' := by
  have hgiven := (h.held he).1
  rw [hnumber, (h.held he').1] at hgiven
  exact (Call.adopt.inj (Option.some.inj hgiven)).2.1.symm

theorem update (h : Custody entries calls) (he : entries.get? id = some e) (leases : Nat) :
    Custody (entries.insert id { e with leases }) calls where
  numbered := h.numbered
  returned := h.returned
  once := h.once
  held := by
    intro i e' he'
    rw [SortedMap.get?_insert] at he'
    split at he'
    · rename_i hi
      subst i
      cases he'
      exact (h.held he :)
    · exact h.held he'
  kept := by
    intro m k i info handle hgiven
    refine (h.kept hgiven).imp_right ?_
    rintro ⟨e', he', rfl, rfl, rfl⟩
    rw [SortedMap.get?_insert]
    split
    · rename_i hi
      subst i
      rw [he] at he'
      cases he'
      exact ⟨_, rfl, rfl, rfl, rfl⟩
    · exact ⟨e', he', rfl, rfl, rfl⟩
  turns := h.turns

theorem lt_of_call {n : Nat} {call : Call K H} (h : calls[n]? = some call) : n < calls.length :=
  (List.getElem?_eq_some_iff.mp h).1

theorem earlier {n : Nat} {call last : Call K H} (h : calls[n]? = some call) :
    (calls ++ [last])[n]? = some call :=
  getElem?_concat_eq_some_iff.mpr (Or.inl h)

theorem turns_adopt (h : Custody entries calls) (fresh : entries.get? id = none) (j : K)
    (reply : Option (Numbered H × DeviceInfo)) {m n : Nat} {k k' : K} {i : DeviceId}
    {info : DeviceInfo} {handle : Numbered H} {answer : Option (Numbered H × DeviceInfo)}
    (hmn : m < n)
    (hgiven : (calls ++ [.adopt j id reply])[m]? = some (.adopt k i (some (handle, info))))
    (hasked : (calls ++ [.adopt j id reply])[n]? = some (.adopt k' i answer)) :
    ∃ l, m < l ∧ l < n ∧ (calls ++ [.adopt j id reply])[l]? = some (.abandon k info handle) := by
  have hn := lt_of_call hasked
  rw [List.length_append, List.length_singleton] at hn
  have hgiven : calls[m]? = some (.adopt k i (some (handle, info))) :=
    (getElem?_concat_eq_some_iff.mp hgiven).resolve_right (by omega)
  rcases getElem?_concat_eq_some_iff.mp hasked with hasked | ⟨rfl, hcall⟩
  · obtain ⟨l, hml, hln, hback⟩ := h.turns hmn hgiven hasked
    exact ⟨l, hml, hln, earlier hback⟩
  · cases hcall
    rcases h.kept hgiven with ⟨l, hml, hback⟩ | ⟨e, he, _⟩
    · exact ⟨l, hml, lt_of_call hback, earlier hback⟩
    · rw [fresh] at he
      cases he

theorem returned_before {j : K} {reply : Option (Numbered H × DeviceInfo)} {n : Nat} {k : K}
    {info : DeviceInfo} {handle : Numbered H}
    (h : (calls ++ [.adopt j id reply])[n]? = some (.abandon k info handle)) :
    calls[n]? = some (.abandon k info handle) := by
  rcases getElem?_concat_eq_some_iff.mp h with h | ⟨_, hcall⟩
  · exact h
  · cases hcall

theorem refused (h : Custody entries calls) (fresh : entries.get? id = none) (j : K) :
    Custody entries (calls ++ [.adopt j id none]) where
  numbered := by
    intro m k i info handle hgiven
    rcases getElem?_concat_eq_some_iff.mp hgiven with hgiven | ⟨_, hcall⟩
    · exact h.numbered hgiven
    · cases hcall
  returned := by
    intro n k info handle hback
    obtain ⟨hlt, i, hgiven⟩ := h.returned (returned_before hback)
    exact ⟨hlt, i, earlier hgiven⟩
  once := fun hback hback' => h.once (returned_before hback) (returned_before hback')
  held := fun he => ⟨earlier (h.held he).1, fun hback => (h.held he).2 (returned_before hback)⟩
  kept := by
    intro m k i info handle hgiven
    rcases getElem?_concat_eq_some_iff.mp hgiven with hgiven | ⟨_, hcall⟩
    · refine (h.kept hgiven).imp_left ?_
      rintro ⟨n, hmn, hback⟩
      exact ⟨n, hmn, earlier hback⟩
    · cases hcall
  turns := h.turns_adopt fresh j none

theorem adopt (h : Custody entries calls) (fresh : entries.get? id = none)
    (hnumber : e.handle.number = calls.length) :
    Custody (entries.insert id e) (calls ++ [.adopt e.holder id (some (e.handle, e.info))]) where
  numbered := by
    intro m k i info handle hgiven
    rcases getElem?_concat_eq_some_iff.mp hgiven with hgiven | ⟨rfl, hcall⟩
    · exact h.numbered hgiven
    · cases hcall
      exact hnumber
  returned := by
    intro n k info handle hback
    obtain ⟨hlt, i, hgiven⟩ := h.returned (returned_before hback)
    exact ⟨hlt, i, earlier hgiven⟩
  once := fun hback hback' => h.once (returned_before hback) (returned_before hback')
  held := by
    intro i e' he'
    rw [SortedMap.get?_insert] at he'
    split at he'
    · rename_i hi
      subst i
      cases he'
      refine ⟨getElem?_concat_eq_some_iff.mpr (Or.inr ⟨hnumber, rfl⟩), fun hback => ?_⟩
      -- What has gone back was given out before this handle was.
      have hback := returned_before hback
      have hlt := (h.returned hback).1
      have hlength := lt_of_call hback
      omega
    · exact ⟨earlier (h.held he').1, fun hback => (h.held he').2 (returned_before hback)⟩
  kept := by
    intro m k i info handle hgiven
    rcases getElem?_concat_eq_some_iff.mp hgiven with hgiven | ⟨_, hcall⟩
    · rcases h.kept hgiven with ⟨n, hmn, hback⟩ | ⟨e', he', hsame⟩
      · exact Or.inl ⟨n, hmn, earlier hback⟩
      · have hne : i ≠ id := by
          rintro rfl
          rw [fresh] at he'
          cases he'
        exact Or.inr ⟨e', (SortedMap.get?_insert_of_ne _ _ hne).trans he', hsame⟩
    · cases hcall
      exact Or.inr ⟨e, SortedMap.get?_insert_self _ _ _, rfl, rfl, rfl⟩
  turns := h.turns_adopt fresh e.holder _

theorem asked_before {j : K} {last : DeviceInfo} {back : Numbered H} {n : Nat} {k : K}
    {i : DeviceId} {answer : Option (Numbered H × DeviceInfo)}
    (h : (calls ++ [.abandon j last back])[n]? = some (.adopt k i answer)) :
    calls[n]? = some (.adopt k i answer) := by
  rcases getElem?_concat_eq_some_iff.mp h with h | ⟨_, hcall⟩
  · exact h
  · cases hcall

theorem forget (h : Custody entries calls) (he : entries.get? id = some e) :
    Custody (entries.erase id) (calls ++ [.abandon e.holder e.info e.handle]) where
  numbered := fun hgiven => h.numbered (asked_before hgiven)
  returned := by
    intro n k info handle hback
    rcases getElem?_concat_eq_some_iff.mp hback with hback | ⟨rfl, hcall⟩
    · obtain ⟨hlt, i, hgiven⟩ := h.returned hback
      exact ⟨hlt, i, earlier hgiven⟩
    · cases hcall
      exact ⟨lt_of_call (h.held he).1, id, earlier (h.held he).1⟩
  once := by
    intro n n' k k' info info' handle handle' hback hback' hnumber
    rcases getElem?_concat_eq_some_iff.mp hback with hback | ⟨rfl, hcall⟩ <;>
      rcases getElem?_concat_eq_some_iff.mp hback' with hback' | ⟨rfl, hcall'⟩
    · exact h.once hback hback' hnumber
    · cases hcall'
      exact absurd hnumber ((h.held he).2 hback)
    · cases hcall
      exact absurd hnumber.symm ((h.held he).2 hback')
    · rfl
  held := by
    intro i e' he'
    rw [SortedMap.get?_erase] at he'
    split at he'
    · cases he'
    · rename_i hi
      refine ⟨earlier (h.held he').1, ?_⟩
      intro n k info handle hback hnumber
      rcases getElem?_concat_eq_some_iff.mp hback with hback | ⟨_, hcall⟩
      · exact (h.held he').2 hback hnumber
      · cases hcall
        exact hi (h.alone he' he hnumber.symm)
  kept := by
    intro m k i info handle hgiven
    have hgiven := asked_before hgiven
    rcases h.kept hgiven with ⟨n, hmn, hback⟩ | ⟨e', he', rfl, rfl, rfl⟩
    · exact Or.inl ⟨n, hmn, earlier hback⟩
    · by_cases hi : i = id
      · subst i
        rw [he] at he'
        cases he'
        exact Or.inl ⟨calls.length, lt_of_call hgiven,
          getElem?_concat_eq_some_iff.mpr (Or.inr ⟨rfl, rfl⟩)⟩
      · rw [SortedMap.get?_erase, if_neg hi]
        exact Or.inr ⟨e', he', rfl, rfl, rfl⟩
  turns := by
    intro m n k k' i info handle answer hmn hgiven hasked
    obtain ⟨l, hml, hln, hback⟩ := h.turns hmn (asked_before hgiven) (asked_before hasked)
    exact ⟨l, hml, hln, earlier hback⟩

theorem reject (h : Custody entries calls) (fresh : entries.get? id = none)
    (hnumber : e.handle.number = calls.length) :
    Custody entries (calls ++ [.adopt e.holder id (some (e.handle, e.info))] ++
      [.abandon e.holder e.info e.handle]) := by
  have hrejected := (h.adopt fresh hnumber).forget (SortedMap.get?_insert_self _ _ _)
  refine hrejected.congr fun i => ?_
  rw [SortedMap.get?_erase]
  split
  · rename_i hi
    rw [hi, fresh]
  · rename_i hi
    rw [SortedMap.get?_insert_of_ne _ _ hi]

end Custody

abbrev InCustody (b : Broker (Watched W K H) K (Numbered H)) : Prop :=
  Custody b.entries b.world.calls

variable {cls : DeviceClasses W K H}

theorem Custody.deed {b c : Broker (Watched W K H) K (Numbered H)} (hd : Deed cls.watched b c)
    (h : b.InCustody) : c.InCustody := by
  cases hd with
  | lease acquirer started registered free => exact h.update registered _
  | endLease registered busy popped => exact h.update registered _
  | popInVain | access | note | clock => exact h
  | @adopt id k handle info adoptable given unknown =>
    change Custody _ (cls.watched.adopt k id b.world).world.calls
    rw [cls.watched_adopt_calls, given]
    exact h.adopt adoptable.fresh (e := { handle, info, holder := k })
      (cls.watched_adopt_number given)
  | @decline id k fault adoptable declined =>
    change Custody _ (cls.watched.adopt k id b.world).world.calls
    rw [cls.watched_adopt_calls, declined]
    exact h.refused adoptable.fresh k
  | @reject id other k handle info adoptable given known =>
    rw [InCustody, abandon_toRegistry, abandon_world, cls.watched_abandon_calls]
    change Custody _ ((cls.watched.adopt k id b.world).world.calls ++ _)
    rw [cls.watched_adopt_calls, given]
    exact h.reject adoptable.fresh (e := { handle, info, holder := k })
      (cls.watched_adopt_number given)
  | forget registered idle =>
    rw [InCustody, abandon_toRegistry, abandon_world, cls.watched_abandon_calls]
    exact h.forget registered

theorem Custody.scan {b : Broker (Watched W K H) K (Numbered H)}
    (h : b.InCustody) : (b.scan cls.watched).InCustody :=
  scan_preserve (P := InCustody) h (fun _ _ _ h => h) (fun _ _ _ _ h => h) (fun _ _ _ h => h)

end Broker

namespace Watched
variable {W K H : Type}

def Fresh (w : Watched W K H) : Prop := w.calls = []

/-- Whether an action is no reset and leaves the record of calls alone: nobody but the broker calls
the classes. -/
def Admits (w : Watched W K H) : Action (Watched W K H) K → Prop
  | .reset => False
  | .world later => later.calls = w.calls
  | _ => True

end Watched

namespace Pool
variable {W K H : Type} {cls : DeviceClasses W K H}

theorem ReachableUnder.custody {p : Pool (Watched W K H) K (Numbered H)}
    (hp : ReachableUnder cls.watched Watched.Fresh Watched.Admits p) :
    p.broker.InCustody := by
  refine hp.preserve (P := Broker.InCustody) ?_ (fun _ h => h) (fun h => h.scan)
    (fun hreset _ => hreset.elim) ?_ (fun hd h => h.deed hd)
  · intro world access hworld
    have hcalls : world.calls = [] := hworld
    rw [Broker.InCustody, Broker.start, hcalls]
    exact .start
  · intro b world hadmits h
    have hcalls : world.calls = b.world.calls := hadmits
    rw [Broker.InCustody, hcalls]
    exact h

/-- Carries out actions with watched classes. What happens to the devices behind the back of the
broker is no call of a class. -/
def runWatched (cls : DeviceClasses W K H) (q : Pool (Watched W K H) K (Numbered H))
    (actions : List (Action W K)) : Pool (Watched W K H) K (Numbered H) :=
  actions.foldl
    (fun q action => (q.step cls.watched (action.image fun w => ⟨w, q.broker.world.calls⟩)).2) q

/-- What a new broker comes to when it carries out actions with watched classes. -/
def watchedRun (cls : DeviceClasses W K H) (world : W) (access : AccessLists)
    (actions : List (Action W K)) : Pool (Watched W K H) K (Numbered H) :=
  runWatched cls ⟨.start ⟨world, []⟩ access, []⟩ actions

theorem runWatched_image (q : Pool (Watched W K H) K (Numbered H)) (actions : List (Action W K)) :
    (runWatched cls q actions).image Watched.world Numbered.handle =
      (q.image Watched.world Numbered.handle).run cls actions := by
  induction actions generalizing q with
  | nil => rfl
  | cons action rest ih =>
    have hstep := q.step_image cls.watched_covers
      (action.image fun w => (⟨w, q.broker.world.calls⟩ : Watched W K H))
    have hsame : (action.image fun w => (⟨w, q.broker.world.calls⟩ : Watched W K H)).image
        Watched.world = action := by
      cases action <;> rfl
    rw [hsame] at hstep
    refine (ih _).trans ?_
    exact congrArg (fun p => Pool.run cls p rest) (congrArg Prod.snd hstep).symm

theorem ReachableUnder.runWatched {q : Pool (Watched W K H) K (Numbered H)}
    (hq : ReachableUnder cls.watched Watched.Fresh Watched.Admits q) {actions : List (Action W K)}
    (hreset : ∀ action ∈ actions, action ≠ .reset) :
    ReachableUnder cls.watched Watched.Fresh Watched.Admits (q.runWatched cls actions) := by
  induction actions generalizing q with
  | nil => exact hq
  | cons action rest ih =>
    obtain ⟨hfirst, hrest⟩ := List.forall_mem_cons.mp hreset
    refine ih (hq.step ?_) hrest
    cases action with
    | reset => exact hfirst rfl
    | world w => exact rfl
    | _ => exact trivial

end Pool

end LeaseBroker
