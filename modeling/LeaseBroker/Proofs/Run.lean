import LeaseBroker.Proofs.Polling

/-!
# Runs of a pool

Everything that clients, waiting acquirers, the clock and the classes can do to a pool, one action
at a time and in any order. Questions are left out, since they give no new pool. An action of the
world stands for all that happens to the devices behind the back of the broker, so the classes may
answer differently at every call.
-/

set_option autoImplicit false

namespace LeaseBroker

/-- What can happen to a pool. Waiters are polled by their place, in whatever order. -/
inductive Action (W K : Type) where
  | register (k : K)
  | rescan
  | add (id : DeviceId)
  | remove (id : DeviceId) (force : Bool)
  | reset
  | enlist (list : Listing) (id : DeviceId)
  | delist (list : Listing) (id : DeviceId)
  | tryAcquire (criteria : Criteria) (acquirer : Acquirer) (pick : Nat)
  | release (id : DeviceId) (acquirer : Acquirer)
  | releaseAny (id : DeviceId)
  | releaseAll (acquirer : Acquirer)
  | park (name : String) (criteria : Criteria) (acquirer : Acquirer) (patience : Patience)
      (pick : Nat) (giveUpFirst : Bool)
  | poll (place pick : Nat) (giveUpFirst : Bool)
  | cancel (name : String)
  | drop (name : String)
  | advance (duration : Nat)
  | world (world : W)

inductive Answer where
  | done
  | report (report : RescanReport)
  | leased (device : DeviceId)
  | ended (holder : Acquirer)
  | endedAll (devices : List DeviceId)
  | waits
  | refused (refusal : Refusal)

namespace Answer

def ofResult {α : Type} (f : α → Answer) : Except Refusal α → Answer
  | .ok a => f a
  | .error r => .refused r

def ofPoll : Option (Except Refusal DeviceId) → Answer
  | none => .waits
  | some result => .ofResult .leased result

end Answer

def Action.notifies {W K : Type} (action : Action W K) (answer : Answer) : Prop :=
  match action with
  | .rescan | .reset => True
  | .add _ | .remove _ _ | .release _ _ | .releaseAny _ | .releaseAll _ => ∀ r, answer ≠ .refused r
  | _ => False

namespace Pool
variable {W K H : Type} (cls : DeviceClasses W K H)

/-- Polls the waiter at a place. One that has its answer leaves the pool. -/
def pollAt (p : Pool W K H) (place pick : Nat) (giveUpFirst : Bool) : Answer × Pool W K H :=
  match p.waiting[place]? with
  | none => (.done, p)
  | some w =>
    match w.poll cls p.broker pick giveUpFirst with
    | (none, w, broker) => (.waits, { broker, waiting := p.waiting.set place w })
    | (answer, _, broker) => (.ofPoll answer, { broker, waiting := p.waiting.eraseIdx place })

def answering {α : Type} (f : α → Answer) (result : α × Pool W K H) : Answer × Pool W K H :=
  (f result.1, result.2)

def step (p : Pool W K H) : Action W K → Answer × Pool W K H
  | .register k => (.done, { p with broker := p.broker.register cls k })
  | .rescan => answering .report (p.rescan cls)
  | .add id => answering (.ofResult fun _ => .done) (p.add cls id)
  | .remove id force => answering (.ofResult fun _ => .done) (p.remove cls id force)
  | .reset => (.done, p.reset)
  | .enlist list id => answering (.ofResult fun _ => .done) (p.quietly (·.enlist list id))
  | .delist list id => answering (.ofResult fun _ => .done) (p.quietly (·.delist list id))
  | .tryAcquire criteria acquirer pick =>
    answering (.ofResult .leased) (p.quietly (·.tryAcquire cls criteria acquirer pick))
  | .release id acquirer => answering (.ofResult fun _ => .done) (p.release id acquirer)
  | .releaseAny id => answering (.ofResult .ended) (p.releaseAny id)
  | .releaseAll acquirer => answering (.ofResult .endedAll) (p.releaseAll acquirer)
  | .park name criteria acquirer patience pick giveUpFirst =>
    answering .ofPoll
      (p.park cls { name, criteria, acquirer, started := p.broker.now, patience } pick giveUpFirst)
  | .poll place pick giveUpFirst => p.pollAt cls place pick giveUpFirst
  | .cancel name => answering (fun _ => .done) (p.cancel name)
  | .drop name => answering (fun _ => .done) (p.drop name)
  | .advance duration => (.done, p.advance duration)
  | .world world => (.done, { p with broker := { p.broker with world } })

def run (p : Pool W K H) (actions : List (Action W K)) : Pool W K H :=
  actions.foldl (fun p action => (p.step cls action).2) p

/-- The pools that a new broker can come to. -/
inductive Reachable : Pool W K H → Prop where
  | start (world : W) (access : AccessLists) : Reachable ⟨.start world access, []⟩
  | step {p : Pool W K H} (action : Action W K) :
      Reachable p → Reachable (p.step cls action).2

theorem notifying_cases {α : Type} (p : Pool W K H)
    (op : Broker W K H → Except Refusal α × Broker W K H) :
    (∃ r c, op p.broker = (.error r, c) ∧ p.notifying op = (.error r, { p with broker := c })) ∨
    (∃ a c, op p.broker = (.ok a, c) ∧
      p.notifying op = (.ok a, ({ p with broker := c } : Pool W K H).notify)) := by
  unfold notifying quietly
  rcases h : op p.broker with ⟨r | a, c⟩
  · exact Or.inl ⟨r, c, rfl, rfl⟩
  · exact Or.inr ⟨a, c, rfl, rfl⟩

theorem notifying_fst {α : Type} (p : Pool W K H)
    (op : Broker W K H → Except Refusal α × Broker W K H) :
    (p.notifying op).1 = (op p.broker).1 := by
  rcases p.notifying_cases op with ⟨r, c, hop, h⟩ | ⟨a, c, hop, h⟩ <;> rw [hop, h]

theorem notifying_broker {α : Type} (p : Pool W K H)
    (op : Broker W K H → Except Refusal α × Broker W K H) :
    (p.notifying op).2.broker = (op p.broker).2 := by
  rcases p.notifying_cases op with ⟨r, c, hop, h⟩ | ⟨a, c, hop, h⟩
  · rw [hop, h]
  · rw [hop, h]
    rfl

theorem rescan_fst (p : Pool W K H) : (p.rescan cls).1 = (p.broker.rescan cls).1 := rfl

theorem rescan_broker (p : Pool W K H) :
    (p.rescan cls).2.broker = (p.broker.rescan cls).2 := rfl

theorem reset_broker (p : Pool W K H) : p.reset.broker = p.broker.reset := rfl

theorem notifying_deeds {α : Type} {p : Pool W K H}
    {op : Broker W K H → Except Refusal α × Broker W K H}
    (h : p.broker.Deeds cls (op p.broker).2) : p.broker.Deeds cls (p.notifying op).2.broker := by
  rw [notifying_broker]
  exact h

/-- Polling a place where somebody waits answers what the waiter is told, and leaves the broker
that the poll leaves. -/
theorem pollAt_cases (p : Pool W K H) (place pick : Nat) (giveUpFirst : Bool) :
    (p.pollAt cls place pick giveUpFirst = (.done, p)) ∨
    (∃ w, p.waiting[place]? = some w ∧
      (p.pollAt cls place pick giveUpFirst).1 =
        .ofPoll (w.poll cls p.broker pick giveUpFirst).1 ∧
      (p.pollAt cls place pick giveUpFirst).2.broker =
        (w.poll cls p.broker pick giveUpFirst).2.2) := by
  unfold pollAt
  cases hw : p.waiting[place]? with
  | none => exact Or.inl rfl
  | some w =>
    refine Or.inr ⟨w, rfl, ?_⟩
    rcases hp : w.poll cls p.broker pick giveUpFirst with ⟨_ | _, w', c⟩
    · simp [hp, Answer.ofPoll]
    · simp [hp]

theorem park_fst (p : Pool W K H) (w : Waiter) (pick : Nat) (giveUpFirst : Bool) :
    (p.park cls w pick giveUpFirst).1 = (w.poll cls p.broker pick giveUpFirst).1 := by
  unfold park
  split <;> rename_i h <;> rw [h]

theorem park_broker (p : Pool W K H) (w : Waiter) (pick : Nat) (giveUpFirst : Bool) :
    (p.park cls w pick giveUpFirst).2.broker = (w.poll cls p.broker pick giveUpFirst).2.2 := by
  unfold park
  split <;> rename_i h <;> rw [h]

theorem pollAt_deeds (p : Pool W K H) (place pick : Nat) (giveUpFirst : Bool) :
    p.broker.Deeds cls (p.pollAt cls place pick giveUpFirst).2.broker := by
  rcases p.pollAt_cases cls place pick giveUpFirst with h | ⟨w, _, _, hbroker⟩
  · rw [h]
  · rw [hbroker]
    exact w.poll_deeds cls p.broker pick giveUpFirst

theorem park_deeds (p : Pool W K H) (w : Waiter) (pick : Nat) (giveUpFirst : Bool) :
    p.broker.Deeds cls (p.park cls w pick giveUpFirst).2.broker := by
  rw [park_broker]
  exact w.poll_deeds cls p.broker pick giveUpFirst

theorem cancel_broker (p : Pool W K H) (name : String) : (p.cancel name).2.broker = p.broker := by
  unfold cancel
  split
  · rfl
  · split <;> rfl

theorem drop_broker (p : Pool W K H) (name : String) : (p.drop name).2.broker = p.broker := by
  unfold drop
  split <;> rfl

/-- What an action does to a broker. Four kinds of actions do something to the whole of it, and
all others are deeds. -/
inductive Effect (b : Broker W K H) : Action W K → Broker W K H → Prop where
  | register (k : K) : Effect b (.register k) (b.register cls k)
  | rescan : Effect b .rescan (b.rescan cls).2
  | reset : Effect b .reset b.reset
  | world (world : W) : Effect b (.world world) { b with world }
  | deeds {action : Action W K} {c : Broker W K H} (deeds : b.Deeds cls c) : Effect b action c

theorem step_effect (p : Pool W K H) (action : Action W K) :
    Effect cls p.broker action (p.step cls action).2.broker := by
  cases action with
  | register k => exact .register k
  | rescan => exact .rescan
  | reset => exact .reset
  | world world => exact .world world
  | add id => exact .deeds (notifying_deeds cls (p.broker.add_deeds cls id))
  | remove id force => exact .deeds (notifying_deeds cls (p.broker.remove_deeds cls id force))
  | enlist list id => exact .deeds (p.broker.enlist_deeds cls list id)
  | delist list id => exact .deeds (p.broker.delist_deeds cls list id)
  | tryAcquire criteria acquirer pick =>
    exact .deeds (p.broker.lease_deeds cls criteria acquirer p.broker.now pick)
  | release id acquirer =>
    refine .deeds (notifying_deeds cls ?_)
    rw [Broker.release_snd]
    exact p.broker.endLease_deeds cls id (some acquirer)
  | releaseAny id => exact .deeds (notifying_deeds cls (p.broker.endLease_deeds cls id none))
  | releaseAll acquirer =>
    exact .deeds (notifying_deeds cls (p.broker.releaseAll_deeds cls acquirer))
  | park name criteria acquirer patience pick giveUpFirst =>
    exact .deeds (park_deeds cls p _ pick giveUpFirst)
  | poll place pick giveUpFirst => exact .deeds (pollAt_deeds cls p place pick giveUpFirst)
  | cancel name =>
    refine .deeds ?_
    change p.broker.Deeds cls (p.cancel name).2.broker
    rw [cancel_broker]
  | drop name =>
    refine .deeds ?_
    change p.broker.Deeds cls (p.drop name).2.broker
    rw [drop_broker]
  | advance duration => exact .deeds (.single (.clock p.broker _))

theorem Effect.changes {b c : Broker W K H} {action : Action W K}
    (h : Effect cls b action c) : b.Changes cls c := by
  cases h with
  | register k => exact b.register_changes cls k
  | rescan => exact (b.scan_changes cls).trans (b.rescan_deeds cls).changes
  | reset => exact b.reset_changes cls
  | world world => exact .single (.world _ _)
  | deeds deeds => exact deeds.changes

variable {cls}

theorem Reachable.preserve {P : Broker W K H → Prop}
    (start : ∀ (world : W) (access : AccessLists), P (.start world access))
    (change : ∀ {b c : Broker W K H}, b.Change cls c → P b → P c) {p : Pool W K H}
    (hp : Reachable cls p) : P p.broker := by
  induction hp with
  | start world access => exact start world access
  | step action _ ih => exact (step_effect cls _ action).changes.preserve change ih

variable (cls) in
/-- The pools that a new broker can come to if its world is one of some and each action is one that
a rule admits in the world in which it is carried out. -/
inductive ReachableUnder (starts : W → Prop) (admits : W → Action W K → Prop) :
    Pool W K H → Prop where
  | start {world : W} (access : AccessLists) (hworld : starts world) :
    ReachableUnder starts admits ⟨.start world access, []⟩
  | step {p : Pool W K H} {action : Action W K} (hadmits : admits p.broker.world action) :
    ReachableUnder starts admits p → ReachableUnder starts admits (p.step cls action).2

namespace ReachableUnder
variable {starts : W → Prop} {admits : W → Action W K → Prop} {p : Pool W K H}

theorem reachable (hp : ReachableUnder cls starts admits p) : Reachable cls p := by
  induction hp with
  | start access hworld => exact .start _ access
  | step _ _ ih => exact ih.step _

theorem preserve {P : Broker W K H → Prop}
    (start : ∀ {world : W} (access : AccessLists), starts world → P (.start world access))
    (register : ∀ {b : Broker W K H} {k : K}, admits b.world (.register k) → P b →
      P (b.register cls k))
    (scan : ∀ {b : Broker W K H}, P b → P (b.scan cls))
    (reset : ∀ {b : Broker W K H}, admits b.world .reset → P b → P b.reset)
    (world : ∀ {b : Broker W K H} {world : W}, admits b.world (.world world) → P b →
      P { b with world })
    (deed : ∀ {b c : Broker W K H}, b.Deed cls c → P b → P c)
    (hp : ReachableUnder cls starts admits p) : P p.broker := by
  induction hp with
  | start access hworld => exact start access hworld
  | @step p action hadmits _ ih =>
    have heffect := step_effect cls p action
    generalize (p.step cls action).2.broker = c at heffect
    cases heffect with
    | register k => exact register hadmits ih
    | rescan => exact (p.broker.rescan_deeds cls).preserve deed (scan ih)
    | reset => exact reset hadmits ih
    | world w => exact world hadmits ih
    | deeds deeds => exact deeds.preserve deed ih

theorem mono {starts' : W → Prop} {admits' : W → Action W K → Prop}
    (hstarts : ∀ w, starts w → starts' w) (hadmits : ∀ w action, admits w action → admits' w action)
    (hp : ReachableUnder cls starts admits p) : ReachableUnder cls starts' admits' p := by
  induction hp with
  | start access hworld => exact .start access (hstarts _ hworld)
  | step hadmitted _ ih => exact ih.step (hadmits _ _ hadmitted)

theorem run (hp : ReachableUnder cls starts admits p) {actions : List (Action W K)}
    (hadmits : ∀ action ∈ actions, ∀ w, admits w action) :
    ReachableUnder cls starts admits (p.run cls actions) := by
  induction actions generalizing p with
  | nil => exact hp
  | cons action rest ih =>
    obtain ⟨hfirst, hrest⟩ := List.forall_mem_cons.mp hadmits
    exact ih (hp.step (hfirst _)) hrest

end ReachableUnder

theorem Reachable.run {p : Pool W K H} (hp : Reachable cls p) (actions : List (Action W K)) :
    Reachable cls (p.run cls actions) := by
  induction actions generalizing p with
  | nil => exact hp
  | cons action rest ih => exact ih (hp.step action)

/-- Polling some of the waiters from first to last is a run of single polls. -/
theorem Reachable.pollEach {b : Broker W K H} {seen rest : List Waiter}
    (hp : Reachable cls ⟨b, seen ++ rest⟩) (picks : Nat → Nat) (giveUpFirst : Bool) :
    Reachable cls ⟨(Pool.pollEach cls picks giveUpFirst b rest).2.broker,
      seen ++ (Pool.pollEach cls picks giveUpFirst b rest).2.waiting⟩ := by
  induction rest generalizing b seen with
  | nil => exact hp
  | cons w rest ih =>
    unfold Pool.pollEach
    have hplace : (seen ++ w :: rest)[seen.length]? = some w := by simp
    split
    · have hstep := hp.step (.poll seen.length (picks rest.length) giveUpFirst)
      rcases hpoll : w.poll cls b (picks rest.length) giveUpFirst with ⟨answer, w', b'⟩
      simp only [Pool.step, Pool.pollAt, hplace, hpoll] at hstep
      cases answer with
      | none =>
        have hset : (seen ++ w :: rest).set seen.length w' = (seen ++ [w']) ++ rest := by simp
        simp only [hset] at hstep
        simpa using ih hstep
      | some result =>
        have herase : (seen ++ w :: rest).eraseIdx seen.length = seen ++ rest := by
          simp [List.eraseIdx_append_of_length_le]
        simp only [herase] at hstep
        exact ih hstep
    · have hnext : Reachable cls ⟨b, (seen ++ [w]) ++ rest⟩ := by simpa using hp
      simpa using ih hnext

theorem Reachable.settle {p : Pool W K H} (hp : Reachable cls p) (picks : Nat → Nat)
    (giveUpFirst : Bool) : Reachable cls (p.settle cls picks giveUpFirst).2 := by
  have hall : Reachable cls ⟨p.broker, [] ++ p.waiting⟩ := hp
  exact hall.pollEach picks giveUpFirst

end Pool

end LeaseBroker
