import LeaseBroker.Broker.Reconcile

/-!
# Waiting for a device

An acquirer that waits is parked until something changes, asks again, and goes on waiting if every
match is still at capacity. It may give up at a deadline or when it is cancelled. A pool is a
broker with the acquirers that wait for it, in the order in which they were parked. Operations that
may free or bring a device notify all of them; a notified acquirer asks again when it is polled.
-/

set_option autoImplicit false

namespace LeaseBroker

inductive Patience where
  | endless
  | limited (deadline : Moment)
  | cancellable (cancelled : Bool)

structure Waiter where
  name : String
  criteria : Criteria
  acquirer : Acquirer
  started : Moment
  patience : Patience := .endless
  notified : Bool := true

namespace Waiter

def expired (w : Waiter) (now : Moment) : Bool :=
  match w.patience with
  | .endless => false
  | .limited deadline => deadline ≤ now
  | .cancellable cancelled => cancelled

def ready (w : Waiter) (now : Moment) : Bool := w.notified || w.expired now

variable {W K H : Type} (cls : DeviceClasses W K H)

/-- Asks for a device if there was a notification since the last time. Gives no answer while the
waiter has to wait. -/
def ask (w : Waiter) (b : Broker W K H) (pick : Nat) :
    Option (Except Refusal DeviceId) × Waiter × Broker W K H :=
  if w.notified then
    match b.lease cls w.criteria w.acquirer w.started pick with
    | (.error .unavailable, b) => (none, { w with notified := false }, b.note (.blocked w.acquirer))
    | (answer, b) => (some answer, w, b)
  else (none, w, b)

def giveUp (w : Waiter) (b : Broker W K H) :
    Option (Except Refusal DeviceId) × Waiter × Broker W K H :=
  if w.expired b.now then (some (.error .cancelled), w, b.note (.gaveUp w.acquirer))
  else (none, w, b)

/-- Polls a waiter. When a device is free and it is time to give up as well, `giveUpFirst` says
which of the two counts. -/
def poll (w : Waiter) (b : Broker W K H) (pick : Nat) (giveUpFirst : Bool) :
    Option (Except Refusal DeviceId) × Waiter × Broker W K H :=
  if giveUpFirst then
    match w.giveUp b with
    | (none, w, b) => w.ask cls b pick
    | done => done
  else
    match w.ask cls b pick with
    | (none, w, b) => w.giveUp b
    | done => done

end Waiter

structure Pool (W K H : Type) where
  broker : Broker W K H
  waiting : List Waiter := []

namespace Pool
variable {W K H : Type}

def notify (p : Pool W K H) : Pool W K H :=
  { p with waiting := p.waiting.map fun w => { w with notified := true } }

/-- Does something that is no reason for a waiter to ask again. -/
def quietly {α : Type} (p : Pool W K H) (op : Broker W K H → α × Broker W K H) : α × Pool W K H :=
  let (answer, broker) := op p.broker
  (answer, { p with broker })

/-- Does something that is a reason to ask again if it is not refused. -/
def notifying {α : Type} (p : Pool W K H)
    (op : Broker W K H → Except Refusal α × Broker W K H) : Except Refusal α × Pool W K H :=
  match p.quietly op with
  | (.ok a, p) => (.ok a, p.notify)
  | (.error r, p) => (.error r, p)

def release (p : Pool W K H) (id : DeviceId) (acquirer : Acquirer) :
    Except Refusal Unit × Pool W K H := p.notifying (·.release id acquirer)

def releaseAny (p : Pool W K H) (id : DeviceId) : Except Refusal Acquirer × Pool W K H :=
  p.notifying (·.releaseAny id)

def releaseAll (p : Pool W K H) (acquirer : Acquirer) :
    Except Refusal (List DeviceId) × Pool W K H := p.notifying (·.releaseAll acquirer)

def reset (p : Pool W K H) : Pool W K H := { p with broker := p.broker.reset }.notify

def cancel (p : Pool W K H) (name : String) : Bool × Pool W K H :=
  match p.waiting.findIdx? (·.name == name) with
  | none => (false, p)
  | some i =>
    match p.waiting[i]? with
    | some { patience := .cancellable false, .. } =>
      (true, { p with waiting := p.waiting.modify i fun w => { w with patience := .cancellable true } })
    | _ => (false, p)

def drop (p : Pool W K H) (name : String) : Bool × Pool W K H :=
  match p.waiting.findIdx? (·.name == name) with
  | none => (false, p)
  | some i => (true, { p with waiting := p.waiting.eraseIdx i })

def advance (p : Pool W K H) (duration : Nat) : Pool W K H :=
  { p with broker := { p.broker with now := p.broker.now + duration } }

section Classes
variable (cls : DeviceClasses W K H)

def rescan (p : Pool W K H) : RescanReport × Pool W K H :=
  let (report, broker) := p.broker.rescan cls
  (report, { p with broker }.notify)

def add (p : Pool W K H) (id : DeviceId) : Except Refusal Unit × Pool W K H :=
  p.notifying (·.add cls id)

def remove (p : Pool W K H) (id : DeviceId) (force : Bool) : Except Refusal Unit × Pool W K H :=
  p.notifying (·.remove cls id force)

def park (p : Pool W K H) (w : Waiter) (pick : Nat) (giveUpFirst : Bool) :
    Option (Except Refusal DeviceId) × Pool W K H :=
  match w.poll cls p.broker pick giveUpFirst with
  | (some answer, _, broker) => (some answer, { p with broker })
  | (none, w, broker) => (none, { broker, waiting := p.waiting ++ [w] })

/-- Polls those of some waiters that there is a reason to poll, from first to last. Lists what
became of each, and which are still waiting. -/
def pollEach (picks : Nat → Nat) (giveUpFirst : Bool) (b : Broker W K H) :
    List Waiter → List (Waiter × Option (Except Refusal DeviceId)) × Pool W K H
  | [] => ([], ⟨b, []⟩)
  | w :: rest =>
    if w.ready b.now then
      let (answer, polled, b) := w.poll cls b (picks rest.length) giveUpFirst
      let (woken, p) := pollEach picks giveUpFirst b rest
      match answer with
      | some _ => ((w, answer) :: woken, p)
      | none => ((w, none) :: woken, { p with waiting := polled :: p.waiting })
    else
      let (woken, p) := pollEach picks giveUpFirst b rest
      (woken, { p with waiting := w :: p.waiting })

/-- Polls every waiter that there is a reason to poll, in order of parking. A lease taken by one
of them notifies nobody. -/
def settle (p : Pool W K H) (picks : Nat → Nat) (giveUpFirst : Bool) :
    List (Waiter × Option (Except Refusal DeviceId)) × Pool W K H :=
  pollEach cls picks giveUpFirst p.broker p.waiting

end Classes

end Pool

end LeaseBroker
