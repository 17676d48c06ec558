import LeaseBroker.Broker.AccessLists
import LeaseBroker.Broker.DeviceClasses
import LeaseBroker.Criteria.Basic

/-!
# The broker

A broker keeps the devices that it has adopted, how many leases each of them has and who holds
them. This module has the state and the questions that leave it as it is. An operation that can be
refused gives back the broker in either case.
-/

set_option autoImplicit false

namespace LeaseBroker

/-- An adopted device with the class that holds it. -/
structure Entry (K H : Type) where
  handle : H
  info : DeviceInfo
  holder : K
  leases : Nat := 0

/-- What a broker remembers. `owners` has every identifier of the last scan, `infos` finds the
identifier of a registered info. -/
structure Registry (K H : Type) where
  classes : List K := []
  owners : SortedMap DeviceId K := ∅
  access : AccessLists := {}
  entries : SortedMap DeviceId (Entry K H) := ∅
  infos : SortedMap DeviceInfo DeviceId := ∅
  ledger : Ledger := {}

/-- A broker together with the world of its classes, the clock and the log, whose newest event
stands first. -/
structure Broker (W K H : Type) extends Registry K H where
  world : W
  now : Moment := 0
  log : List Notice := []

namespace Broker
variable {W K H : Type}

def start (world : W) (access : AccessLists) : Broker W K H := { world, access }

def note (b : Broker W K H) (notice : Notice) : Broker W K H :=
  { b with log := notice :: b.log }

def accept {α : Type} (b : Broker W K H) (reply : Reply W α) : Broker W K H :=
  { b with world := reply.world, log := reply.notices.reverse ++ b.log }

def events (b : Broker W K H) : List Notice := b.log.reverse

def entry (b : Broker W K H) (id : DeviceId) : Except Refusal (Entry K H) :=
  match b.entries.get? id with
  | some e => .ok e
  | none => .error (.unknownDevice id)

def devices (b : Broker W K H) : List DeviceId := b.entries.keys

def info (b : Broker W K H) (id : DeviceId) : Except Refusal DeviceInfo :=
  (b.entry id).map (·.info)

def leaseCount (b : Broker W K H) (id : DeviceId) : Except Refusal Nat :=
  (b.entry id).map (·.leases)

/-- The info of a device that has a lease. -/
def acquired (b : Broker W K H) (id : DeviceId) : Except Refusal DeviceInfo :=
  match b.entry id with
  | .error r => .error r
  | .ok e => if e.leases = 0 then .error (.notLeased id none) else .ok e.info

section Classes
variable (cls : DeviceClasses W K H)

def classNames (b : Broker W K H) : List String := b.classes.map cls.name

def isFree (b : Broker W K H) (e : Entry K H) : Bool :=
  (cls.capacity b.world e.holder).admits e.leases

def available (b : Broker W K H) (id : DeviceId) : Except Refusal Bool :=
  (b.entry id).map (b.isFree cls)

def methods (b : Broker W K H) (id : DeviceId) : Except Refusal (List Method) :=
  (b.entry id).map fun e => cls.methods e.holder

def selected (b : Broker W K H) (criteria : Criteria) : SortedMap DeviceId (Entry K H) :=
  b.entries.filter fun _ e =>
    criteria.matchesInfo e.info && criteria.matchesAvailability (b.isFree cls e)

def matching (b : Broker W K H) (criteria : Criteria) : List DeviceId :=
  (b.selected cls criteria).keys

def matchingFree (b : Broker W K H) (criteria : Criteria) : List DeviceId :=
  ((b.selected cls criteria).filter fun _ e => b.isFree cls e).keys

end Classes

end Broker

end LeaseBroker
