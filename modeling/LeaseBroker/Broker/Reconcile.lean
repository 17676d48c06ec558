import LeaseBroker.Broker.Leasing

/-!
# Adopting and forgetting devices

A rescan asks every class what is there, adopts what is new and permitted, and forgets what is
gone or no longer permitted. Of several classes that report an identifier the last one in order of
registration owns it. A class that fails contributes nothing, and no failure of a class stops a
rescan.
-/

set_option autoImplicit false

namespace LeaseBroker

structure RescanReport where
  found : List DeviceId := []
  kept : List DeviceId := []
  forgot : List DeviceId := []
  failed : List DeviceId := []

namespace Broker
variable {W K H : Type} (cls : DeviceClasses W K H)

def register (b : Broker W K H) (k : K) : Broker W K H :=
  { b with classes := b.classes ++ [k] }.note
    (.classRegistered (cls.name k) (cls.capacity b.world k))

def claim (k : K) (b : Broker W K H) (id : DeviceId) : Broker W K H :=
  let claimed := { b with owners := b.owners.insert id k }
  match b.owners.get? id with
  | none => claimed
  | some previous => claimed.note (.reportedTwice id (cls.name k) (cls.name previous))

def survey (b : Broker W K H) (k : K) : Broker W K H :=
  let reply := cls.rescan k b.world
  let b := b.accept reply
  match reply.answer with
  | .ok ids => ids.foldl (claim cls k) b
  | .error fault => b.note (.scanFailed (cls.name k) fault.message)

def scan (b : Broker W K H) : Broker W K H :=
  b.classes.foldl (survey cls) { b with owners := ∅ }

/-- Gives a device back to its class. A failure is logged and changes nothing. -/
def abandon (b : Broker W K H) (id : DeviceId) (k : K) (info : DeviceInfo) (handle : H) :
    Broker W K H :=
  let reply := cls.abandon k info handle b.world
  let b := b.accept reply
  match reply.answer with
  | .ok () => b
  | .error fault => b.note (.abandonFailed id (cls.name k) fault.message)

/-- Lets a class adopt a device and registers it, unless its info is that of another device. -/
def adopt (b : Broker W K H) (id : DeviceId) (k : K) : Except Refusal Unit × Broker W K H :=
  let reply := cls.adopt k id b.world
  let b := b.accept reply
  match reply.answer with
  | .error fault => (.error (.adoptionFailed id (.reported fault)), b)
  | .ok (handle, info) =>
    match b.infos.get? info with
    | some other =>
      (.error (.adoptionFailed id (.duplicateInfo other)), b.abandon cls id k info handle)
    | none =>
      let entries := b.entries.insert id { handle, info, holder := k }
      (.ok (), { b with entries, infos := b.infos.insert info id })

def forget (b : Broker W K H) (id : DeviceId) : Except Refusal Unit × Broker W K H :=
  match b.entries.get? id with
  | none => (.error (.unknownDevice id), b)
  | some e =>
    match b.releaseTimes id e.leases with
    | (.error r, b) => (.error r, b)
    | (.ok (), b) =>
      let gone := { b with entries := b.entries.erase id, infos := b.infos.erase e.info }
      (.ok (), gone.abandon cls id e.holder e.info e.handle)

def welcome (state : RescanReport × Broker W K H) (id : DeviceId) : RescanReport × Broker W K H :=
  let (report, b) := state
  if b.entries.contains id then
    ({ report with kept := report.kept ++ [id] }, b.note (.kept id))
  else match b.owners.get? id with
    | none => (report, b)
    | some k =>
      match b.adopt cls id k with
      | (.ok (), b) =>
        ({ report with found := report.found ++ [id] }, b.note (.found id (cls.name k)))
      | (.error r, b) =>
        ({ report with failed := report.failed ++ [id] },
          b.note (.connectFailed id (cls.name k) r.message))

def dismiss (state : RescanReport × Broker W K H) (id : DeviceId) : RescanReport × Broker W K H :=
  let (report, b) := state
  match b.forget cls id with
  | (.ok (), b) => ({ report with forgot := report.forgot ++ [id] }, b.note (.forgot id))
  | (.error r, b) => (report, b.note (.forgetFailed id r.message))

def eligible (b : Broker W K H) : List DeviceId := b.owners.keys.filter b.access.permits

def rescan (b : Broker W K H) : RescanReport × Broker W K H :=
  let b := b.scan cls
  let eligible := b.eligible
  let (report, b) := eligible.foldl (welcome cls) ({}, b)
  let gone := b.devices.filter fun id => !eligible.contains id
  let (report, b) := gone.foldl (dismiss cls) (report, b)
  (report, b.note (.scanned report.found.length report.kept.length report.forgot.length
    report.failed.length))

def add (b : Broker W K H) (id : DeviceId) : Except Refusal Unit × Broker W K H :=
  match b.owners.get? id with
  | none => (.error (.unknownDevice id), b)
  | some k =>
    if !b.access.permits id then (.error (.denied id), b)
    else if b.entries.contains id then (.error (.alreadyAdded id), b)
    else match b.adopt cls id k with
      | (.ok (), b) => (.ok (), b.note (.added id))
      | (.error r, b) => (.error r, b)

def remove (b : Broker W K H) (id : DeviceId) (force : Bool) :
    Except Refusal Unit × Broker W K H :=
  match b.entries.get? id with
  | none => (.error (.unknownDevice id), b)
  | some e =>
    if 0 < e.leases ∧ !force then (.error (.busy id), b)
    else match b.forget cls id with
      | (.ok (), b) => (.ok (), b.note (.removed id force))
      | (.error r, b) => (.error r, b)

/-- Forgets every device and every lease without a word to the classes. -/
def reset (b : Broker W K H) : Broker W K H :=
  let leased := b.entries.toList.filter fun row => 0 < row.2.leases
  let b := leased.foldl (fun b row => b.note (.droppedOnReset row.1 row.2.leases)) b
  { b with entries := ∅, infos := ∅, ledger := {} }

/-- Puts an identifier on a list. Registered devices stay until the next rescan. -/
def enlist (b : Broker W K H) (list : Listing) (id : DeviceId) :
    Except Refusal Unit × Broker W K H :=
  match b.access.enlist list id with
  | .error r => (.error r, b)
  | .ok access =>
    (.ok (), { b with access }.note (match list with | .allow => .allowed id | .deny => .denied id))

def delist (b : Broker W K H) (list : Listing) (id : DeviceId) :
    Except Refusal Unit × Broker W K H :=
  match b.access.delist list id with
  | .error r => (.error r, b)
  | .ok access =>
    (.ok (), { b with access }.note
      (match list with | .allow => .unallowed id | .deny => .undenied id))

end Broker

end LeaseBroker
