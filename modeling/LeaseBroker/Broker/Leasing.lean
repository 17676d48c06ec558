import LeaseBroker.Broker.Basic

/-!
# Leasing and releasing

A lease is counted twice, in the entry of its device and in the ledger. Every operation here
changes both or neither. Which of several free devices is leased is not determined by the criteria,
so the caller passes a number that picks one.
-/

set_option autoImplicit false

namespace LeaseBroker.Broker
variable {W K H : Type}

/-- The member of a list that a number picks; every member is picked by some number. -/
def choose (first : DeviceId) (rest : List DeviceId) (pick : Nat) : DeviceId :=
  (first :: rest).get ⟨pick % (rest.length + 1), Nat.mod_lt _ (Nat.succ_pos _)⟩

/-- Leases a free device that passes the criteria. `started` is when the acquirer began to ask. -/
def lease (cls : DeviceClasses W K H) (b : Broker W K H) (criteria : Criteria)
    (acquirer : Acquirer) (started : Moment) (pick : Nat) :
    Except Refusal DeviceId × Broker W K H :=
  if b.matching cls criteria = [] then (.error .noMatch, b)
  else match b.matchingFree cls criteria with
    | [] => (.error .unavailable, b)
    | first :: rest =>
      let id := choose first rest pick
      match b.entries.get? id with
      | none => (.error (.unknownDevice id), b)
      | some e =>
        let entries := b.entries.insert id { e with leases := e.leases + 1 }
        let ledger := b.ledger.record acquirer id b.now
        (.ok id, { b with entries, ledger }.note (.acquired id acquirer (b.now - started)))

def tryAcquire (cls : DeviceClasses W K H) (b : Broker W K H) (criteria : Criteria)
    (acquirer : Acquirer) (pick : Nat) : Except Refusal DeviceId × Broker W K H :=
  b.lease cls criteria acquirer b.now pick

/-- Ends the newest lease that an acquirer has on a device, or that its first holder in name
order has. Tells whose lease it was. -/
def endLease (b : Broker W K H) (id : DeviceId) (acquirer : Option Acquirer) :
    Except Refusal Acquirer × Broker W K H :=
  match b.entries.get? id with
  | none => (.error (.unknownDevice id), b)
  | some e =>
    if e.leases = 0 then (.error (.notLeased id none), b)
    else match acquirer <|> b.ledger.holderOf? id with
      | none => (.error (.notLeased id none), b)
      | some holder =>
        match b.ledger.pop holder id with
        | (none, ledger) => (.error (.notLeased id (some holder)), { b with ledger })
        | (some since, ledger) =>
          let entries := b.entries.insert id { e with leases := e.leases - 1 }
          (.ok holder, { b with entries, ledger }.note (.released id holder (b.now - since)))

def release (b : Broker W K H) (id : DeviceId) (acquirer : Acquirer) :
    Except Refusal Unit × Broker W K H :=
  match b.endLease id (some acquirer) with
  | (.ok _, b) => (.ok (), b)
  | (.error r, b) => (.error r, b)

def releaseAny (b : Broker W K H) (id : DeviceId) : Except Refusal Acquirer × Broker W K H :=
  b.endLease id none

def releaseEach (b : Broker W K H) (acquirer : Acquirer) :
    List DeviceId → Except Refusal Unit × Broker W K H
  | [] => (.ok (), b)
  | id :: rest =>
    match b.endLease id (some acquirer) with
    | (.ok _, b) => b.releaseEach acquirer rest
    | (.error r, b) => (.error r, b)

def releaseAll (b : Broker W K H) (acquirer : Acquirer) :
    Except Refusal (List DeviceId) × Broker W K H :=
  match b.ledger.holdings acquirer with
  | [] => (.error (.unknownAcquirer acquirer), b)
  | id :: rest =>
    match b.releaseEach acquirer (id :: rest) with
    | (.ok (), b) => (.ok (id :: rest), b)
    | (.error r, b) => (.error r, b)

def releaseTimes (b : Broker W K H) (id : DeviceId) : Nat → Except Refusal Unit × Broker W K H
  | 0 => (.ok (), b)
  | n + 1 =>
    match b.endLease id none with
    | (.ok _, b) => b.releaseTimes id n
    | (.error r, b) => (.error r, b)

end LeaseBroker.Broker
