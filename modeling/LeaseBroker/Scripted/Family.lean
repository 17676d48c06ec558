import LeaseBroker.Broker.DeviceClasses
import LeaseBroker.Device.Info

/-!
# Scripted devices

A scripted family answers as it is told beforehand: its scans are listed, and so are the infos of
its devices and the faults of its calls.
-/

set_option autoImplicit false

namespace LeaseBroker

/-- A call that a scripted family keeps a record of, failed or not. The handle and the info that
come back need not belong together. -/
inductive ScriptedEvent where
  | adopt (id : DeviceId)
  | abandon (handle : Option DeviceId) (info : DeviceId)

structure ScriptedFamily where
  scans : List (Except Fault (List DeviceId)) := []
  infos : SortedMap DeviceId DeviceInfo := ∅
  adoptFaults : SortedMap DeviceId Fault := ∅
  abandonFault : Option Fault := none
  events : List ScriptedEvent := []

namespace ScriptedFamily

/-- The answer to the next scan. The last one is repeated. -/
def rescan (s : ScriptedFamily) : Reply ScriptedFamily (List DeviceId) :=
  match s.scans with
  | [] => { answer := .ok [], world := s }
  | [last] => { answer := last, world := s }
  | next :: rest => { answer := next, world := { s with scans := rest } }

/-- Adopts a device. One without a scripted info is known by its identifier only. -/
def adopt (id : DeviceId) (s : ScriptedFamily) : Reply ScriptedFamily (Handle × DeviceInfo) :=
  let world := { s with events := s.events ++ [.adopt id] }
  match s.adoptFaults.get? id with
  | some fault => { answer := .error fault, world }
  | none => { answer := .ok (.scripted id, (s.infos.get? id).getD { id }), world }

def abandon (info : DeviceInfo) (handle : Handle) (s : ScriptedFamily) :
    Reply ScriptedFamily Unit :=
  let id := match handle with
    | .scripted id => some id
    | _ => none
  let world := { s with events := s.events ++ [.abandon id info.id] }
  match s.abandonFault with
  | some fault => { answer := .error fault, world }
  | none => { answer := .ok (), world }

end ScriptedFamily

end LeaseBroker
