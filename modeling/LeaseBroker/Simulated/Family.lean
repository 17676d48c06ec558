import LeaseBroker.Broker.DeviceClasses
import LeaseBroker.Device.Info
import LeaseBroker.Simulated.FaultPlan

/-!
# Simulated devices

A simulated family has a catalogue of devices, some of which are plugged in. Its calls fail as a
fault plan says, which several families may share. A device that is plugged in without being in the
catalogue has an info of the kind `mock`.
-/

set_option autoImplicit false

namespace LeaseBroker

inductive OwnershipEvent where
  | adopted (id : DeviceId)
  | abandoned (id : DeviceId)

/-- The devices of a simulated family. Events stand in order of time. -/
structure SimulatedFamily where
  catalogue : SortedMap DeviceId DeviceInfo := ∅
  present : SortedSet DeviceId := ∅
  adopted : SortedSet DeviceId := ∅
  events : List OwnershipEvent := []

namespace SimulatedFamily

/-- Plugs in a device, whose info takes the place of an earlier one. -/
def plug (s : SimulatedFamily) (info : DeviceInfo) : SimulatedFamily :=
  { s with catalogue := s.catalogue.insert info.id info, present := s.present.add info.id }

/-- Unplugs a device. Its info stays in the catalogue. -/
def unplug (s : SimulatedFamily) (id : DeviceId) : SimulatedFamily :=
  { s with present := s.present.erase id }

def setPresent (s : SimulatedFamily) (ids : List DeviceId) : SimulatedFamily :=
  { s with present := SortedSet.ofList ids }

def ofDevices (devices : List DeviceInfo) : SimulatedFamily := devices.foldl plug {}

def infoOf (s : SimulatedFamily) (id : DeviceId) : DeviceInfo :=
  (s.catalogue.get? id).getD { id, kind := "mock" }

def methods : List Method :=
  [⟨"shell", ["command"]⟩, ⟨"reboot", []⟩, ⟨"push", ["source", "destination"]⟩]

def failing {α : Type} (s : SimulatedFamily) (plan : FaultPlan) (cause : Scenario) :
    Reply (SimulatedFamily × FaultPlan) α :=
  { answer := .error (.ofText cause.message), world := (s, plan) }

def rescan (s : SimulatedFamily) (plan : FaultPlan) :
    Reply (SimulatedFamily × FaultPlan) (List DeviceId) :=
  match plan.check .rescan none with
  | (some cause, plan) => s.failing plan cause
  | (none, plan) => { answer := .ok s.present.members, world := (s, plan) }

def adopt (name : String) (id : DeviceId) (s : SimulatedFamily) (plan : FaultPlan) :
    Reply (SimulatedFamily × FaultPlan) (Handle × DeviceInfo) :=
  match plan.check .adopt (some id) with
  | (some cause, plan) => s.failing plan cause
  | (none, plan) =>
    if !s.present.contains id then
      { answer := .error (.ofText s!"device {id} is not connected"), world := (s, plan) }
    else if s.adopted.contains id then
      { answer := .error (.ofText s!"device {id} is already adopted"), world := (s, plan) }
    else
      { answer := .ok (.simulated id, s.infoOf id)
        world := ({ s with adopted := s.adopted.add id, events := s.events ++ [.adopted id] }, plan)
        notices := [.simulatedAdopted name id] }

/-- Takes a device back. It is no longer adopted even if the call fails by plan. -/
def abandon (name : String) (info : DeviceInfo) (handle : Handle) (s : SimulatedFamily)
    (plan : FaultPlan) : Reply (SimulatedFamily × FaultPlan) Unit :=
  match handle with
  | .simulated id =>
    let s := { s with adopted := s.adopted.erase id, events := s.events ++ [.abandoned id] }
    match plan.check .abandon (some id) with
    | (some cause, plan) => s.failing plan cause
    | (none, plan) =>
      { answer := .ok (), world := (s, plan), notices := [.simulatedAbandoned name id] }
  | _ =>
    { answer := .error (.ofText s!"handle for {info.id} was not issued by {name}")
      world := (s, plan) }

end SimulatedFamily

end LeaseBroker
