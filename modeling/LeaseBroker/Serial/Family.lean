import LeaseBroker.Broker.DeviceClasses
import LeaseBroker.Device.Info
import LeaseBroker.Serial.Directory

/-!
# Serial adapters

The devices of a serial family are the adapters in a directory of links, which is listed anew for
every call. A directory that does not exist has no adapters. When the system cannot list the
directory or follow a link, the call fails with what the system says.
-/

set_option autoImplicit false

namespace LeaseBroker

inductive SerialFault where
  | notPresent (id : DeviceId)
  | alreadyAdopted (id : DeviceId)
  | foreignHandle (id : DeviceId)
  | unresolved {fault : Fault}

namespace SerialFault

/-- An error of the system while it lists the directory, which is told under a heading. -/
def unlisted (error : String) : SerialFault := @unresolved ⟨["IO error: " ++ error, error]⟩

/-- An error of the system while it follows a link, which is told as it is. -/
def unfollowed (error : String) : SerialFault := @unresolved (.ofText error)

def fault : SerialFault → Fault
  | notPresent id => .ofText s!"serial device not present: {id}"
  | alreadyAdopted id => .ofText s!"serial device already adopted: {id}"
  | foreignHandle id => .ofText s!"foreign handle for serial device {id}"
  | @unresolved fault => fault

end SerialFault

def baseName (path : String) : String :=
  match Text.cutLast? ['/'] path.toList with
  | some (_, last) => .ofList last
  | none => path

/-- A serial family as it stands: the directory that it looks into, whose path is `path`, and the
devices that it has adopted. -/
structure SerialFamily where
  path : String
  directory : Option LinkDirectory
  adopted : SortedSet DeviceId := ∅

namespace SerialFamily

def methods : List Method := [⟨"open", ["baud_rate"]⟩, ⟨"device_path", []⟩]

/-- The adapters that are plugged in; none if there is no directory. -/
def listing (s : SerialFamily) : Except SerialFault (SortedMap DeviceId Adapter) :=
  match s.directory with
  | none => .ok ∅
  | some d =>
    match d.failure with
    | none => .ok d.adapters
    | some error => .error (.unlisted error)

/-- The adapters that can be seen; none if the directory cannot be listed. -/
def adapters (s : SerialFamily) : SortedMap DeviceId Adapter := s.listing.toOption.getD ∅

def notices (name : String) (s : SerialFamily) : List Notice :=
  if s.directory.isNone then [.directoryMissing name s.path] else []

def infoOf (id : DeviceId) (a : Adapter) (node : String) : DeviceInfo :=
  { id, kind := a.name.kind, hardware := "if" ++ a.name.interface, display := baseName node }

def resolve (s : SerialFamily) (id : DeviceId) : Except SerialFault (Adapter × String) :=
  match s.listing with
  | .error fault => .error fault
  | .ok adapters =>
    match adapters.get? id with
    | none => .error (.notPresent id)
    | some a =>
      match a.link.target with
      | .broken error => .error (.unfollowed error)
      | .node path => if s.adopted.contains id then .error (.alreadyAdopted id) else .ok (a, path)

def rescan (s : SerialFamily) : Except SerialFault (List DeviceId) := s.listing.map SortedMap.keys

def adopt (id : DeviceId) (s : SerialFamily) :
    Except SerialFault (Handle × DeviceInfo) × SerialFamily :=
  match s.resolve id with
  | .error fault => (.error fault, s)
  | .ok (a, node) =>
    (.ok (.serial a.link.file node, infoOf id a node), { s with adopted := s.adopted.add id })

/-- Takes an adapter back. It is no longer adopted even if the handle is foreign. -/
def abandon (info : DeviceInfo) (handle : Handle) (s : SerialFamily) :
    Except SerialFault Unit × SerialFamily :=
  let s := { s with adopted := s.adopted.erase info.id }
  match handle with
  | .serial .. => (.ok (), s)
  | _ => (.error (.foreignHandle info.id), s)

end SerialFamily

end LeaseBroker
