import LeaseBroker.Scripted.Family
import LeaseBroker.Serial.Family
import LeaseBroker.Simulated.Family

/-!
# The bench

The bench is the world of the built-in families: everything that their classes read and change.
Classes refer to their part of it by a slot, fault plans have slots of their own, and directories
of links go by their paths. A slot that was never filled is empty.
-/

set_option autoImplicit false

namespace LeaseBroker

/-- The family of a class and where on the bench its part is. -/
inductive Family where
  | simulated (slot plan : Nat)
  | serial (slot : Nat) (directory : String)
  | scripted (slot : Nat)

structure DeviceClass where
  name : String
  capacity : Capacity := .exclusive
  family : Family

/-- What the built-in families read and change. -/
structure Bench where
  simulated : SortedMap Nat SimulatedFamily := ∅
  plans : SortedMap Nat FaultPlan := ∅
  adopted : SortedMap Nat (SortedSet DeviceId) := ∅
  directories : SortedMap String LinkDirectory := ∅
  scripted : SortedMap Nat ScriptedFamily := ∅

namespace Bench

def simulatedAt (w : Bench) (slot : Nat) : SimulatedFamily := (w.simulated.get? slot).getD {}

def planAt (w : Bench) (slot : Nat) : FaultPlan := (w.plans.get? slot).getD {}

def scriptedAt (w : Bench) (slot : Nat) : ScriptedFamily := (w.scripted.get? slot).getD {}

def serialAt (w : Bench) (slot : Nat) (directory : String) : SerialFamily :=
  ⟨directory, w.directories.get? directory, (w.adopted.get? slot).getD ∅⟩

def setSimulated (w : Bench) (slot plan : Nat) (s : SimulatedFamily) (p : FaultPlan) : Bench :=
  { w with simulated := w.simulated.insert slot s, plans := w.plans.insert plan p }

def setScripted (w : Bench) (slot : Nat) (s : ScriptedFamily) : Bench :=
  { w with scripted := w.scripted.insert slot s }

def setAdopted (w : Bench) (slot : Nat) (ids : SortedSet DeviceId) : Bench :=
  { w with adopted := w.adopted.insert slot ids }

def serialAnswer {α : Type} : Except SerialFault α → Except Fault α
  | .ok a => .ok a
  | .error e => .error e.fault

def methods (k : DeviceClass) : List Method :=
  match k.family with
  | .simulated .. => SimulatedFamily.methods
  | .serial .. => SerialFamily.methods
  | .scripted _ => []

def rescan (k : DeviceClass) (w : Bench) : Reply Bench (List DeviceId) :=
  match k.family with
  | .simulated slot plan =>
    let r := (w.simulatedAt slot).rescan (w.planAt plan)
    { answer := r.answer, world := w.setSimulated slot plan r.world.1 r.world.2
      notices := r.notices }
  | .serial slot directory =>
    let s := w.serialAt slot directory
    { answer := serialAnswer s.rescan, world := w, notices := s.notices k.name }
  | .scripted slot =>
    let r := (w.scriptedAt slot).rescan
    { answer := r.answer, world := w.setScripted slot r.world, notices := r.notices }

def serialNotices (k : DeviceClass) (id : DeviceId) :
    Except SerialFault (Handle × DeviceInfo) → List Notice
  | .ok (.serial _ node, _) => [.serialAdopted k.name id node]
  | _ => []

def adopt (k : DeviceClass) (id : DeviceId) (w : Bench) : Reply Bench (Handle × DeviceInfo) :=
  match k.family with
  | .simulated slot plan =>
    let r := SimulatedFamily.adopt k.name id (w.simulatedAt slot) (w.planAt plan)
    { answer := r.answer, world := w.setSimulated slot plan r.world.1 r.world.2
      notices := r.notices }
  | .serial slot directory =>
    let s := w.serialAt slot directory
    let (answer, after) := s.adopt id
    { answer := serialAnswer answer, world := w.setAdopted slot after.adopted
      notices := s.notices k.name ++ serialNotices k id answer }
  | .scripted slot =>
    let r := (w.scriptedAt slot).adopt id
    { answer := r.answer, world := w.setScripted slot r.world, notices := r.notices }

def abandon (k : DeviceClass) (info : DeviceInfo) (handle : Handle) (w : Bench) :
    Reply Bench Unit :=
  match k.family with
  | .simulated slot plan =>
    let r := SimulatedFamily.abandon k.name info handle (w.simulatedAt slot) (w.planAt plan)
    { answer := r.answer, world := w.setSimulated slot plan r.world.1 r.world.2
      notices := r.notices }
  | .serial slot directory =>
    let (answer, after) := (w.serialAt slot directory).abandon info handle
    { answer := serialAnswer answer, world := w.setAdopted slot after.adopted }
  | .scripted slot =>
    let r := (w.scriptedAt slot).abandon info handle
    { answer := r.answer, world := w.setScripted slot r.world, notices := r.notices }

def classes : DeviceClasses Bench DeviceClass Handle :=
  { name := DeviceClass.name
    capacity := fun _ k => k.capacity
    methods, rescan, adopt, abandon }

end Bench

end LeaseBroker
