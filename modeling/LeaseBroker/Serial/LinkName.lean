import LeaseBroker.Device.Info
import LeaseBroker.Text.Split

/-!
# Names of links to serial adapters

A USB adapter is found through a link whose name has the form
`usb-VENDOR_MODEL_SERIAL-ifINTERFACE-portPORT`, where the model may be missing together with its
underscore. The vendor ends at the first underscore, the serial number begins after the last one,
and the interface begins after the last `-if`.
-/

set_option autoImplicit false

namespace LeaseBroker

structure LinkName where
  vendor : String
  model : String
  serial : String
  interface : String
  port : String
  deriving DecidableEq

namespace LinkName
open Text

/-- Reads the name of a link. Only the model may be empty. -/
def parse? (name : String) : Option LinkName := do
  let name ← dropFront? "usb-".toList name.toList
  let (body, suffix) ← cutLast? "-if".toList name
  let (interface, port) ← cutFirst? "-port".toList suffix
  let (vendor, rest) ← cutFirst? ['_'] body
  let (model, serial) := (cutLast? ['_'] rest).getD ([], rest)
  if interface.isEmpty || port.isEmpty || vendor.isEmpty || serial.isEmpty then none
  else pure ⟨.ofList vendor, .ofList model, .ofList serial, .ofList interface, .ofList port⟩

def isPrimary (n : LinkName) : Bool :=
  n.interface.toList.all (· = '0') && n.port.toList.all (· = '0')

/-- The identifier of the device: the serial number, and for every port but the first also the
interface and the port. -/
def deviceId (n : LinkName) : DeviceId :=
  if n.isPrimary then n.serial else n.serial ++ "-if" ++ n.interface ++ "-port" ++ n.port

def kind (n : LinkName) : String :=
  if n.model = "" then n.vendor else n.vendor ++ "_" ++ n.model

end LinkName

end LeaseBroker
