import LeaseBroker.Serial.LinkName

/-!
# Directories of links to serial adapters

A directory has links, in the order in which it lists them. The system follows a link to a device
node or says why it cannot, and it may be unable to list the directory at all. Links whose names
cannot be read are no adapters. When two links give the same identifier the one that is listed later
counts.
-/

set_option autoImplicit false

namespace LeaseBroker

/-- What a link leads to, or what the system says when it cannot be followed. -/
inductive LinkTarget where
  | node (path : String)
  | broken (error : String)

/-- The target of a link to a file that is not there. -/
def LinkTarget.nothing : LinkTarget := .broken "No such file or directory (os error 2)"

structure Link where
  file : String
  target : LinkTarget

structure Adapter where
  name : LinkName
  link : Link

/-- The links of a directory, and what the system says if it cannot list them. -/
structure LinkDirectory where
  links : List Link := []
  failure : Option String := none

namespace LinkDirectory

def add (d : LinkDirectory) (link : Link) : LinkDirectory :=
  if d.links.any (·.file == link.file) then d else { d with links := d.links ++ [link] }

def remove (d : LinkDirectory) (file : String) : LinkDirectory :=
  { d with links := d.links.filter (·.file != file) }

def readable (d : LinkDirectory) : List Adapter :=
  d.links.filterMap fun link => (LinkName.parse? link.file).map fun name => ⟨name, link⟩

def adapters (d : LinkDirectory) : SortedMap DeviceId Adapter :=
  .ofList (d.readable.map fun a => (a.name.deviceId, a))

end LinkDirectory

end LeaseBroker
