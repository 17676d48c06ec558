import LeaseBroker.Broker.Refusal

/-!
# Access lists

Which identifiers a broker may track. An empty allow list allows every identifier; the deny list
always wins.
-/

set_option autoImplicit false

namespace LeaseBroker

structure AccessLists where
  allow : SortedSet DeviceId := ∅
  deny : SortedSet DeviceId := ∅
  deriving Inhabited

namespace AccessLists

/-- Lists with the given members; repeats count once. -/
def ofMembers (allow deny : List DeviceId) : AccessLists :=
  ⟨SortedSet.ofList allow, SortedSet.ofList deny⟩

def permits (lists : AccessLists) (id : DeviceId) : Bool :=
  (lists.allow.isEmpty || lists.allow.contains id) && !lists.deny.contains id

def get (lists : AccessLists) : Listing → SortedSet DeviceId
  | .allow => lists.allow
  | .deny => lists.deny

def set (lists : AccessLists) (list : Listing) (ids : SortedSet DeviceId) : AccessLists :=
  match list with
  | .allow => { lists with allow := ids }
  | .deny => { lists with deny := ids }

def members (lists : AccessLists) (list : Listing) : List DeviceId :=
  (lists.get list).members

def enlist (lists : AccessLists) (list : Listing) (id : DeviceId) : Except Refusal AccessLists :=
  if (lists.get list).contains id then .error (.alreadyListed id list)
  else .ok (lists.set list ((lists.get list).add id))

def delist (lists : AccessLists) (list : Listing) (id : DeviceId) : Except Refusal AccessLists :=
  if (lists.get list).contains id then .ok (lists.set list ((lists.get list).erase id))
  else .error (.notListed id list)

end AccessLists

end LeaseBroker
