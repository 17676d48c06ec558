import LeaseBroker.Criteria.Field
import LeaseBroker.Device.Info
import LeaseBroker.Pattern.Basic

/-!
# Why the broker refuses

Every failure that a caller of the broker can see, by cause, with the one text of each.
-/

set_option autoImplicit false

namespace LeaseBroker

/-- One of the two lists that decide which identifiers are tracked. -/
inductive Listing where
  | allow
  | deny
  deriving DecidableEq, Inhabited, Repr

def Listing.name : Listing → String
  | allow => "allowlist"
  | deny => "denylist"

inductive AdoptionFault where
  | reported (fault : Fault)
  | duplicateInfo (other : DeviceId)
  deriving DecidableEq, Repr

def AdoptionFault.message : AdoptionFault → String
  | reported fault => fault.message
  | duplicateInfo other => s!"device info duplicates registered device \"{other}\""

inductive CriterionFault where
  | unknownField (name : String)
  | notFlag (key value : String)
  | described (reason : String)
  deriving DecidableEq, Repr

def CriterionFault.message : CriterionFault → String
  | unknownField name => s!"unknown field '{name}'"
  | notFlag key value => s!"'{key}' expects true or false, got '{value}'"
  | described reason => reason

/-- A failed operation of the broker. -/
inductive Refusal where
  | unknownDevice (device : DeviceId)
  | alreadyAdded (device : DeviceId)
  | denied (device : DeviceId)
  | busy (device : DeviceId)
  | notLeased (device : DeviceId) (acquirer : Option String)
  | unknownAcquirer (acquirer : String)
  | adoptionFailed (device : DeviceId) (fault : AdoptionFault)
  | noMatch
  | unavailable
  | cancelled
  | invalidPattern (field : Field) (fault : PatternFault)
  | invalidCriterion (fault : CriterionFault)
  | alreadyListed (device : DeviceId) (list : Listing)
  | notListed (device : DeviceId) (list : Listing)
  deriving DecidableEq, Repr

def Refusal.message : Refusal → String
  | unknownDevice device => s!"unknown device \"{device}\""
  | alreadyAdded device => s!"device \"{device}\" already added"
  | denied device => s!"device \"{device}\" is denied"
  | busy device => s!"device \"{device}\" is busy"
  | notLeased device none => s!"device \"{device}\" not acquired"
  | notLeased device (some acquirer) => s!"device \"{device}\" not acquired by \"{acquirer}\""
  | unknownAcquirer acquirer => s!"unknown acquirer \"{acquirer}\""
  | adoptionFailed device fault => s!"error accessing \"{device}\": {fault.message}"
  | noMatch => "no device matches the criteria"
  | unavailable => "no matching device currently available"
  | cancelled => "acquire cancelled before a device became available"
  | invalidPattern field fault => s!"invalid pattern for '{field.name}': {fault.message}"
  | invalidCriterion fault => s!"invalid criterion: {fault.message}"
  | alreadyListed device list => s!"device \"{device}\" already on the {list.name}"
  | notListed device list => s!"device \"{device}\" not on the {list.name}"

end LeaseBroker
