import LeaseBroker.Settings.Override
import LeaseBroker.Settings.Reading
import LeaseBroker.Toml.Reader

/-!
# Layers of settings

Settings come from a file and from the environment, which overrides the file. A later layer is
merged into an earlier one: tables are merged member by member, any other value is replaced.
-/

set_option autoImplicit false

namespace LeaseBroker

namespace Document

def lastMember? (members : List (String × Document)) (name : String) : Option Document :=
  (members.reverse.find? (·.1 == name)).map (·.2)

mutual

def merge (base later : Document) : Document :=
  match later with
  | table members =>
    match base with
    | table old => table (mergeMembers old members)
    | _ => table members
  | d => d

def mergeMembers (old : List (String × Document)) : List (String × Document) →
    List (String × Document)
  | [] => old
  | (name, d) :: rest =>
    let merged := match lastMember? old name with
      | some base => merge base d
      | none => d
    mergeMembers (putMember name merged old) rest

end

end Document

namespace Settings

inductive LoadFault where
  | notToml
  | document (fault : Document.Fault)

/-- The document of a settings file. A missing file says nothing. -/
def fileDocument? : Option String → Option Document
  | none => some (.table [])
  | some text => Toml.parse? text

def overrides (environment : List (String × String)) : Document :=
  (environment.filterMap fun v => Override.document? v.1 v.2).foldl Document.merge (.table [])

def load (file : Option String) (environment : List (String × String)) :
    Except LoadFault Settings :=
  match fileDocument? file with
  | none => .error .notToml
  | some d =>
    match (d.merge (overrides environment)).readSettings ⟨.layered, false⟩ with
    | .ok s => .ok s
    | .error f => .error (.document f)

/-- Settings can be compared, while the faults of documents cannot. -/
theorem load_eq_ok {file : Option String} {environment : List (String × String)} {s : Settings}
    (h : (load file environment).toOption = some s) : load file environment = .ok s := by
  revert h
  cases load file environment with
  | error fault => exact nofun
  | ok loaded => exact fun h => congrArg Except.ok (Option.some.inj h)

end Settings

end LeaseBroker
