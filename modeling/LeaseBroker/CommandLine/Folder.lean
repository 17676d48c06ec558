import LeaseBroker.Serial.Directory

/-!
# Folders

A folder holds files by the parts of their paths; the folders inside it are those that some path
leads through. A path is followed step by step, so all that it leads through has to be there. Paths
that lead out of the folder are not followed.
-/

set_option autoImplicit false

namespace LeaseBroker

/-- The texts of files by the parts of their paths. -/
structure Folder where
  files : List (List String × String) := []

namespace Folder

def parts : List Char → List (List Char)
  | [] => [[]]
  | '/' :: rest => [] :: parts rest
  | c :: rest =>
    match parts rest with
    | [] => [[c]]
    | first :: others => (c :: first) :: others

def ofPaths (files : List (String × String)) : Folder :=
  ⟨files.map fun (path, text) => ((parts path.toList).map String.ofList, text)⟩

/-- What stands further down on the paths that lead through a place. -/
def below (f : Folder) (place : List String) : List (List String) :=
  f.files.filterMap fun (path, _) =>
    if place.isPrefixOf path && place.length < path.length then some (path.drop place.length)
    else none

def isFolder (f : Folder) (place : List String) : Bool :=
  place.isEmpty || !(f.below place).isEmpty

def textAt? (f : Folder) (place : List String) : Option String :=
  (f.files.find? (·.1 == place)).map (·.2)

def follow (f : Folder) (place : List String) : List String → Option (List String)
  | [] => some place
  | step :: rest =>
    if !f.isFolder place then none
    else if step = "" || step = "." then follow f place rest
    else if step = ".." then
      if place.isEmpty then none else follow f place.dropLast rest
    else follow f (place ++ [step]) rest

/-- The place that a path leads to. A path that begins with a slash leads out of the folder. -/
def place? (f : Folder) (path : String) : Option (List String) :=
  match parts path.toList with
  | [] :: _ => none
  | steps => f.follow [] (steps.map String.ofList)

def text? (f : Folder) (path : String) : Option String := (f.place? path).bind f.textAt?

/-- What a folder that a path leads to has in it, as links that lead to themselves. -/
def links? (f : Folder) (path : String) : Option LinkDirectory := do
  let place ← f.place? path
  if f.isFolder place then
    pure <| ((f.below place).filterMap List.head?).foldl (fun d name => d.add ⟨name, .node name⟩) {}
  else none

end Folder

end LeaseBroker
