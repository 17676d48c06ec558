import LeaseBroker.Document.Basic

/-!
# Building TOML tables

A TOML text builds its tables statement by statement. A table that only stands in the way to
another one is implicit until a header defines it. A table made by dotted keys stays open to dotted
keys of the same section, and to nothing else. Values, inline tables among them, are closed.
-/

set_option autoImplicit false

namespace LeaseBroker.Toml

/-- What a name in a table stands for: a value, a table, or an array of tables with the last one
first. -/
inductive Node where
  | value (d : Document)
  | table (implicit dotted : Bool) (members : List (String × Node))
  | tables (lastFirst : List (List (String × Node)))

namespace Node
open Document (putMember)

def root : Node := table false false []

def find? (name : String) : List (String × Node) → Option Node
  | [] => none
  | (n, node) :: rest => if n = name then some node else find? name rest

/-- Changes the table at a path and makes the tables on the way there. The way leads through the
last table of an array. Dotted keys lead only through implicit tables. -/
def update (dotted : Bool) (act : Node → Option Node) : List String → Node → Option Node
  | [], node => act node
  | name :: path, table implicit isDotted members =>
    match find? name members with
    | none => do
      let child ← update dotted act path (table true dotted [])
      pure (table implicit isDotted (putMember name child members))
    | some (table childImplicit childDotted inner) =>
      if dotted && !childImplicit then none
      else do
        let child ← update dotted act path (table childImplicit childDotted inner)
        pure (table implicit isDotted (putMember name child members))
    | some (tables (last :: earlier)) => do
      match ← update dotted act path (table false false last) with
      | table _ _ inner =>
        pure (table implicit isDotted (putMember name (tables (inner :: earlier)) members))
      | _ => none
    | _ => none
  | _, _ => none

/-- Gives a value to a new name. A dotted key may end only in a table made by dotted keys. -/
def assign (path : List String) (name : String) (d : Document) (node : Node) : Option Node :=
  let set : Node → Option Node
    | table implicit isDotted members =>
      if isDotted = path.isEmpty then none
      else match find? name members with
        | none => some (table implicit isDotted (putMember name (value d) members))
        | some _ => none
    | _ => none
  update true set path node

def define (path : List String) (name : String) (node : Node) : Option Node :=
  let set : Node → Option Node
    | table implicit isDotted members =>
      match find? name members with
      | none => some (table implicit isDotted (putMember name (table false false []) members))
      | some (table true false inner) =>
        some (table implicit isDotted (putMember name (table false false inner) members))
      | some _ => none
    | _ => none
  update false set path node

def append (path : List String) (name : String) (node : Node) : Option Node :=
  let set : Node → Option Node
    | table implicit isDotted members =>
      match find? name members with
      | none => some (table implicit isDotted (putMember name (tables [[]]) members))
      | some (tables ts) =>
        some (table implicit isDotted (putMember name (tables ([] :: ts)) members))
      | some _ => none
    | _ => none
  update false set path node

mutual

def toDocument : Node → Document
  | value d => d
  | table _ _ members => .table (membersToDocument members)
  | tables ts => .list (tablesToDocument ts []) 

def membersToDocument : List (String × Node) → List (String × Document)
  | [] => []
  | (name, node) :: rest => (name, toDocument node) :: membersToDocument rest

/-- Tables with the last one first, in front of those that come after them. -/
def tablesToDocument : List (List (String × Node)) → List Document → List Document
  | [], done => done
  | t :: rest, done => tablesToDocument rest (.table (membersToDocument t) :: done)

end

end Node

end LeaseBroker.Toml
