import LeaseBroker.Toml.Scalar
import LeaseBroker.Toml.Table
import LeaseBroker.Toml.Text

/-!
# Reading TOML

Reads a TOML text statement by statement: headers of tables, and keys with their values. Only the
fact that a text is no TOML is of interest here, not the reason.
-/

set_option autoImplicit false

namespace LeaseBroker.Toml

abbrev Reader (α : Type) := List Char → Option (α × List Char)

/-- Reads the items of an array after its opening bracket. Each of them takes at least one
character, so a text of `fuel` characters is read to its end. -/
def readItems (item : Reader Document) : Nat → Reader (List Document)
  | 0, _ => none
  | fuel + 1, s => do
    match ← skipLines false s with
    | ']' :: rest => pure ([], rest)
    | s =>
      let (d, rest) ← item s
      match ← skipLines false rest with
      | ',' :: rest =>
        let (items, rest) ← readItems item fuel rest
        pure (d :: items, rest)
      | ']' :: rest => pure ([d], rest)
      | _ => none

def readPair (value : Reader Document) (s : List Char) :
    Option ((List String × String × Document) × List Char) := do
  let (path, name, rest) ← readKey depthLimit s
  match rest with
  | '=' :: rest =>
    let (d, rest) ← value (skipBlanks rest)
    pure ((path, name, d), rest)
  | _ => none

def readPairs (value : Reader Document) (node : Node) : Nat → Reader Node
  | 0, _ => none
  | fuel + 1, s => do
    let ((path, name, d), rest) ← readPair value s
    let node ← node.assign path name d
    match skipBlanks rest with
    | ',' :: rest => readPairs value node fuel rest
    | '\x7d' :: rest => pure (node, rest)
    | _ => none

def readValue (nesting : Nat) (s : List Char) : Option (Document × List Char) :=
  match s, nesting with
  | '"' :: _, _ => (readString s).map fun (t, rest) => (.text t, rest)
  | '\'' :: _, _ => (readString s).map fun (t, rest) => (.text t, rest)
  | '[' :: rest, nesting + 1 =>
    (readItems (readValue nesting) rest.length rest).map fun (items, rest) => (.list items, rest)
  | '\x7b' :: rest, nesting + 1 =>
    match skipBlanks rest with
    | '\x7d' :: rest => some (.table [], rest)
    | rest =>
      (readPairs (readValue nesting) .root rest.length rest).map fun (node, rest) =>
        (node.toDocument, rest)
  | _, _ => readWord s

/-- A text that is being read: the tables so far and the header in force. The path to a table is
followed by its name; above the first header there is neither. -/
structure Progress where
  root : Node := .root
  header? : Option (List String × String) := none

namespace Progress

def path (p : Progress) : List String :=
  match p.header? with
  | none => []
  | some (path, name) => path ++ [name]

def assign (p : Progress) (path : List String) (name : String) (d : Document) : Option Progress :=
  (Node.update false (Node.assign path name d) p.path p.root).map fun root => { p with root }

def readStatement (p : Progress) (s : List Char) : Option (Progress × List Char) :=
  match s with
  | '[' :: '[' :: rest => do
    let (path, name, rest) ← readKey depthLimit rest
    let rest ← after? ']' (← after? ']' rest)
    pure (⟨← p.root.append path name, some (path, name)⟩, ← endLine? rest)
  | '[' :: rest => do
    let (path, name, rest) ← readKey depthLimit rest
    let rest ← after? ']' rest
    pure (⟨← p.root.define path name, some (path, name)⟩, ← endLine? rest)
  | s => do
    let ((path, name, d), rest) ← readPair (readValue depthLimit) s
    pure (← p.assign path name d, ← endLine? rest)

/-- Reads all statements. Every line takes at least one character, so a text of `fuel` characters is
read to its end. -/
def readAll : Nat → Progress → List Char → Option Progress
  | 0, p, s => if s.isEmpty then some p else none
  | fuel + 1, p, s =>
    match skipBlanks s with
    | [] => some p
    | s =>
      match endLine? s with
      | some rest => readAll fuel p rest
      | none => do
        let (p, rest) ← p.readStatement s
        readAll fuel p rest

end Progress

/-- The document that a TOML text stands for. A byte order mark in front is skipped. -/
def parse? (text : String) : Option Document :=
  let s := match text.toList with
    | '\ufeff' :: rest => rest
    | s => s
  (Progress.readAll s.length {} s).map fun p => p.root.toDocument

end LeaseBroker.Toml
