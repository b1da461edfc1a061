import KeyEnvelope.Text

/-!
# File paths

A file path has a root and names. Empty names and single dots are dropped when a
path is read; double dots stay. Two slashes at the beginning are a root of their
own, three or more are the same as one.
-/

namespace KeyEnvelope

inductive PathRoot where
  | none
  | single
  | double
deriving DecidableEq

structure FilePath where
  root : PathRoot
  names : List Text
deriving DecidableEq

namespace FilePath

def components (text : Text) : List Text :=
  text.splitOn '/'

def namesOf (text : Text) : List Text :=
  (components text).filter fun name => name ≠ "" ∧ name ≠ "."

def rootOf (text : Text) : PathRoot :=
  match (text.chars.takeWhile (· = '/')).length with
  | 0 => .none
  | 2 => .double
  | _ => .single

def ofText (text : Text) : FilePath :=
  ⟨rootOf text, namesOf text⟩

def toText (path : FilePath) : Text :=
  let names := Text.intercalate "/" path.names
  match path.root with
  | .none => if path.names.isEmpty then "." else names
  | .single => "/" ++ names
  | .double => "//" ++ names

def below (path : FilePath) (names : List Text) : FilePath :=
  ⟨path.root, path.names ++ names⟩

def isAbsolute (path : FilePath) : Bool :=
  path.root ≠ .none

def climbs (path : FilePath) : Bool :=
  path.names.contains ".."

def lastName (path : FilePath) : Text :=
  path.names.getLast?.getD ""

def parent (path : FilePath) : FilePath :=
  ⟨path.root, path.names.dropLast⟩

end FilePath

end KeyEnvelope
