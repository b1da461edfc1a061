import KeyEnvelope.Calendar
import KeyEnvelope.FilePath
import KeyEnvelope.FileTree
import KeyEnvelope.Storage.Client

/-!
# Storage in a directory

Store paths lead below a base directory. A draft is a temporary file beside its
target; publishing links it to the target, which fails if anything is there, and
removes the temporary file in any case.
-/

namespace KeyEnvelope.Storage

structure Directory where
  base : FilePath
  tree : FileTree

namespace Directory

structure Draft where
  target : Place
  temporary : Place

/-- The file path of a store path. Paths that climb are refused. -/
def resolve (base : FilePath) (path : Text) : Except Failure FilePath :=
  let wanted := FilePath.ofText path
  if wanted.climbs then .error (.configuration (.pathTraversal path))
  else .ok (base.below wanted.names)

/-- Where the record of a path is. Of the names, only those of the base lead back. -/
def place (store : Directory) (path : Text) : Place :=
  FileTree.placeOf store.base.names ++ (FilePath.ofText path).names.map FileTree.spelled

@[simp]
theorem place_withTree (store : Directory) (tree : FileTree) (path : Text) :
    ({ store with tree } : Directory).place path = store.place path := rfl

def temporaryLimit : Nat := 10000

/-- What is drawn for the name of a temporary file, which nobody knows beforehand: as long as
its digits, but of codes that the system has no bytes for, so that no path to a file has it. -/
def drawn (number : Nat) : Text :=
  ⟨(Calendar.padded 8 number).toList.map fun digit => .half (0xd800 + digit.toNat)⟩

def temporaryName (name : Text) (number : Nat) : Text :=
  "." ++ name ++ "." ++ drawn number ++ ".tmp"

/-- The first temporary place beside a target that is free. -/
def temporaryPlace? (tree : FileTree) (target : Place) : Option Place :=
  ((List.range temporaryLimit).map fun number =>
    target.dropLast ++ [temporaryName (target.getLast?.getD "") number]).find?
      fun place => (tree.node? place).isNone

def contains (store : Directory) (path : Text) : Except Failure Bool := do
  let file ← resolve store.base path
  if (FileTree.nameFault? file.names).isSome then return false
  FileTree.coded (store.tree.holdsFile (store.place path))

/-- A file in the way of a parent must not look like a record that was there first. -/
def makeParents (tree : FileTree) (path : Text) (target : Place) : Except Failure Unit × FileTree :=
  match tree.makeDirectories target.dropLast with
  | (.error .alreadyExists, tree) =>
    let text := s!"A parent of {path} exists and is not a directory"
    (.error (.system (.described .notDirectory text (some .fileExists))), tree)
  | (result, tree) => (FileTree.coded result, tree)

def createTemporary (tree : FileTree) (names : List Text) (target : Place) :
    Except Failure (Draft × FileTree) := do
  FileTree.checkNames names
  match temporaryPlace? tree target with
  | none => throw (.system (.coded .alreadyExists))
  | some temporary =>
    let tree ← FileTree.coded (tree.createFile temporary 0o600)
    return (⟨target, temporary⟩, tree)

/-- A directory keeps one copy, whatever replication is asked for. -/
def replicationIgnored (path : Text) : Option Int → List Log.Event
  | none => []
  | some replication =>
    [⟨"key_guardian.storage.local", .debug, "storage.local.replication_ignored",
      [("path", .text path), ("replication", .integer replication)]⟩]

def create (store : Directory) (path : Text) (replication : Option Int) :
    Served (Except Failure Draft) Directory :=
  let checked := do
    let file ← resolve store.base path
    FileTree.checkNames file.names.dropLast
    return file
  match checked with
  | .error failure => .quiet (.error failure) store
  | .ok file =>
    match makeParents store.tree path (store.place path) with
    | (.error failure, tree) => .quiet (.error failure) { store with tree }
    | (.ok (), tree) =>
      let events := replicationIgnored path replication
      match createTemporary tree file.names (store.place path) with
      | .error failure => ⟨.error failure, { store with tree }, events⟩
      | .ok (draft, tree) => ⟨.ok draft, { store with tree }, events⟩

def publish (tree : FileTree) (draft : Draft) : Except Failure Unit × FileTree :=
  match tree.link draft.temporary draft.target with
  | .ok linked => (.ok (), linked.remove draft.temporary)
  | .error code => (.error (.system (.coded code)), tree.remove draft.temporary)

def openRecord (store : Directory) (path : Text) : Except Failure Reader := do
  let file ← resolve store.base path
  FileTree.checkNames file.names
  FileTree.coded (store.tree.content (store.place path))

def read (reader : Reader) (count : Int) : Except Failure (Bytes × Reader) := do
  checkCount count
  if count < -1 then throw (.badValue "read length must be non-negative or -1")
  return readFrom reader count

def serve : (request : Request Draft) → Directory → Served (Answer request) Directory
  | .contains path, store => .quiet (store.contains path) store
  | .create path replication, store => store.create path replication
  | .write draft chunk, store =>
    .quiet (.ok draft) { store with tree := store.tree.append draft.temporary chunk }
  | .publish draft, store =>
    let (answer, tree) := publish store.tree draft
    .quiet answer { store with tree }
  | .discard draft, store => .quiet () { store with tree := store.tree.remove draft.temporary }
  | .openRecord path, store => .quiet (store.openRecord path) store
  | .read reader count, store => .quiet (read reader count) store

abbrev client : Client := ⟨Draft, Directory, serve⟩

end Directory

end KeyEnvelope.Storage
