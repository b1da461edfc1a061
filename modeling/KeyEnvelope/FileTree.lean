import KeyEnvelope.Assoc
import KeyEnvelope.Bytes
import KeyEnvelope.Failure
import KeyEnvelope.Text.Utf8

/-!
# File trees

Directories and files below a root directory, each under the names that lead to it.
Names are known by their bytes. Operations fail with the code of the operating system
for what stands in their way. Two dots lead back to the directory before; only where
directories are made on the way they may still be among the names of a place.
-/

namespace KeyEnvelope

inductive FileNode where
  | directory
  | file (content : Bytes) (mode : Nat)
deriving DecidableEq

/-- The names that lead from the root to a place, spelled as the system has them. -/
abbrev Place := List Text

structure FileTree where
  nodes : List (Place × FileNode)

namespace FileTree

def empty : FileTree := ⟨[]⟩

/-- Has the system bytes for a code? Of the halves, some lower ones stand for single
bytes. -/
def isEncodable : Code → Bool
  | .char _ => true
  | .half number => 0xdc80 ≤ number && number ≤ 0xdcff

def byteSize (text : Text) : Nat :=
  text.codes.foldl (fun size code =>
    match code with
    | .char c => size + c.utf8Size
    | .half _ => size + 1) 0

def nameLimit : Nat := 255

def tooLong (name : Text) : Bool :=
  nameLimit < byteSize name

/-- The most bytes of all names on the way to a place, with slashes between them. The
system takes 4095 bytes for a whole path; 17 of them are for the way to the root. -/
def wayLimit : Nat := 4078

def outOfReach (place : Place) : Bool :=
  wayLimit < byteSize (Text.intercalate "/" place)

def normalized (place : Place) : Place :=
  place.foldl (fun way (name : Text) => if name = ".." then way.dropLast else way ++ [name]) []

/-- How the system has a code: those in ASCII as they are, other characters as a half for
each of their bytes. -/
def spelledCode : Code → List Code
  | .char c =>
    if c.toNat < 0x80 then [.char c]
    else (String.utf8EncodeChar c).map fun byte => .half (0xdc00 + byte.toNat)
  | .half number => [.half number]

/-- A name as the system has it, for which names with the same bytes are the same. -/
def spelled (name : Text) : Text :=
  ⟨name.codes.flatMap spelledCode⟩

/-- The place that names lead to. Two dots lead back, whether or not there is a directory
in front of them. -/
def placeOf (names : List Text) : Place :=
  (normalized names).map spelled

def byte? : Code → Option UInt8
  | .half number =>
    if isEncodable (.half number) then some (UInt8.ofNat (number - 0xdc00)) else none
  | .char _ => none

/-- The character that codes spell, all of them together. -/
def spelledChar? (codes : List Code) : Option Char := do
  match ← Text.Utf8.decode? (← codes.mapM byte?) with
  | [c] => some c
  | _ => none

/-- Codes with the characters that are spelled among them. -/
def readable : List Code → List Code
  | [] => []
  | code :: rest =>
    let found := [1, 2, 3].findSome? fun more =>
      (spelledChar? (code :: rest.take more)).map fun c => (c, more)
    match found with
    | some (c, more) => .char c :: readable (rest.drop more)
    | none => code :: readable rest
termination_by codes => codes.length

/-- Why names are refused before the system sees them. -/
def nameFault? (names : List Text) : Option Failure :=
  if !names.all fun name => name.codes.all isEncodable then some .notEncodable
  else if names.any fun name => name.codes.contains (.char '\x00') then
    some (.badValue "embedded null byte")
  else none

def checkNames (names : List Text) : Except Failure Unit :=
  match nameFault? names with
  | some failure => .error failure
  | none => .ok ()

def coded {α : Type} : Except ErrorCode α → Except Failure α
  | .ok value => .ok value
  | .error code => .error (.system (.coded code))

def node? (tree : FileTree) (place : Place) : Option FileNode :=
  if place = [] then some .directory else Assoc.get? place tree.nodes

def put (tree : FileTree) (place : Place) (node : FileNode) : FileTree :=
  ⟨Assoc.set place node tree.nodes⟩

def remove (tree : FileTree) (place : Place) : FileTree :=
  ⟨Assoc.erase place tree.nodes⟩

/-- Follows names from a node at a place. -/
def locateFrom (tree : FileTree) (place : Place) : FileNode → List Text → Except ErrorCode FileNode
  | node, [] => .ok node
  | .file _ _, _ :: _ => .error .notDirectory
  | .directory, name :: rest =>
    if tooLong name then .error .nameTooLong
    else match tree.node? (place ++ [name]) with
      | none => .error .noEntry
      | some node => tree.locateFrom (place ++ [name]) node rest

def locate (tree : FileTree) (place : Place) : Except ErrorCode FileNode :=
  if outOfReach place then .error .nameTooLong else tree.locateFrom [] .directory place

def checkVacant (tree : FileTree) (place : Place) : Except ErrorCode Unit :=
  match place.getLast? with
  | none => .error .alreadyExists
  | some name =>
    match tree.locate place.dropLast with
    | .error code => .error (if outOfReach place then .nameTooLong else code)
    | .ok (.file _ _) => .error .notDirectory
    | .ok .directory =>
      if tooLong name || outOfReach place then .error .nameTooLong
      else if (tree.node? place).isSome then .error .alreadyExists
      else .ok ()

/-- Makes the directories that names lead through from a place; what is made before
an error stays. -/
def makeDirectoriesFrom (tree : FileTree) (place : Place) :
    List Text → Except ErrorCode Unit × FileTree
  | [] => (.ok (), tree)
  | name :: rest =>
    if tooLong name then (.error .nameTooLong, tree)
    else if name = ".." then tree.makeDirectoriesFrom place.dropLast rest
    else match tree.node? (place ++ [name]) with
      | some .directory => tree.makeDirectoriesFrom (place ++ [name]) rest
      | some (.file _ _) => (.error (if rest.isEmpty then .alreadyExists else .notDirectory), tree)
      | none => (tree.put (place ++ [name]) .directory).makeDirectoriesFrom (place ++ [name]) rest

def makeDirectories (tree : FileTree) (place : Place) : Except ErrorCode Unit × FileTree :=
  if outOfReach place then (.error .nameTooLong, tree) else tree.makeDirectoriesFrom [] place

/-- Makes a directory where there is nothing, and those that lead to it where they
are missing. -/
def makeDirectory (tree : FileTree) (place : Place) : Except ErrorCode Unit × FileTree :=
  match outOfReach place, tree.locate place.dropLast with
  | true, _ => (.error .nameTooLong, tree)
  | _, .ok (.file _ _) => (.error .notDirectory, tree)
  | _, _ =>
    match tree.makeDirectories place.dropLast with
    | (.error code, tree) => (.error code, tree)
    | (.ok (), tree) =>
      let target := normalized place
      match
        if place.getLast? = some ".." then .error .alreadyExists else tree.checkVacant target
      with
      | .error code => (.error code, tree)
      | .ok () => (.ok (), tree.put target .directory)

def createFile (tree : FileTree) (place : Place) (mode : Nat) : Except ErrorCode FileTree := do
  tree.checkVacant place
  return tree.put place (.file [] mode)

def append (tree : FileTree) (place : Place) (chunk : Bytes) : FileTree :=
  match tree.node? place with
  | some (.file content mode) => tree.put place (.file (content ++ chunk) mode)
  | _ => tree

def link (tree : FileTree) (source target : Place) : Except ErrorCode FileTree := do
  let node ← tree.locate source
  tree.checkVacant target
  return tree.put target node

def content (tree : FileTree) (place : Place) : Except ErrorCode Bytes := do
  match ← tree.locate place with
  | .directory => throw .isDirectory
  | .file content _ => return content

def putFile (tree : FileTree) (place : Place) (content : Bytes) (mode : Nat) :
    Except ErrorCode FileTree :=
  match tree.locate place with
  | .ok .directory => .error .isDirectory
  | .ok (.file _ _) => .ok (tree.put place (.file content mode))
  | .error _ => do
    tree.checkVacant place
    return tree.put place (.file content mode)

def putWithParents (tree : FileTree) (place : Place) (content : Bytes) (mode : Nat) :
    Except Failure Unit × FileTree :=
  match checkNames place.dropLast with
  | .error failure => (.error failure, tree)
  | .ok () =>
    match tree.makeDirectories place.dropLast with
    | (.error code, tree) => (.error (.system (.coded code)), tree)
    | (.ok (), tree) =>
      match checkNames place, tree.putFile (normalized place) content mode with
      | .error failure, _ => (.error failure, tree)
      | .ok (), .error code => (.error (.system (.coded code)), tree)
      | .ok (), .ok tree => (.ok (), tree)

/-- Is there a file? A place that cannot be there holds none. -/
def holdsFile (tree : FileTree) (place : Place) : Except ErrorCode Bool :=
  match tree.locate place with
  | .ok (.file _ _) => .ok true
  | .ok .directory | .error .noEntry | .error .notDirectory => .ok false
  | .error code => .error code

/-- All nodes with their joined names, in increasing order of these. -/
def listing (tree : FileTree) : List (Text × FileNode) :=
  let shown (name : Text) : Text := ⟨readable name.codes⟩
  (tree.nodes.map fun entry => (Text.intercalate "/" (entry.1.map shown), entry.2)).mergeSort
    fun a b => a.1.atMost b.1

end FileTree

end KeyEnvelope
