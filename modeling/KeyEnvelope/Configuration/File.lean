import KeyEnvelope.Configuration
import KeyEnvelope.Directories
import KeyEnvelope.FileTree
import KeyEnvelope.Yaml.Document

/-!
# Configuration files

The first file among a few places is the configuration, whatever it holds; without
one the defaults are. Places are the one that was asked for, the working directory,
and the directory of the user.
-/

namespace KeyEnvelope.Configuration

/-- What is found at a place. -/
inductive Candidate where
  | missing
  | directory
  | file (content : Bytes)

def searchPaths (asked : Option FilePath) (working : FilePath) (directories : UserDirectories) :
    List FilePath :=
  asked.toList ++ [working.below [".key_guardian", "config.yaml"],
    directories.settings.below ["config.yaml"]]

/-- The configuration in the content of a file; a document that stands for nothing
has no fields. -/
def ofBytes (content : Bytes) : Except Failure Configuration :=
  match Yaml.Document.ofBytes content with
  | .error fault => .error (.document fault)
  | .ok value =>
    match ofValue (if value.isVoid then .mapping [] else value) with
    | .ok configuration => .ok configuration
    | .error mismatches => .error (.configuration (.invalidDocument mismatches))

def load : List Candidate → Except Failure Configuration
  | [] => .ok default
  | .file content :: _ => ofBytes content
  | _ :: rest => load rest

/-- A text as a scalar that is read back as that text. -/
def scalarOf (text : Text) : String :=
  if Yaml.Tag.ofText text = .text then toString text else s!"'{text}'"

def defaultDocument : String :=
  let lines := Setting.defaults.map fun (key, value) => s!"  {key}: {scalarOf value}\n"
  s!"logging:\n  level: {scalarOf defaultLevel}\noptions:\n" ++ String.join lines

def utf8 (text : String) : Bytes :=
  text.toUTF8.toList

def dumpDefault (tree : FileTree) (place : Place) : Except Failure FileTree := do
  let (made, tree) := tree.putWithParents place (utf8 defaultDocument) 0o644
  made
  return tree

end KeyEnvelope.Configuration
