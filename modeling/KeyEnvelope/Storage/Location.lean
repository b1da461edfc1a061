import KeyEnvelope.Directories
import KeyEnvelope.Failure
import KeyEnvelope.Uri

/-!
# Locations of stores

A store is in memory or below a directory; a URI says where. Without one it is in
the directory that belongs to the user.
-/

namespace KeyEnvelope.Storage

inductive Location where
  | memory
  | directory (base : FilePath)
deriving DecidableEq

namespace Location

/-- The location that a path of a URI of the file scheme stands for. -/
def ofFilePath (directories : UserDirectories) (path : Text) : Location :=
  if path = "" ∨ path = "/" then .directory directories.store
  else .directory (.ofText path)

def ofUri (directories : UserDirectories) (uri : Option Text) : Except Failure Location :=
  match Text.given? uri with
  | none => .ok (.directory directories.store)
  | some text =>
    match Uri.read text with
    | .error fault => .error (.badValue fault.message)
    | .ok parsed =>
      if parsed.scheme = "memory" then .ok .memory
      else if parsed.scheme = "file" then
        if parsed.authority ≠ "" ∧ parsed.authority ≠ "localhost" then
          .error (.configuration (.remoteUri text))
        else .ok (ofFilePath directories (Uri.percentDecoded parsed.path))
      else .error (.configuration (.unsupportedScheme text))

end Location

end KeyEnvelope.Storage
