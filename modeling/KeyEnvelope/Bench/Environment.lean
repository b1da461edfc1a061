import KeyEnvelope.Assoc
import KeyEnvelope.Directories

/-!
# Recorded environments

How the platforms of the recorded runs find the directories of a user: below the
directory in a variable, if that is an absolute path, or else below the home directory.
Other platforms have other rules.
-/

namespace KeyEnvelope

/-- What decides about directories: assigned variables and conventions. -/
structure Environment where
  assignments : List (Text × Text)
  platform : Platform

namespace Environment

def assigned (environment : Environment) (variableName : Text) : Text :=
  (Assoc.get? variableName environment.assignments).getD ""

/-- The home directory without slashes at the end. -/
def home (environment : Environment) : Text :=
  ⟨((environment.assigned "HOME").codes.reverse.dropWhile (· = .char '/')).reverse⟩

/-- The directory of an application: below the directory in a variable, or else
below one under the home directory. -/
def ofApplication (environment : Environment) (variableName underHome applicationName : Text) :
    FilePath :=
  let given := environment.assigned variableName
  let underHome :=
    match environment.platform with
    | .desktop => underHome
    | .library => "/Library/Application Support"
  let base :=
    FilePath.ofText (if given.startsWith "/" then given else environment.home ++ underHome)
  base.below [applicationName]

def directories (environment : Environment) : UserDirectories :=
  .ofPlatform (fun applicationName _ =>
    ⟨environment.ofApplication "XDG_CONFIG_HOME" "/.config" applicationName,
      environment.ofApplication "XDG_DATA_HOME" "/.local/share" applicationName⟩)
    environment.platform

instance : Coe Environment UserDirectories := ⟨directories⟩

def settingsDirectory (environment : Environment) : FilePath :=
  environment.directories.settings

def storeDirectory (environment : Environment) : FilePath :=
  environment.directories.store

end Environment

end KeyEnvelope
