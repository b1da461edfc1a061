import KeyEnvelope.FilePath

/-!
# Directories of the user

Where the settings and the data of a user are is up to the platform, which is asked by
the name of an application. The default store is below the data.
-/

namespace KeyEnvelope

/-- Conventions on how applications are named. -/
inductive Platform where
  | desktop
  | library
deriving DecidableEq

namespace Platform

def applicationName : Platform → Text
  | desktop => "key-guardian"
  | library => "Key Guardian"

/-- Does the data of an application follow its user to other machines? -/
def roams : Platform → Bool
  | desktop => false
  | library => true

end Platform

/-- The directories of an application that belong to a user. -/
structure UserDirectories where
  settings : FilePath
  data : FilePath

namespace UserDirectories

/-- What a platform answers that is asked for the directories of an application. -/
def ofPlatform (answer : Text → Bool → UserDirectories) (platform : Platform) : UserDirectories :=
  answer platform.applicationName platform.roams

def store (directories : UserDirectories) : FilePath :=
  directories.data.below ["store"]

end UserDirectories

end KeyEnvelope
