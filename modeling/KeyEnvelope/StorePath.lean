import KeyEnvelope.Text

/-!
# Store paths

The path of a record joins a directory of the store and the location of a key in it.
-/

namespace KeyEnvelope.StorePath

/-- The location comes after exactly the root that is given, with a slash between
them if it has none. -/
def join (root location : Text) : Text :=
  if location.startsWith "/" then root ++ location else root ++ "/" ++ location

end KeyEnvelope.StorePath
