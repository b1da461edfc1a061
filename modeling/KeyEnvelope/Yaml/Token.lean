import KeyEnvelope.Text

/-!
# Tokens

The tokens of a document. Indentation shows in them as the start and the end of
block collections.
-/

namespace KeyEnvelope.Yaml

inductive Token where
  | version (major : Nat)
  | tagHandle (name lead : String)
  | directive
  | documentStart
  | documentEnd
  | streamEnd
  | blockListStart
  | blockMappingStart
  | blockEnd
  | flowListStart
  | flowListEnd
  | flowMappingStart
  | flowMappingEnd
  | blockEntry
  | flowEntry
  | key
  | value
  | alias (name : String)
  | anchor (name : String)
  | tag (handle : Option String) (rest : String)
  | scalar (text : Text) (isPlain : Bool)
deriving DecidableEq

end KeyEnvelope.Yaml
