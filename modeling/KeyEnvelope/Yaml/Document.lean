import KeyEnvelope.Yaml.Blocks
import KeyEnvelope.Yaml.Construction

/-!
# Documents

The value of a document. It has none if it holds no node at all.
-/

namespace KeyEnvelope.Yaml.Document

/-- The value of a text that may break off. Only the outer two levels of a value
within itself are unfolded. -/
def ofText (text : List Char) (missing : Option DocumentFault) : Scan Value := do
  let graph ← Graph.ofText text missing
  match graph.root with
  | none => return .null
  | some root => return (← Construction.ofGraph graph root).valueOf graph.fuel 2 [] root

def ofBytes (bytes : Bytes) : Scan Value :=
  let (text, missing) := textOf bytes
  ofText text missing

end KeyEnvelope.Yaml.Document
