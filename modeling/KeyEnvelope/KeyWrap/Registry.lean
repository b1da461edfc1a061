import KeyEnvelope.Assoc
import KeyEnvelope.KeyWrap.Suite
import KeyEnvelope.Text.Blank
import KeyEnvelope.Text.Case

/-!
# Suite registry

Suites are found by any of their labels, without regard to case. A label belongs to
the suite that registered it last, so a suite is listed only as long as it owns a
label.
-/

namespace KeyEnvelope.KeyWrap

/-- Owners of the lower-case labels. -/
structure Registry where
  owners : List (Text × Suite)

namespace Registry

def empty : Registry := ⟨[]⟩

def register (registry : Registry) (suite : Suite) : Registry :=
  ⟨suite.labels.foldl
    (fun owners label => Assoc.set (Text.lower label) suite owners) registry.owners⟩

def ofSuites (suites : List Suite) : Registry :=
  suites.foldl register empty

def builtIn : Registry :=
  ofSuites Suite.builtIn

def labelOf (descriptor : Text) : Text :=
  Text.lower (Text.trim descriptor)

def find? (registry : Registry) (descriptor : Text) : Option Suite :=
  Assoc.get? (labelOf descriptor) registry.owners

/-- Names of the suites that own a label, in increasing order and without
repetition. -/
def names (registry : Registry) : List Text :=
  ((registry.owners.map fun entry => entry.2.name).mergeSort Text.atMost).eraseDups

end Registry

end KeyEnvelope.KeyWrap
