import KeyEnvelope.Bench.Environment
import KeyEnvelope.Bench.ErrorNumber
import KeyEnvelope.Bench.Scenario

/-!
# Sessions

A session is a scenario with all that it starts from: a strategy, a configuration,
and what strategies are found in. It is played on a fresh store.
-/

namespace KeyEnvelope.Bench

structure Session where
  steps : List Step
  catalog : Strategy.Catalog
  directories : UserDirectories
  strategy : Strategy
  className : String
  configuration : Configuration
  least : Log.Level
  seed : Nat

namespace Session

/-- A session that begins with what was started from a configuration. -/
def ofBootstrap (steps : List Step) (catalog : Strategy.Catalog) (directories : UserDirectories)
    (boot : Bootstrap) (seed : Nat) : Session :=
  ⟨steps, catalog, directories, boot.product.strategy, boot.product.className, boot.configuration,
    boot.level, seed⟩

def world (S : Store) (state : S.State) (location : Storage.Location)
    (session : Session) : World S where
  store := state
  location := location
  catalog := session.catalog
  directories := session.directories
  strategy := session.strategy
  className := session.className
  configuration := session.configuration
  least := session.least
  seed := session.seed
  drawn := 0
  bags := []
  events := []
  requests := []

/-- The outcomes of the steps on an empty store; a tree holds the given directories
beside it. -/
def play (location : Storage.Location) (places : List Place) (session : Session) :
    List Outcome :=
  match location with
  | .memory => (session.world Memory.store .initial location).play session.steps
  | .directory base =>
    (session.world Directory.store (Directory.initial base places) location).play session.steps

end Session

end KeyEnvelope.Bench
