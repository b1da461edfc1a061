import KeyEnvelope.Configuration.File
import KeyEnvelope.Log.Line
import KeyEnvelope.Strategy.Catalog

/-!
# Bootstrap

From a configuration file to a strategy: the configuration is loaded, its logging
level is put in force, and the strategy that it names is built.
-/

namespace KeyEnvelope

structure Bootstrap where
  configuration : Configuration
  level : Log.Level
  product : Strategy.Product
  store : Storage.Location

namespace Bootstrap

def levelOf (configuration : Configuration) : Log.Level :=
  .ofName (some configuration.normalizedLevel)

def start (catalog : Strategy.Catalog) (directories : UserDirectories)
    (candidates : List Configuration.Candidate) (store : Option Storage.Location) :
    Except Failure Bootstrap := do
  let configuration ← Configuration.load candidates
  let (product, store) ← catalog.resolve directories none store configuration.resolvedOptions
  return ⟨configuration, levelOf configuration, product, store⟩

def parametersFor (configuration : Configuration) : Except Failure Parameters :=
  Parameters.ofOptions configuration.resolvedOptions

end Bootstrap

end KeyEnvelope
