import KeyEnvelope.Bench.Bag
import KeyEnvelope.Bench.Store
import KeyEnvelope.Bootstrap
import KeyEnvelope.Log.Output

/-!
# Scenarios

A scenario is a list of steps on a store, a strategy and named bags of parameters.
Random bytes come from a stream that is fixed by its seed. Steps that run while a
record is being created are part of the step that creates it.
-/

namespace KeyEnvelope.Bench

/-- Where the bytes of a random source come from. -/
inductive Source where
  | stream
  | always (data : Bytes)
  | failing (failure : Failure)

inductive Step where
  | contains (path : Text)
  | openRecord (path : Text) (reads : List Int)
  | create (path : Text) (chunks : List Bytes) (replication : Option Int) (nested : List Step)
    (aborts : Bool)
  | adjust (adjustment : Adjustment)
  | record (path : Text)
  | keyContains (path : Text)
  | keyEnsure (path : Text) (bits replication : Int) (source : Source)
  | keyLoad (path : Text)
  | useStrategy (name : Option Text) (options : Options)
  | newParameters (bag : String) (content : Bag)
  | parametersOfOptions (bag : String) (options : Options) (blank : List Text)
  | configuredParameters (bag : String)
  | change (bag : String) (update : Bag → Bag)
  | copyEncrypted (bag source : String)
  | summary (bag : String)
  | keyPath (bag : String)
  | encrypt (bag : String)
  | decrypt (bag : String)

inductive Reply where
  | nothing
  | truth (value : Bool)
  | text (text : Text)
  | bytes (bytes : Bytes)
  | chunks (chunks : List Bytes)
  | record (record : Storage.MemoryRecord)
  | replies (replies : List (Except Failure Reply))

structure World (S : Store) where
  store : S.State
  /-- The store as the catalogue of strategies sees it. -/
  location : Storage.Location
  catalog : Strategy.Catalog
  directories : UserDirectories
  strategy : Strategy
  className : String
  configuration : Configuration
  least : Log.Level
  seed : Nat
  drawn : Nat
  bags : List (String × Bag)
  /-- What was logged and how many random bytes were asked for since these were last
  looked at. -/
  events : List Log.Event
  requests : List Nat

def streamBytes (seed position count : Nat) : Bytes :=
  (List.range count).map fun offset => UInt8.ofNat (seed + 31 * (position + offset))

def defaultReplication : Int := 5

namespace World

variable {S : Store}

def note (world : World S) (event : Log.Event) : World S :=
  if event.level.passes world.least then { world with events := world.events ++ [event] } else world

def draw (source : Source) (count : Nat) (world : World S) : Except Failure Bytes × World S :=
  let world := { world with requests := world.requests ++ [count] }
  match source with
  | .stream =>
    (.ok (streamBytes world.seed world.drawn count), { world with drawn := world.drawn + count })
  | .always data => (.ok data, world)
  | .failing failure => (.error failure, world)

def serve (source : Source) :
    (request : Surroundings.Request S.Draft) → World S → Surroundings.Answer request × World S
  | .storage request, world =>
    let served := S.serve request world.store
    (served.answer, served.events.foldl note { world with store := served.state })
  | .draw _ count, world => world.draw source count
  | .note event, world => ((), world.note event)

def run {α : Type} (source : Source) (operation : Operation S.Draft α) (world : World S) :
    Except Failure α × World S :=
  operation.run.run (serve source) world

/-- Runs an operation that draws from the stream, if at all. -/
def perform (operation : Operation S.Draft Reply) (world : World S) :
    Except Failure Reply × World S :=
  world.run .stream operation

def find (world : World S) (bag : String) : Except Failure Bag :=
  match Assoc.get? bag world.bags with
  | some content => .ok content
  | none => .error (.unknownName bag)

def keep (world : World S) (bag : String) (content : Bag) : World S :=
  { world with bags := Assoc.set bag content world.bags }

/-- Keeps a bag unless there is none to keep. -/
def keepResult (bag : String) (result : Except Failure Bag) (world : World S) :
    Except Failure Reply × World S :=
  match result with
  | .ok content => (.ok .nothing, world.keep bag content)
  | .error failure => (.error failure, world)

/-- Fills in the parameters of a bag. The bag is kept as they are then, also after a
failure. -/
def fill (bag : String) (filling : Bag → Filling S.Draft Unit) (world : World S) :
    Except Failure Reply × World S :=
  match world.find bag with
  | .error failure => (.error failure, world)
  | .ok content =>
    let ((result, parameters), world) :=
      ((filling content).start content.parameters).run (serve .stream) world
    (result.map fun _ => .truth true, world.keep bag { content with parameters })

def readAll (reader : Storage.Reader) : List Int → Operation S.Draft (List Bytes)
  | [] => pure []
  | count :: rest => do
    let (chunk, reader) ← Operation.read reader count
    return chunk :: (← readAll reader rest)

def writeAll (draft : S.Draft) : List Bytes → Operation S.Draft S.Draft
  | [] => pure draft
  | chunk :: rest => do writeAll (← Operation.write draft chunk) rest

def begin (path : Text) (replication : Option Int) (chunks : List Bytes) :
    Operation S.Draft S.Draft := do
  let draft ← Operation.create path replication
  (writeAll draft chunks).andThen fun
    | .ok written => pure written
    | .error failure => do
      Operation.discard draft
      throw failure

def finish (draft : S.Draft) (aborts : Bool) (replies : List (Except Failure Reply)) :
    Operation S.Draft Reply := do
  if aborts then
    Operation.discard draft
    throw (.interrupted "abort")
  Operation.publish draft
  return .replies replies

def useStrategy (name : Option Text) (options : Options) (world : World S) :
    Except Failure Reply × World S :=
  match world.catalog.resolve world.directories name (some world.location) options with
  | .ok (product, _) =>
    (.ok (.text product.className),
      { world with strategy := product.strategy, className := product.className })
  | .error failure => (.error failure, world)

mutual

def step : Step → World S → Except Failure Reply × World S
  | .contains path, world => world.perform (.truth <$> Operation.contains path)
  | .openRecord path reads, world =>
    world.perform do return .chunks (← readAll (← Operation.openRecord path) reads)
  | .create path chunks replication nested aborts, world =>
    match world.run .stream (begin path replication chunks) with
    | (.error failure, world) => (.error failure, world)
    | (.ok draft, world) =>
      let (replies, world) := steps nested world
      world.perform (finish draft aborts replies)
  | .adjust adjustment, world =>
    let (result, store) := S.adjust adjustment world.store
    (result.map fun _ => .nothing, { world with store })
  | .record path, world => ((S.record path world.store).map .record, world)
  | .keyContains path, world => world.perform (.truth <$> KeyStore.contains path)
  | .keyEnsure path bits replication source, world =>
    world.run source (.truth <$> KeyStore.ensure .system replication path bits)
  | .keyLoad path, world => world.perform (.bytes <$> KeyStore.load path)
  | .useStrategy name options, world => world.useStrategy name options
  | .newParameters bag content, world => (.ok .nothing, world.keep bag content)
  | .parametersOfOptions bag options blank, world =>
    world.keepResult bag ((Parameters.ofOptions options).map fun parameters =>
      { Bag.ofParameters parameters with blankOptions := blank })
  | .configuredParameters bag, world =>
    world.keepResult bag
      ((Bootstrap.parametersFor world.configuration).map Bag.ofParameters)
  | .change bag update, world => world.keepResult bag ((world.find bag).map update)
  | .copyEncrypted bag source, world =>
    world.keepResult bag do
      let target ← world.find bag
      let wrapped := (← world.find source).parameters.encryptedKey
      return target.update fun parameters => parameters.replaceEncryptedKey wrapped
  | .summary bag, world => ((world.find bag).map fun content => .text content.summary, world)
  | .keyPath bag, world =>
    (do return .text (← world.strategy.pathOf world.className (← world.find bag)), world)
  | .encrypt bag, world => world.fill bag world.strategy.encryptBag
  | .decrypt bag, world => world.fill bag fun _ => world.strategy.decryptInto

def steps : List Step → World S → List (Except Failure Reply) × World S
  | [], world => ([], world)
  | first :: rest, world =>
    let (reply, world) := step first world
    let (replies, world) := steps rest world
    (reply :: replies, world)

end

end World

/-- What is seen of a step: its outcome, the store after it, and what happened on
the way. -/
structure Outcome where
  reply : Except Failure Reply
  snapshot : Snapshot
  events : List Log.Event
  requests : List Nat
  bag : Option Bag

namespace Step

def bag? : Step → Option String
  | newParameters bag _ | parametersOfOptions bag _ _ | configuredParameters bag | change bag _
  | copyEncrypted bag _ | summary bag | keyPath bag | encrypt bag | decrypt bag => some bag
  | _ => none

end Step

namespace World

variable {S : Store}

def observe (step : Step) (world : World S) : Outcome × World S :=
  let (reply, after) := world.step step
  let outcome : Outcome :=
    ⟨reply, S.snapshot after.store, after.events, after.requests,
      step.bag?.bind fun bag => Assoc.get? bag after.bags⟩
  (outcome, { after with events := [], requests := [] })

def play : List Step → World S → List Outcome
  | [], _ => []
  | step :: rest, world =>
    let (outcome, world) := world.observe step
    outcome :: play rest world

end World

end KeyEnvelope.Bench
