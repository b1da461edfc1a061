import KeyEnvelope.Log.Line

/-!
# Log output

Events are written from a least level on. A handle keeps the level that was set when
it was first used, even if nothing was written then; the level that is set now holds
for all handles.
-/

namespace KeyEnvelope.Log

/-- Is an event of one level written where another is the least? -/
def Level.passes (level least : Level) : Bool :=
  least.severity ≤ level.severity

structure Output where
  least : Level
  handles : List (String × Level)

namespace Output

def initial : Output := ⟨.info, []⟩

def configure (output : Output) (level : Option Text) : Output :=
  { output with least := .ofName level }

/-- The output that knows the handle of a component, and the level of that handle. -/
def withHandle (output : Output) (component : String) : Output × Level :=
  match Assoc.get? component output.handles with
  | some level => (output, level)
  | none =>
    ({ output with handles := Assoc.set component output.least output.handles }, output.least)

/-- Writes an event, if both levels let it pass and it has a line. -/
def emit (output : Output) (event : Event) (occasion : Occasion := {}) : Output × List String :=
  let (output, own) := output.withHandle event.component
  if event.level.passes own && event.level.passes output.least then
    (output, (event.line occasion).toList)
  else (output, [])

end Output

/-- What befalls an output: a level is set, or an event is logged. -/
inductive Step where
  | configure (level : Option Text)
  | log (event : Event) (occasion : Occasion)

namespace Output

def step (output : Output) : Step → Output × List String
  | .configure level => (output.configure level, [])
  | .log event occasion => output.emit event occasion

/-- The lines that are written step by step. -/
def run (output : Output) : List Step → List (List String)
  | [] => []
  | step :: rest =>
    let (output, lines) := output.step step
    lines :: output.run rest

end Output

def methodLevels : List (String × Level) :=
  Level.all.map (fun level => (level.name, level)) ++
    [("warn", .warning), ("fatal", .critical), ("msg", .info)]

end KeyEnvelope.Log
