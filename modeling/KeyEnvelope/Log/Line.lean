import KeyEnvelope.Assoc
import KeyEnvelope.Log.Event
import KeyEnvelope.Text.Case
import KeyEnvelope.Value.Line

/-!
# Log lines

An event becomes one line: its fields in order, and what every line has of its own.
Key material is masked before anything is written.
-/

namespace KeyEnvelope.Log

/-- The level that a text names; texts that name none stand for `info`. -/
def Level.ofName (name : Option Text) : Level :=
  let wanted := ((Text.given? name).getD "info").lower
  (all.find? fun level => level.name = wanted).getD info

/-- Fields that may hold the bytes of keys. -/
def keyMaterial : List String :=
  ["plaintext_key", "encrypted_key", "kek", "key"]

def mask : Value := .text "<redacted>"

def redact (fields : Fields) : Fields :=
  fields.map fun (name, value) => if keyMaterial.contains name then (name, mask) else (name, value)

/-- What stands in a line for the time of its event, where that is not told. -/
def timeMark : Text := "<ts>"

/-- What is under way when an event is logged: the time, the calls that lead to it, and the
exception that is being handled, if there is one. -/
structure Occasion where
  time : Text := timeMark
  calls : Text := ""
  exception : Option Text := none

/-- The name that a component without a name is shown under. -/
def shownComponent (name : String) : String :=
  if name = "" then "root" else name

def setDefault (name : String) (value : Value) (fields : Fields) : Fields :=
  if (Assoc.get? name fields).isSome then fields else Assoc.set name value fields

/-- The text of the event becomes the message, unless there is a message of its own. -/
def nameMessage (fields : Fields) : Fields :=
  if (Assoc.get? "msg" fields).isSome then fields
  else Assoc.set "msg" ((Assoc.get? "event" fields).getD (.text "")) (Assoc.erase "event" fields)

/-- Does a field say anything? -/
def saysSo (name : String) (fields : Fields) : Bool :=
  (Assoc.get? name fields).any fun value => !value.isVoid

/-- Drops a field that asks for a trace. The trace is shown under a name of its own, if the field
says so and there is one. -/
def showTrace (question name : String) (trace : Option Text) (fields : Fields) : Fields :=
  let rest := Assoc.erase question fields
  match if saysSo question fields then trace else none with
  | some text => Assoc.set name (.text text) rest
  | none => rest

/-- What the caller gives, and beside it what every line has of its own. -/
def Event.gathered (event : Event) (occasion : Occasion) : Fields :=
  let given := Assoc.set "event" (.text event.text) (Assoc.overlay [] event.fields)
  let timed := Assoc.set "ts" (.text occasion.time) given
  let leveled := Assoc.set "level" (.text event.level.name) timed
  setDefault "component" (.text (shownComponent event.component)) leveled

def Event.lineFields (event : Event) (occasion : Occasion := {}) : Fields :=
  let named := nameMessage (redact (event.gathered occasion))
  let placed := showTrace "stack_info" "stack" (some occasion.calls) named
  showTrace "exc_info" "exception" occasion.exception placed

/-- Fields as a value; there is no line for those that have no line form. -/
def ofFields (fields : Fields) : Value :=
  .mapping (fields.map fun (name, value) => (.text name, value))

def Event.line (event : Event) (occasion : Occasion := {}) : Option String :=
  (ofFields (event.lineFields occasion)).line

end KeyEnvelope.Log
