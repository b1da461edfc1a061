import KeyEnvelope.Value

/-!
# Events

What is logged: a text at a level from a component, with named fields.
-/

namespace KeyEnvelope.Log

inductive Level where
  | debug
  | info
  | warning
  | error
  | critical
deriving DecidableEq

namespace Level

def all : List Level :=
  [debug, info, warning, error, critical]

def name : Level → String
  | debug => "debug"
  | info => "info"
  | warning => "warning"
  | error => "error"
  | critical => "critical"

def severity : Level → Nat
  | debug => 10
  | info => 20
  | warning => 30
  | error => 40
  | critical => 50

end Level

abbrev Fields := List (String × Value)

structure Event where
  component : String
  level : Level
  text : String
  fields : Fields

end KeyEnvelope.Log
