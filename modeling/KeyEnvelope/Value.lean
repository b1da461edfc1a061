import KeyEnvelope.Bytes
import KeyEnvelope.Calendar
import KeyEnvelope.Decimal.Parts
import KeyEnvelope.Text

/-!
# Values

The values of documents and of the fields of log events. A value that occurs within
itself is cut where it occurs again; what is left there is a mark of its shape.
-/

namespace KeyEnvelope

/-- The shapes of values that may occur within themselves. -/
inductive Shape where
  | list
  | mapping
deriving DecidableEq

inductive Value where
  | null
  | truth (value : Bool)
  | integer (value : Int)
  | real (value : Float)
  | text (value : Text)
  | bytes (value : Bytes)
  | date (value : Calendar.Date)
  | moment (value : Calendar.Moment)
  | list (items : List Value)
  | pair (first second : Value)
  | mapping (entries : List (Value × Value))
  | set (members : List Value)
  | enclosing (shape : Shape)

namespace Value

def integer? : Value → Option Int
  | truth b => some (if b then 1 else 0)
  | integer n => some n
  | _ => none

/-- Do two values count as the same key? Numbers are compared by what they stand
for, whatever their kind; what is no number equals nothing. -/
def sameKey : Value → Value → Bool
  | null, null => true
  | text a, text b => a == b
  | bytes a, bytes b => a == b
  | date a, date b => a == b
  | moment a, moment b => a.same b
  | real x, real y => x == y
  | real x, a | a, real x =>
    match a.integer? with
    | some n => (Decimal.Parts.ofBits x.toBits).integer? == some n
    | none => false
  | a, b =>
    match a.integer?, b.integer? with
    | some m, some n => m == n
    | _, _ => false

def entry? (name : Text) : List (Value × Value) → Option Value
  | [] => none
  | (text k, v) :: rest => if k = name then some v else entry? name rest
  | _ :: rest => entry? name rest

/-- Values that stand for nothing: no value, no truth, zero, and whatever is empty. -/
def isVoid : Value → Bool
  | null => true
  | truth b => !b
  | integer n => n == 0
  | real x => x == 0
  | text s => s.isEmpty
  | bytes b => b.isEmpty
  | list items => items.isEmpty
  | mapping entries => entries.isEmpty
  | set members => members.isEmpty
  | date _ | moment _ | pair _ _ | enclosing _ => false

end Value

end KeyEnvelope
