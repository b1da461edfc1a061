import KeyEnvelope.Decimal.Layout
import KeyEnvelope.Text.Integer
import KeyEnvelope.Text.Quoted
import KeyEnvelope.Value

/-!
# Text form of values

The written form shows what kind a value is: texts are quoted and composite values
have brackets. The text form differs from it for texts, dates and moments, which
show their plain content. An integer of too many digits has neither form.
-/

namespace KeyEnvelope.Value

/-- The quoted form of a byte string, in which bytes outside printable ASCII are
escaped. -/
def writtenBytes (bytes : Bytes) : String :=
  let chars := bytes.map fun byte => Char.ofNat byte.toNat
  let quote := Text.quoteOf chars
  let escape (c : Char) : List Char :=
    if 0x7f ≤ c.toNat then Text.hexEscape c.toNat else Text.escapeChar quote c
  .ofList ('b' :: quote :: chars.flatMap escape ++ [quote])

def listed (opening : String) (items : List String) (closing : String) : String :=
  opening ++ ", ".intercalate items ++ closing

/-- What is left of a value where it occurs within itself. -/
def enclosingMark : Shape → String
  | .list => "[...]"
  | .mapping => "\x7b...\x7d"

mutual

def written : Value → Option String
  | null => some "None"
  | truth b => some (if b then "True" else "False")
  | integer n => Text.writeInteger? n
  | real x => some (Decimal.plainFormat.write x)
  | text s => some (Text.quoted s)
  | bytes b => some (writtenBytes b)
  | date d => some d.written
  | moment m => some m.written
  | list items => (writtenItems items).map fun shown => listed "[" shown "]"
  | pair first second => do
    let a ← first.written
    let b ← second.written
    return listed "(" [a, b] ")"
  | mapping entries => (writtenEntries entries).map fun shown => listed "\x7b" shown "\x7d"
  | set [] => some "set()"
  | set members => (writtenItems members).map fun shown => listed "\x7b" shown "\x7d"
  | enclosing shape => some (enclosingMark shape)

def writtenItems : List Value → Option (List String)
  | [] => some []
  | item :: rest => do
    let shown ← item.written
    let others ← writtenItems rest
    return shown :: others

def writtenEntries : List (Value × Value) → Option (List String)
  | [] => some []
  | (key, value) :: rest => do
    let k ← key.written
    let v ← value.written
    let others ← writtenEntries rest
    return s!"{k}: {v}" :: others

end

def textForm : Value → Option Text
  | text s => some s
  | date d => some d.text
  | moment m => some m.text
  | value => value.written.map Text.ofString

end KeyEnvelope.Value
