import KeyEnvelope.Value.Text

/-!
# Line form of values

A value on one line of ASCII: objects and arrays with a space behind each separator,
texts between double quotes with everything but printable ASCII escaped. Kinds of
values that the form does not know are written as texts, but they are no keys. A value
that occurs within itself has no line form.
-/

namespace KeyEnvelope.Value

def unitEscape (unit : Nat) : List Char :=
  '\\' :: 'u' :: Text.hexDigits 4 unit

/-- A character beyond the first plane is escaped as two surrogate units. -/
def lineEscape (c : Char) : List Char :=
  if c = '"' ∨ c = '\\' then ['\\', c]
  else if c = '\n' then ['\\', 'n']
  else if c = '\r' then ['\\', 'r']
  else if c = '\t' then ['\\', 't']
  else if c = '\x0c' then ['\\', 'f']
  else if c = '\x08' then ['\\', 'b']
  else if 0x20 ≤ c.toNat ∧ c.toNat ≤ 0x7e then [c]
  else if c.toNat < 0x10000 then unitEscape c.toNat
  else
    let offset := c.toNat - 0x10000
    unitEscape (0xd800 + offset / 0x400) ++ unitEscape (0xdc00 + offset % 0x400)

def lineCode : Code → List Char
  | .char c => lineEscape c
  | .half number => unitEscape number

def lineText (text : Text) : String :=
  .ofList ('"' :: text.codes.flatMap lineCode ++ ['"'])

def lineKey : Value → Option Text
  | text s => some s
  | null => some "null"
  | truth b => some (if b then "true" else "false")
  | integer n => (Text.writeInteger? n).map Text.ofString
  | real x => some (Decimal.lineFormat.write x)
  | _ => none

mutual

def line : Value → Option String
  | null => some "null"
  | truth b => some (if b then "true" else "false")
  | integer n => Text.writeInteger? n
  | real x => some (Decimal.lineFormat.write x)
  | text s => some (lineText s)
  | list items => (lineItems items).map fun shown => listed "[" shown "]"
  | pair first second => do
    let a ← first.line
    let b ← second.line
    return listed "[" [a, b] "]"
  | mapping entries => (lineEntries entries).map fun shown => listed "\x7b" shown "\x7d"
  | enclosing _ => none
  | value => value.written.map fun shown => lineText shown

def lineItems : List Value → Option (List String)
  | [] => some []
  | item :: rest => do
    let shown ← item.line
    let others ← lineItems rest
    return shown :: others

def lineEntries : List (Value × Value) → Option (List String)
  | [] => some []
  | (key, value) :: rest => do
    let k ← key.lineKey
    let v ← value.line
    let others ← lineEntries rest
    return s!"{lineText k}: {v}" :: others

end

end KeyEnvelope.Value
