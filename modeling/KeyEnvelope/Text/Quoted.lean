import KeyEnvelope.Text
import KeyEnvelope.Text.Hexadecimal
import KeyEnvelope.Text.Printable

/-!
# Quoted texts

A quoted text stands between single quotes, or between double quotes if it holds a
single quote and no double quote. Backslashes, the quote in use, line ends, tabs,
unprintable characters and halves are escaped.
-/

namespace KeyEnvelope.Text

/-- The hexadecimal escape of a character, as short as its code allows. -/
def hexEscape (code : Nat) : List Char :=
  if code < 0x100 then ['\\', 'x'] ++ hexDigits 2 code
  else if code < 0x10000 then ['\\', 'u'] ++ hexDigits 4 code
  else ['\\', 'U'] ++ hexDigits 8 code

def escapeChar (quote c : Char) : List Char :=
  if c = quote ∨ c = '\\' then ['\\', c]
  else if c = '\n' then ['\\', 'n']
  else if c = '\r' then ['\\', 'r']
  else if c = '\t' then ['\\', 't']
  else if isPrintable c then [c]
  else hexEscape c.toNat

def escape (quote : Char) : Code → List Char
  | .char c => escapeChar quote c
  | .half number => hexEscape number

def quoteOf (cs : List Char) : Char :=
  if cs.contains '\x27' && !cs.contains '"' then '"' else '\x27'

def quoted (text : Text) : String :=
  let quote := quoteOf text.chars
  .ofList (quote :: text.codes.flatMap (escape quote) ++ [quote])

def quotedOrNone : Option Text → String
  | some text => quoted text
  | none => "None"

end KeyEnvelope.Text
