import KeyEnvelope.Decimal.Reading
import KeyEnvelope.Text.Case
import KeyEnvelope.Text.Integer
import KeyEnvelope.Text.Quoted
import KeyEnvelope.Value
import KeyEnvelope.Yaml.Base64
import KeyEnvelope.Yaml.Tag
import KeyEnvelope.Yaml.Timestamp

/-!
# Content of scalars

The kind of a plain scalar, and the value of a scalar of a known kind.
-/

namespace KeyEnvelope.Yaml

def dropFinalBreak (cs : List Char) : List Char :=
  if cs.getLast? = some '\n' then cs.dropLast else cs

/-- The kind that a plain text looks like. -/
def Tag.ofText (text : Text) : Tag :=
  let cs := dropFinalBreak text.chars
  let shown := String.ofList cs
  if cs.isEmpty && !text.isEmpty then .text
  else if truthWords.contains shown then .truth
  else if looksReal cs then .real
  else if looksInteger cs then .integer
  else if shown = "<<" then .merge
  else if nullWords.contains shown then .null
  else if (Timestamp.read? cs).any Timestamp.isPlain then .timestamp
  else if shown = "=" then .value
  else if ["!", "&", "*"].contains shown then .unknown
  else .text

namespace Content

/-- How much of a text is quoted in a message. -/
def quoteLimit : Nat := 200

def integerFault (base : Nat) (text : Text) : Text.IntegerFault → DocumentFault
  | .notInteger =>
    let shown := String.ofList (text.quoted.toList.take quoteLimit)
    .badNumber (s!"invalid literal for int() with base {base}: " ++ shown)
  | .tooLong digits => .badNumber (Text.tooLongMessage digits)

def wholeNumber (text : Text) : Scan Int :=
  (Text.readInteger text).mapError (integerFault 10 text)

def numberIn (base : Nat) (text : Text) : Scan Int :=
  (Text.readIntegerIn base text).mapError (integerFault base text)

def groupsOf (text : Text) : List Text :=
  text.splitOn ':'

def withoutUnderscores (text : Text) : Text :=
  ⟨text.codes.filter (· ≠ .char '_')⟩

/-- Splits off a sign; `true` if it is a minus. -/
def splitSign (text : Text) : Bool × Text :=
  match text.codes with
  | .char '-' :: rest => (true, ⟨rest⟩)
  | .char '+' :: rest => (false, ⟨rest⟩)
  | _ => (false, text)

def sixtieths (groups : List Int) : Int :=
  groups.foldl (fun sum group => 60 * sum + group) 0

def unsignedInteger (text : Text) : Scan Int :=
  match text.codes with
  | [] => .error .emptyNumber
  | [.char '0'] => .ok 0
  | .char '0' :: .char 'b' :: rest => numberIn 2 ⟨rest⟩
  | .char '0' :: .char 'x' :: rest => numberIn 16 ⟨rest⟩
  | .char '0' :: _ => numberIn 8 text
  | codes =>
    if codes.contains (.char ':') then do return sixtieths (← (groupsOf text).mapM wholeNumber)
    else wholeNumber text

def integer (text : Text) : Scan Int := do
  let given := withoutUnderscores text
  if given.isEmpty then throw .emptyNumber
  let (negative, unsigned) := splitSign given
  let n ← unsignedInteger unsigned
  return if negative then -n else n

def realNumber (text : Text) : Scan Float :=
  match Decimal.read? text with
  | some x => .ok x
  | none => .error (.badNumber ("could not convert string to float: " ++ text.quoted))

/-- The sum of groups, each weighing sixty times as much as the one behind it. -/
def realSixtieths (groups : List Float) : Float :=
  (groups.reverse.foldl (fun (sum, weight) group => (sum + group * Float.ofNat weight, 60 * weight))
    ((0 : Float), 1)).1

/-- With more groups than this a weight is beyond the range of real numbers. -/
def groupLimit : Nat := 174

/-- The text of what is no number, without a sign. -/
def notANumber : List Char :=
  ['.', 'n', 'a', 'n']

def unsignedReal (text : Text) : Scan Float :=
  let cs := text.chars
  if cs = ['.', 'i', 'n', 'f'] then .ok (1 / 0)
  else if cs = notANumber then .ok (0 / 0)
  else if cs.contains ':' then do
    let groups ← (groupsOf text).mapM realNumber
    if groupLimit < groups.length then throw .weightOutOfRange
    return realSixtieths groups
  else realNumber text

/-- The sign and the digits of a real number. -/
def realParts (text : Text) : Bool × Text :=
  splitSign (withoutUnderscores text).lower

def real (text : Text) : Scan Float := do
  if (withoutUnderscores text).isEmpty then throw .emptyNumber
  let (negative, unsigned) := realParts text
  let x ← unsignedReal unsigned
  return if negative then -x else x

def affirmations : List Text :=
  ["yes", "true", "on"]

def negations : List Text :=
  ["no", "false", "off"]

def truth (text : Text) : Scan Bool :=
  let word := text.lower
  if word ∈ affirmations then .ok true
  else if word ∈ negations then .ok false
  else .error (.badTruth word)

def binary (text : Text) : Scan Bytes :=
  let cs := text.chars
  if cs.any fun c => 0x80 ≤ c.toNat then .error .constructing
  else
    match Base64.decode? cs with
    | some bytes => .ok bytes
    | none => .error .constructing

def timestamp (text : Text) : Scan Value := do
  let some stamp := Timestamp.read? (dropFinalBreak text.chars) | throw .badTime
  let fail (fault : Calendar.Fault) := DocumentFault.outOfRange fault.message
  match stamp.time with
  | none => return .date (← (Calendar.checkDate stamp.date).mapError fail)
  | some (hour, minute, second, micro) =>
    let moment := ⟨stamp.date, hour, minute, second, micro, stamp.offset⟩
    return .moment (← (Calendar.checkMoment moment).mapError fail)

def ofScalar (tag : Tag) (text : Text) : Scan Value :=
  match tag with
  | .null => .ok .null
  | .truth => (truth text).map .truth
  | .integer => (integer text).map .integer
  | .real => (real text).map .real
  | .binary => (binary text).map .bytes
  | .timestamp => timestamp text
  | .text => .ok (.text text)
  | .list | .mapping | .omap | .pairs | .set | .merge | .value | .unknown => .error .constructing

/-- All scalars that spell out what is no number have one value in common, whatever
sign they have. -/
def isShared (tag : Tag) (text : Text) : Bool :=
  tag = .real && (realParts text).2.chars = notANumber

end Content

end KeyEnvelope.Yaml
