import KeyEnvelope.Text.Integer
import KeyEnvelope.Text.Utf8
import KeyEnvelope.Yaml.Scalar
import KeyEnvelope.Yaml.Token

/-!
# Marks in documents

Directives, anchors, aliases and tags: the tokens that begin with a mark of their
own and hold names.
-/

namespace KeyEnvelope.Yaml.Token

/-- A name of one character or more, and what it has to be followed by. -/
def nameBefore (follows : Char → Bool) (cursor : Cursor) : Scan (String × Cursor) := do
  let (name, after) ← cursor.takeWhile isNameChar
  if name.isEmpty ∨ !follows (← after.next) then throw .scanning else return (.ofList name, after)

def named (token : String → Token) (cursor : Cursor) : Scan (Token × Cursor) := do
  let follows (c : Char) := endsItem c || ['?', ':', ',', ']', '\x7d', '%', '@', '\x60'].contains c
  let (name, after) ← nameBefore follows (← cursor.step)
  return (token name, after)

def isUriChar (c : Char) : Bool :=
  isLetterOrDigit c || "-;/?:@&=+$,_.!~*'()[]".toList.contains c

/-- The bytes of a run of percent signs with two hexadecimal digits each. -/
def escapedBytes : (fuel : Nat) → Cursor → Scan (Bytes × Cursor)
  | 0, cursor => .ok ([], cursor)
  | fuel + 1, cursor => do
    if (← cursor.next) ≠ '%' then return ([], cursor)
    let digits ← cursor.step
    let byte ← Quoted.hexNumber 2 digits
    let (bytes, after) ← escapedBytes fuel (← digits.advance 2)
    return (UInt8.ofNat byte :: bytes, after)

def uriFrom : (fuel : Nat) → Cursor → List Char → Scan (List Char × Cursor)
  | 0, cursor, found => .ok (found, cursor)
  | fuel + 1, cursor, found => do
    let (taken, after) ← cursor.takeWhile isUriChar
    if (← after.next) ≠ '%' then return (found ++ taken, after)
    let (bytes, later) ← escapedBytes after.fuel after
    match Text.Utf8.decode? bytes with
    | none => throw .scanning
    | some cs => uriFrom fuel later (found ++ taken ++ cs)

/-- The text of a tag, which must not be empty. -/
def uri (cursor : Cursor) : Scan (String × Cursor) := do
  let (found, after) ← uriFrom cursor.fuel cursor []
  if after.index = cursor.index then throw .scanning
  return (.ofList found, after)

/-- A handle between exclamation marks, or a single one where nothing else can be
meant. -/
def handleOf (cursor : Cursor) : Scan (String × Cursor) := do
  if (← cursor.next) ≠ '!' then throw .scanning
  if (← cursor.peek 1) = ' ' then return ("!", ← cursor.step)
  let (name, after) ← (← cursor.step).takeWhile isNameChar
  if (← after.next) ≠ '!' then throw .scanning
  return (.ofList ('!' :: name ++ ['!']), ← after.step)

def hasHandle (cursor : Cursor) : Scan Bool := do
  let (_, after) ← cursor.takeWhile fun c => !(endsWord c || c = '!')
  return (← after.next) = '!'

def tagOf (cursor : Cursor) : Scan (Token × Cursor) := do
  let second ← cursor.peek 1
  let (token, after) ←
    if second = '<' then do
      let (name, after) ← uri (← cursor.advance 2)
      if (← after.next) ≠ '>' then throw .scanning
      pure (Token.tag none name, ← after.step)
    else if endsItem second then do
      pure (Token.tag none "!", ← cursor.step)
    else do
      let behind ← cursor.step
      let (short, after) ← if ← hasHandle behind then handleOf cursor else pure ("!", behind)
      let (name, last) ← uri after
      pure (Token.tag (some short) name, last)
  if endsWord (← after.next) then return (token, after) else throw .scanning

def number (cursor : Cursor) : Scan (Nat × Cursor) := do
  let (digits, after) ← cursor.takeWhile Char.isDigit
  if digits.isEmpty then throw .scanning
  if Text.digitLimit < digits.length then throw (.badNumber (Text.tooLongMessage digits.length))
  return (digits.foldl (fun n d => 10 * n + (d.toNat - '0'.toNat)) 0, after)

def versionOf (cursor : Cursor) : Scan (Token × Cursor) := do
  let (major, after) ← number (← cursor.skipSpaces)
  if (← after.next) ≠ '.' then throw .scanning
  let (_, last) ← number (← after.step)
  if endsWord (← last.next) then return (.version major, last) else throw .scanning

def handleDirective (cursor : Cursor) : Scan (Token × Cursor) := do
  let (name, after) ← handleOf (← cursor.skipSpaces)
  if (← after.next) ≠ ' ' then throw .scanning
  let (lead, last) ← uri (← after.skipSpaces)
  if endsWord (← last.next) then return (.tagHandle name lead, last) else throw .scanning

/-- A directive with the rest of its line; the cursor is on its mark. -/
def directiveOf (cursor : Cursor) : Scan (Token × Cursor) := do
  let (name, after) ← nameBefore endsWord (← cursor.step)
  let (token, last) ←
    if name = "YAML" then versionOf after
    else if name = "TAG" then handleDirective after
    else do
      pure (.directive, ← after.skipWhile fun c => !isBreak c)
  return (token, ← last.finishLine)

end KeyEnvelope.Yaml.Token
