import KeyEnvelope.Text.Hexadecimal
import KeyEnvelope.Yaml.Cursor

/-!
# Scalars in documents

The texts of plain, quoted and block scalars. A single line break within a scalar is
folded into a space, further ones are kept.
-/

namespace KeyEnvelope.Yaml

namespace Plain

/-- Does a plain scalar stop before this character, whatever follows? -/
def stops (inFlow : Bool) (c : Char) : Bool :=
  endsItem c || (inFlow && [',', '?', '[', ']', '\x7b', '\x7d'].contains c)

/-- Does a plain scalar stop before a colon that this character follows? -/
def stopsAtColon (inFlow : Bool) (next : Char) : Bool :=
  endsItem next || (inFlow && [',', '[', ']', '\x7b', '\x7d'].contains next)

/-- The length of the run of characters up to where a plain scalar stops, added to a
length before it. -/
def runLength (inFlow : Bool) (missing : Option DocumentFault) : List Char → Nat → Scan Nat
  | [], length => (Cursor.firstOf missing []).map fun _ => length
  | c :: rest, length =>
    if stops inFlow c then .ok length
    else if c = ':' then
      match Cursor.firstOf missing rest with
      | .error fault => .error fault
      | .ok next =>
        if stopsAtColon inFlow next then .ok length
        else runLength inFlow missing rest (length + 1)
    else runLength inFlow missing rest (length + 1)

/-- Breaks and spaces behind a line break; `none` if a separator of documents comes. -/
def breaks : (fuel : Nat) → Cursor → List Char → Scan (Option (List Char) × Cursor)
  | 0, cursor, found => .ok (some found, cursor)
  | fuel + 1, cursor, found => do
    let c ← cursor.next
    if c = ' ' then breaks fuel (← cursor.step) found
    else if isBreak c then
      let (taken, after) ← cursor.takeBreak
      if ← after.atSeparator then return (none, after) else breaks fuel after (found ++ taken)
    else return (some found, cursor)

/-- The space behind a run, folded; whether a line ended in it. -/
def space (cursor : Cursor) : Scan (Option (List Char) × Cursor × Bool) := do
  let (blanks, after) ← cursor.takeWhile (· = ' ')
  if isBreak (← after.next) then
    let (first, line) ← after.takeBreak
    if ← line.atSeparator then return (none, line, true)
    match ← breaks line.fuel line [] with
    | (none, last) => return (none, last, true)
    | (some more, last) =>
      let folded := if first ≠ ['\n'] then first else if more.isEmpty then [' '] else []
      return (some (folded ++ more), last, true)
  else return (some blanks, after, false)

/-- The text of a plain scalar, where it ends, and whether a line ended behind it. -/
def read (inFlow : Bool) (indent : Int) :
    (fuel : Nat) → Cursor → (text between : List Char) → (ended : Bool) →
      Scan (List Char × Cursor × Bool)
  | 0, cursor, text, _, ended => .ok (text, cursor, ended)
  | fuel + 1, cursor, text, between, ended => do
    if (← cursor.next) = '#' then return (text, cursor, ended)
    let length ← runLength inFlow cursor.missing cursor.rest 0
    if length = 0 then return (text, cursor, ended)
    let grown := text ++ between ++ cursor.rest.take length
    match ← space (← cursor.advance length) with
    | (none, after, ended) => return (grown, after, ended)
    | (some gap, after, ended) =>
      if gap.isEmpty then return (grown, after, ended)
      if (← after.next) = '#' ∨ (!inFlow ∧ (after.column : Int) < indent) then
        return (grown, after, ended)
      read inFlow indent fuel after grown gap ended

end Plain

namespace Quoted

def replacements : List (Char × Char) :=
  [('0', '\x00'), ('a', '\x07'), ('b', '\x08'), ('t', '\t'), ('\t', '\t'), ('n', '\n'),
    ('v', '\x0b'), ('f', '\x0c'), ('r', '\r'), ('e', '\x1b'), (' ', ' '), ('"', '"'),
    ('\\', '\\'), ('/', '/'),
    ('N', '\x85'), ('_', '\xa0'), ('L', '\u2028'), ('P', '\u2029')]

def codeLengths : List (Char × Nat) :=
  [('x', 2), ('u', 4), ('U', 8)]

def hexNumber (count : Nat) (cursor : Cursor) : Scan Nat :=
  (List.range count).foldlM (fun sum ahead => do
    match Text.hexValue? (← cursor.peek ahead) with
    | some digit => return 16 * sum + digit
    | none => throw .scanning) 0

/-- Checks that a number may be the code of a character or of half a surrogate pair. -/
def checkCode (code : Nat) : Scan Unit :=
  if 0x80000000 ≤ code then .error .beyondCodes
  else if 0x110000 ≤ code then .error (.outOfRange "chr() arg not in range(0x110000)")
  else .ok ()

/-- Line breaks with blanks around them; a separator of documents must not come. -/
def breaks : (fuel : Nat) → Cursor → List Char → Scan (List Char × Cursor)
  | 0, cursor, found => .ok (found, cursor)
  | fuel + 1, cursor, found => do
    if ← cursor.atSeparator then throw .scanning
    let after ← cursor.skipWhile fun c => c = ' ' || c = '\t'
    if isBreak (← after.next) then
      let (taken, line) ← after.takeBreak
      breaks fuel line (found ++ taken)
    else return (found, after)

/-- The codes that an escape stands for; the cursor is behind the backslash. -/
def escape (cursor : Cursor) : Scan (List Code × Cursor) := do
  let c ← cursor.next
  match replacements.lookup c, codeLengths.lookup c with
  | some replaced, _ => return ([.char replaced], ← cursor.step)
  | none, some count => do
    let digits ← cursor.step
    let code ← hexNumber count digits
    checkCode code
    return ([.ofNumber code], ← digits.advance count)
  | none, none =>
    if isBreak c then
      let (_, line) ← cursor.takeBreak
      let (taken, after) ← breaks line.fuel line []
      return (taken.map .char, after)
    else throw .scanning

/-- Characters that stand for themselves between quotes, whichever quotes these are. -/
def isOrdinary (c : Char) : Bool :=
  !(endsItem c || c = '\x27' || c = '"' || c = '\\')

/-- The codes up to a blank, a break, the closing quote or the end. -/
def word (isDouble : Bool) : (fuel : Nat) → Cursor → List Code → Scan (List Code × Cursor)
  | 0, cursor, found => .ok (found, cursor)
  | fuel + 1, cursor, found => do
    let (ordinary, after) ← cursor.takeWhile isOrdinary
    let found := found ++ ordinary.map .char
    let c ← after.next
    if endsItem c then return (found, after)
    else if isDouble ∧ c = '\\' then
      let (escaped, later) ← escape (← after.step)
      word isDouble fuel later (found ++ escaped)
    else if isDouble ∧ c = '"' then return (found, after)
    else if isDouble ∨ c ≠ '\x27' then word isDouble fuel (← after.step) (found ++ [.char c])
    else if (← after.peek 1) = '\x27' then
      word isDouble fuel (← after.advance 2) (found ++ [.char c])
    else return (found, after)

/-- The blanks between words, folded if lines end in them. -/
def space (cursor : Cursor) : Scan (List Char × Cursor) := do
  let (blanks, after) ← cursor.takeWhile fun c => c = ' ' || c = '\t'
  let c ← after.next
  if c = endMark then throw .scanning
  else if isBreak c then
    let (first, line) ← after.takeBreak
    let (more, last) ← breaks line.fuel line []
    let folded := if first ≠ ['\n'] then first else if more.isEmpty then [' '] else []
    return (folded ++ more, last)
  else return (blanks, after)

def readFrom (isDouble : Bool) (quote : Char) :
    (fuel : Nat) → Cursor → List Code → Scan (List Code × Cursor)
  | 0, _, _ => .error .scanning
  | fuel + 1, cursor, found => do
    let (text, after) ← word isDouble cursor.fuel cursor []
    if (← after.next) = quote then return (found ++ text, ← after.step)
    else
      let (gap, later) ← space after
      readFrom isDouble quote fuel later (found ++ text ++ gap.map .char)

/-- The text of a quoted scalar; the cursor is on its opening quote. -/
def read (cursor : Cursor) : Scan (Text × Cursor) := do
  let quote ← cursor.next
  let (found, after) ← readFrom (quote = '"') quote cursor.fuel (← cursor.step) []
  return (⟨found⟩, after)

end Quoted

namespace Block

/-- What becomes of the line breaks at the end of a block scalar. -/
inductive Chomping where
  | clip
  | strip
  | keep
deriving DecidableEq

def chomping? : Char → Option Chomping
  | '+' => some .keep
  | '-' => some .strip
  | _ => none

/-- The indentation that a header asks for. -/
def increment? (cursor : Cursor) : Scan (Option Nat × Cursor) := do
  let c ← cursor.next
  if !c.isDigit then return (none, cursor)
  else if c = '0' then throw .scanning
  else return (some (c.toNat - '0'.toNat), ← cursor.step)

/-- The header of a block scalar: chomping and indentation in either order. -/
def header (cursor : Cursor) : Scan (Chomping × Option Nat × Cursor) := do
  let (chomping, increment, after) ←
    match chomping? (← cursor.next) with
    | some chomping => do
      let (increment, after) ← increment? (← cursor.step)
      pure (chomping, increment, after)
    | none => do
      let (increment, after) ← increment? cursor
      match increment, chomping? (← after.next) with
      | some _, some chomping => pure (chomping, increment, ← after.step)
      | _, _ => pure (.clip, increment, after)
  if endsWord (← after.next) then return (chomping, increment, after) else throw .scanning

/-- The breaks before the first line of text, with the widest indentation among
them. -/
def leading : (fuel : Nat) → Cursor → List Char → (widest : Nat) → Scan (List Char × Nat × Cursor)
  | 0, cursor, found, widest => .ok (found, widest, cursor)
  | fuel + 1, cursor, found, widest => do
    let c ← cursor.next
    if c = ' ' then
      let after ← cursor.step
      leading fuel after found (max widest after.column)
    else if isBreak c then
      let (taken, after) ← cursor.takeBreak
      leading fuel after (found ++ taken) widest
    else return (found, widest, cursor)

def skipIndent (indent : Nat) (cursor : Cursor) : Scan Cursor :=
  let spaces := ((cursor.rest.take (indent - cursor.column)).takeWhile (· = ' ')).length
  cursor.advance spaces

/-- Breaks of lines that hold nothing but indentation. -/
def breaks (indent : Nat) : (fuel : Nat) → Cursor → List Char → Scan (List Char × Cursor)
  | 0, cursor, found => .ok (found, cursor)
  | fuel + 1, cursor, found => do
    let after ← skipIndent indent cursor
    if isBreak (← after.next) then
      let (taken, line) ← after.takeBreak
      breaks indent fuel line (found ++ taken)
    else return (found, after)

def isBlank (c : Char) : Bool :=
  c = ' ' || c = '\t'

/-- The lines of a block scalar, the last line break, and the breaks behind it. -/
def lines (isFolded : Bool) (indent : Nat) :
    (fuel : Nat) → Cursor → (text before : List Char) →
      Scan (List Char × List Char × List Char × Cursor)
  | 0, cursor, text, before => .ok (text, [], before, cursor)
  | fuel + 1, cursor, text, before => do
    if cursor.column ≠ indent then return (text, [], before, cursor)
    let c ← cursor.next
    if c = endMark then return (text, [], before, cursor)
    let (line, atBreak) ← cursor.takeWhile fun c => !isBreak c
    let (lineBreak, after) ← atBreak.takeBreak
    let (more, following) ← breaks indent after.fuel after []
    let grown := text ++ before ++ line
    if following.column ≠ indent then return (grown, lineBreak, more, following)
    let d ← following.next
    if d = endMark then return (grown, lineBreak, more, following)
    let joins := isFolded && lineBreak = ['\n'] && !isBlank c && !isBlank d
    let joint := if joins then (if more.isEmpty then [' '] else []) else lineBreak
    lines isFolded indent fuel following (grown ++ joint) more

def chomp (chomping : Chomping) (text lineBreak more : List Char) : List Char :=
  match chomping with
  | .strip => text
  | .clip => text ++ lineBreak
  | .keep => text ++ lineBreak ++ more

/-- The text of a block scalar below the given indentation; the cursor is behind its
mark. -/
def read (isFolded : Bool) (parentIndent : Int) (cursor : Cursor) : Scan (List Char × Cursor) := do
  let (chomping, increment, after) ← header cursor
  let first ← after.finishLine
  let least := max (parentIndent + 1).toNat 1
  let (before, indent, body) ←
    match increment with
    | none => do
      let (before, widest, body) ← leading first.fuel first [] 0
      pure (before, max least widest, body)
    | some increment => do
      let indent := least + increment - 1
      let (before, body) ← breaks indent first.fuel first []
      pure (before, indent, body)
  let (text, lineBreak, more, last) ← lines isFolded indent body.fuel body [] before
  return (chomp chomping text lineBreak more, last)

end Block

end KeyEnvelope.Yaml
