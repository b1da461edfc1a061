import KeyEnvelope.Failure

/-!
# Cursors

A cursor is a place in a document: what is left of the text, with the line and the
column where that begins. A document may break off with a fault. The fault shows as
soon as a character is looked at that is missing, and not before.
-/

namespace KeyEnvelope.Yaml

abbrev Scan (α : Type) : Type :=
  Except DocumentFault α

/-- Stands for the end of the text, in which it does not occur. -/
def endMark : Char := '\x00'

def isBreak (c : Char) : Bool :=
  c = '\n' || c = '\x85' || c = '\u2028' || c = '\u2029'

def isBreakOrEnd (c : Char) : Bool :=
  isBreak c || c = endMark

def endsWord (c : Char) : Bool :=
  isBreakOrEnd c || c = ' '

def endsItem (c : Char) : Bool :=
  endsWord c || c = '\t'

def isLetterOrDigit (c : Char) : Bool :=
  c.isDigit || ('a' ≤ c && c ≤ 'z') || ('A' ≤ c && c ≤ 'Z')

/-- Characters of the names of anchors, directives and tag handles. -/
def isNameChar (c : Char) : Bool :=
  isLetterOrDigit c || c = '-' || c = '_'

structure Cursor where
  rest : List Char
  /-- What the text breaks off with; nothing if the document ends where the text
  does. -/
  missing : Option DocumentFault
  line : Nat
  column : Nat
  index : Nat

namespace Cursor

def start (text : List Char) (missing : Option DocumentFault) : Cursor :=
  ⟨text, missing, 0, 0, 0⟩

/-- The first character of a text that breaks off with a fault or ends. -/
def firstOf (missing : Option DocumentFault) : List Char → Scan Char
  | c :: _ => .ok c
  | [] =>
    match missing with
    | some fault => .error fault
    | none => .ok endMark

def peek (cursor : Cursor) (ahead : Nat) : Scan Char :=
  firstOf cursor.missing (cursor.rest.drop ahead)

def next (cursor : Cursor) : Scan Char :=
  firstOf cursor.missing cursor.rest

/-- Moves past one character without a look at the one behind it. Byte order marks
take no column. -/
def pass (cursor : Cursor) : Cursor :=
  match cursor.rest with
  | [] => cursor
  | c :: rest =>
    let index := cursor.index + 1
    if isBreak c then ⟨rest, cursor.missing, cursor.line + 1, 0, index⟩
    else
      ⟨rest, cursor.missing, cursor.line,
        if c = '\ufeff' then cursor.column else cursor.column + 1, index⟩

def passMany (cursor : Cursor) : Nat → Cursor
  | 0 => cursor
  | count + 1 => cursor.pass.passMany count

/-- Moves past some characters, to one that is not missing. -/
def advance (cursor : Cursor) (count : Nat) : Scan Cursor := do
  let after := cursor.passMany count
  let _ ← after.next
  return after

def step (cursor : Cursor) : Scan Cursor :=
  cursor.advance 1

def takeWhile (p : Char → Bool) (cursor : Cursor) : Scan (List Char × Cursor) := do
  let taken := cursor.rest.takeWhile p
  return (taken, ← cursor.advance taken.length)

def skipWhile (p : Char → Bool) (cursor : Cursor) : Scan Cursor := do
  return (← cursor.takeWhile p).2

def skipSpaces (cursor : Cursor) : Scan Cursor :=
  cursor.skipWhile (· = ' ')

def skipComment (cursor : Cursor) : Scan Cursor := do
  if (← cursor.next) = '#' then cursor.skipWhile fun c => !isBreak c else return cursor

/-- Takes a line break; line and paragraph separators stay what they are, all others
become line feeds. -/
def takeBreak (cursor : Cursor) : Scan (List Char × Cursor) := do
  let c ← cursor.next
  if !isBreak c then return ([], cursor)
  else
    let after ← cursor.step
    return (if c = '\u2028' ∨ c = '\u2029' then [c] else ['\n'], after)

/-- Is there a separator of documents, if this is the beginning of a line? Three
characters are looked at. -/
def atSeparator (cursor : Cursor) : Scan Bool := do
  let _ ← cursor.peek 2
  let three := cursor.rest.take 3
  if three = ['-', '-', '-'] || three = ['.', '.', '.'] then return endsItem (← cursor.peek 3)
  else return false

/-- An upper bound for the number of steps to the end. -/
def fuel (cursor : Cursor) : Nat :=
  cursor.rest.length + 1

/-- Requires that what is left of the line is a comment, and moves to the next line. -/
def finishLine (cursor : Cursor) : Scan Cursor := do
  let after ← (← cursor.skipSpaces).skipComment
  if isBreakOrEnd (← after.next) then return (← after.takeBreak).2 else throw .scanning

end Cursor

end KeyEnvelope.Yaml
