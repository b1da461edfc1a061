import KeyEnvelope.Yaml.Token.Marks

/-!
# Reading tokens

Tokens are read one after another, but a token that may turn out to be a key is held
back until it is clear whether a colon follows it: then a key token is put before
it. What is known of such candidates is one mark for each level of flow collections.
-/

namespace KeyEnvelope.Yaml

/-- A token that may be a key, with its place among the tokens and in the text. -/
structure KeyMark where
  number : Nat
  required : Bool
  index : Nat
  line : Nat
  column : Nat

structure Lexer where
  cursor : Cursor
  /-- Tokens that were read and not handed out yet. -/
  queue : List Token
  taken : Nat
  finished : Bool
  /-- The level of flow collections; zero in block collections. -/
  flow : Int
  indent : Int
  indents : List Int
  keyAllowed : Bool
  marks : List (Int × KeyMark)

namespace Lexer

def start (text : List Char) (missing : Option DocumentFault) : Lexer :=
  ⟨.start text missing, [], 0, false, 0, -1, [], true, []⟩

def inFlow (lexer : Lexer) : Bool :=
  lexer.flow ≠ 0

def column (lexer : Lexer) : Int :=
  lexer.cursor.column

def push (lexer : Lexer) (token : Token) : Lexer :=
  { lexer with queue := lexer.queue ++ [token] }

/-- Hands in a token that takes up some characters. -/
def take (lexer : Lexer) (token : Token) (count : Nat) : Scan Lexer := do
  return { lexer with queue := lexer.queue ++ [token], cursor := ← lexer.cursor.advance count }

/-- The most characters that a key may have in one line. -/
def keyLimit : Nat := 1024

def isStale (lexer : Lexer) (mark : KeyMark) : Bool :=
  mark.line ≠ lexer.cursor.line || keyLimit < lexer.cursor.index - mark.index

/-- Drops candidates that cannot be keys any more. A required one must not be among
them. -/
def dropStale (lexer : Lexer) : Scan Lexer :=
  if lexer.marks.any fun (_, mark) => lexer.isStale mark && mark.required then .error .scanning
  else .ok { lexer with marks := lexer.marks.filter fun (_, mark) => !lexer.isStale mark }

def dropMark (lexer : Lexer) : Scan Lexer :=
  match lexer.marks.lookup lexer.flow with
  | none => .ok lexer
  | some mark =>
    if mark.required then .error .scanning
    else .ok { lexer with marks := lexer.marks.filter fun (level, _) => level ≠ lexer.flow }

/-- Notes that the next token may be a key. -/
def saveMark (lexer : Lexer) : Scan Lexer :=
  if !lexer.keyAllowed then .ok lexer
  else do
    let required := !lexer.inFlow && lexer.indent = lexer.column
    let cursor := lexer.cursor
    let mark : KeyMark :=
      ⟨lexer.taken + lexer.queue.length, required, cursor.index, cursor.line, cursor.column⟩
    let lexer ← lexer.dropMark
    return { lexer with marks := lexer.marks ++ [(lexer.flow, mark)] }

/-- The indentation that is left at a column, with a block end for each one that
ends. -/
def unwound (column : Int) : Int → List Int → List Token × Int × List Int
  | indent, [] => ([], indent, [])
  | indent, outer :: indents =>
    if column < indent then
      let (ends, last, rest) := unwound column outer indents
      (.blockEnd :: ends, last, rest)
    else ([], indent, outer :: indents)

def unwind (lexer : Lexer) (column : Int) : Lexer :=
  if lexer.inFlow then lexer
  else
    let (ends, indent, indents) := unwound column lexer.indent lexer.indents
    { lexer with queue := lexer.queue ++ ends, indent, indents }

def indentTo (lexer : Lexer) (column : Int) : Lexer :=
  { lexer with indent := column, indents := lexer.indent :: lexer.indents }

def openBlock (lexer : Lexer) (token : Token) : Lexer :=
  if lexer.indent < lexer.column then (lexer.push token).indentTo lexer.column else lexer

def endStream (lexer : Lexer) : Scan Lexer := do
  let lexer ← (lexer.unwind (-1)).dropMark
  return { lexer.push .streamEnd with keyAllowed := false, marks := [], finished := true }

def takeRead (lexer : Lexer) (read : Cursor → Scan (Token × Cursor)) : Scan Lexer := do
  let (token, cursor) ← read lexer.cursor
  return { lexer.push token with cursor }

def directive (lexer : Lexer) : Scan Lexer := do
  let lexer ← (lexer.unwind (-1)).dropMark
  { lexer with keyAllowed := false }.takeRead Token.directiveOf

def separator (lexer : Lexer) (token : Token) : Scan Lexer := do
  let lexer ← (lexer.unwind (-1)).dropMark
  { lexer with keyAllowed := false }.take token 3

def openFlow (lexer : Lexer) (token : Token) : Scan Lexer := do
  let lexer ← lexer.saveMark
  { lexer with flow := lexer.flow + 1, keyAllowed := true }.take token 1

def closeFlow (lexer : Lexer) (token : Token) : Scan Lexer := do
  let lexer ← lexer.dropMark
  { lexer with flow := lexer.flow - 1, keyAllowed := false }.take token 1

def flowEntry (lexer : Lexer) : Scan Lexer := do
  let lexer ← { lexer with keyAllowed := true }.dropMark
  lexer.take .flowEntry 1

/-- In block collections an entry, a key or a value may only begin where a key may. -/
def beginBlock (lexer : Lexer) (token : Token) : Scan Lexer :=
  if lexer.inFlow then .ok lexer
  else if lexer.keyAllowed then .ok (lexer.openBlock token)
  else .error .scanning

def blockEntry (lexer : Lexer) : Scan Lexer := do
  let lexer ← lexer.beginBlock .blockListStart
  let lexer ← { lexer with keyAllowed := true }.dropMark
  lexer.take .blockEntry 1

def explicitKey (lexer : Lexer) : Scan Lexer := do
  let lexer ← lexer.beginBlock .blockMappingStart
  let lexer ← { lexer with keyAllowed := !lexer.inFlow }.dropMark
  lexer.take .key 1

/-- Puts a key token before the candidate of the current level, and the start of a
mapping if one begins with it. -/
def insertKey (lexer : Lexer) (mark : KeyMark) : Lexer :=
  let begins := !lexer.inFlow && decide (lexer.indent < mark.column)
  let place := mark.number - lexer.taken
  let tokens := if begins then [.blockMappingStart, .key] else [.key]
  let lexer := if begins then lexer.indentTo mark.column else lexer
  { lexer with
    queue := lexer.queue.take place ++ tokens ++ lexer.queue.drop place
    marks := lexer.marks.filter fun (level, _) => level ≠ lexer.flow
    keyAllowed := false }

def value (lexer : Lexer) : Scan Lexer :=
  match lexer.marks.lookup lexer.flow with
  | some mark => (lexer.insertKey mark).take .value 1
  | none => do
    let lexer ← lexer.beginBlock .blockMappingStart
    { lexer with keyAllowed := !lexer.inFlow }.take .value 1

/-- A token that may be a key, and after which none may begin on the line. -/
def keyToken (lexer : Lexer) (read : Cursor → Scan (Token × Cursor)) : Scan Lexer := do
  let lexer ← lexer.saveMark
  { lexer with keyAllowed := false }.takeRead read

def blockScalar (lexer : Lexer) (isFolded : Bool) : Scan Lexer := do
  let lexer ← { lexer with keyAllowed := true }.dropMark
  lexer.takeRead fun cursor => do
    let (text, after) ← Block.read isFolded lexer.indent (← cursor.step)
    return (.scalar (.ofChars text) false, after)

def quotedScalar (cursor : Cursor) : Scan (Token × Cursor) := do
  let (text, after) ← Quoted.read cursor
  return (.scalar text false, after)

def plainScalar (lexer : Lexer) : Scan Lexer := do
  let lexer ← lexer.saveMark
  let cursor := lexer.cursor
  let (text, after, ended) ← Plain.read lexer.inFlow (lexer.indent + 1) cursor.fuel
    cursor [] [] false
  return { lexer.push (.scalar (.ofChars text) true) with cursor := after, keyAllowed := ended }

/-- Blanks, comments and line breaks up to the next token; whether a line ended
among them. -/
def skipToToken : (fuel : Nat) → Cursor → (ended : Bool) → Scan (Cursor × Bool)
  | 0, cursor, ended => .ok (cursor, ended)
  | fuel + 1, cursor, ended => do
    let after ← (← cursor.skipSpaces).skipComment
    if isBreak (← after.next) then
      let (_, line) ← after.takeBreak
      skipToToken fuel line true
    else return (after, ended)

def toToken (lexer : Lexer) : Scan Lexer := do
  let cursor := lexer.cursor
  let cursor ← if cursor.index = 0 ∧ (← cursor.next) = '\ufeff' then cursor.step else pure cursor
  let (cursor, ended) ← skipToToken cursor.fuel cursor false
  return { lexer with cursor, keyAllowed := lexer.keyAllowed || (ended && !lexer.inFlow) }

/-- Characters that do not begin a plain scalar by themselves. -/
def marksToken (c : Char) : Bool :=
  "-?:,[]\x7b\x7d#&*!|>'\"%@\x60".toList.contains c

/-- Does a plain scalar begin here? Where the first character leaves it open, the
second one decides. -/
def beginsPlain (inFlow : Bool) (cursor : Cursor) : Scan Bool := do
  let c ← cursor.next
  if !(endsItem c || marksToken c) then return true
  let next ← cursor.peek 1
  return !endsItem next && (c = '-' || (!inFlow && (c = '?' || c = ':')))

def standsAlone (cursor : Cursor) : Scan Bool := do
  return endsItem (← cursor.peek 1)

def atSeparator (lexer : Lexer) (c : Char) : Scan Bool :=
  if lexer.column = 0 ∧ (c = '-' ∨ c = '.') then lexer.cursor.atSeparator else .ok false

def plainOrFault (lexer : Lexer) : Scan Lexer := do
  if ← beginsPlain lexer.inFlow lexer.cursor then lexer.plainScalar else throw .scanning

/-- A token that begins with a mark of its own only if a blank follows, or else a
plain scalar. -/
def ifAlone (lexer : Lexer) (always : Bool) (read : Scan Lexer) : Scan Lexer := do
  if always then read
  else if ← standsAlone lexer.cursor then read
  else lexer.plainOrFault

def tokenAt (lexer : Lexer) (c : Char) : Scan Lexer :=
  match c with
  | '[' => lexer.openFlow .flowListStart
  | '\x7b' => lexer.openFlow .flowMappingStart
  | ']' => lexer.closeFlow .flowListEnd
  | '\x7d' => lexer.closeFlow .flowMappingEnd
  | ',' => lexer.flowEntry
  | '-' => lexer.ifAlone false lexer.blockEntry
  | '?' => lexer.ifAlone lexer.inFlow lexer.explicitKey
  | ':' => lexer.ifAlone lexer.inFlow lexer.value
  | '*' => lexer.keyToken (Token.named .alias)
  | '&' => lexer.keyToken (Token.named .anchor)
  | '!' => lexer.keyToken Token.tagOf
  | '\x27' | '"' => lexer.keyToken quotedScalar
  | _ =>
    if c = '|' ∧ !lexer.inFlow then lexer.blockScalar false
    else if c = '>' ∧ !lexer.inFlow then lexer.blockScalar true
    else lexer.plainOrFault

def fetch (lexer : Lexer) : Scan Lexer := do
  let lexer ← (← lexer.toToken).dropStale
  let lexer := lexer.unwind lexer.column
  let c ← lexer.cursor.next
  if c = endMark then lexer.endStream
  else if c = '%' ∧ lexer.column = 0 then lexer.directive
  else if ← lexer.atSeparator c then
    lexer.separator (if c = '-' then .documentStart else .documentEnd)
  else lexer.tokenAt c

/-- The number of the first token that may be a key. -/
def firstMark? (lexer : Lexer) : Option Nat :=
  (lexer.marks.map fun (_, mark) => mark.number).min?

/-- Tokens in the order in which they can be handed out, up to the end or a fault. -/
def run : (fuel : Nat) → Lexer → List Token × Option DocumentFault
  | 0, _ => ([], some .scanning)
  | fuel + 1, lexer =>
    let read (lexer : Lexer) :=
      match lexer.fetch with
      | .ok next => run fuel next
      | .error fault => ([], some fault)
    match lexer.queue, lexer.finished with
    | [], true => ([], none)
    | [], false => read lexer
    | token :: queue, finished =>
      match (if finished then .ok lexer else lexer.dropStale) with
      | .error fault => ([], some fault)
      | .ok fresh =>
        if !finished && fresh.firstMark? = some fresh.taken then read fresh
        else
          let (tokens, fault) := run fuel { fresh with queue, taken := fresh.taken + 1 }
          (token :: tokens, fault)

end Lexer

/-- The tokens of a text that may break off, with the fault that ends them early, if
there is one. -/
def Token.ofText (text : List Char) (missing : Option DocumentFault) :
    List Token × Option DocumentFault :=
  Lexer.run (8 * text.length + 64) (.start text missing)

end KeyEnvelope.Yaml
