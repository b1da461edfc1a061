import KeyEnvelope.Yaml.Token.Reading

/-!
# Events of documents

The structure that tokens have: documents, collections within each other, and
scalars. What may come next is one expectation with a stack of those that wait for
it.
-/

namespace KeyEnvelope.Yaml

/-- Tags are given in full; a node has none if its kind is to be found by its
content. -/
inductive Event where
  | documentStart
  | documentEnd
  | streamEnd
  | alias (name : String)
  | scalar (anchor tag : Option String) (isPlain : Bool) (text : Text)
  | listStart (anchor tag : Option String)
  | mappingStart (anchor tag : Option String)
  | collectionEnd
deriving DecidableEq

inductive Expectation where
  | firstDocument
  | document
  | documentContent
  | documentEnd
  | blockNode
  | blockEntry
  | bareEntry
  | blockKey
  | blockValue
  | flowEntry (isFirst : Bool)
  | pairKey
  | pairValue
  | pairEnd
  | flowKey (isFirst : Bool)
  | flowValue
  | noValue
  | nothing
deriving DecidableEq

structure Parser where
  tokens : List Token
  /-- What ends the tokens early. -/
  fault : Option DocumentFault
  expected : Expectation
  waiting : List Expectation
  handles : List (String × String)

abbrev Parse (α : Type) : Type :=
  StateT Parser (Except DocumentFault) α

namespace Parser

def defaultHandles : List (String × String) :=
  [("!", "!"), ("!!", "tag:yaml.org,2002:")]

def peek : Parse Token := do
  let parser ← get
  match parser.tokens with
  | token :: _ => return token
  | [] => throw (parser.fault.getD .scanning)

def skip : Parse Unit :=
  modify fun parser => { parser with tokens := parser.tokens.tail }

def skipIf (token : Token) : Parse Bool := do
  if (← peek) = token then
    skip
    return true
  else return false

def meets (tokens : List Token) : Parse Bool := do
  return tokens.contains (← peek)

def expect (next : Expectation) : Parse Unit :=
  modify fun parser => { parser with expected := next }

/-- What comes after the node that is read next. -/
def wait (next : Expectation) : Parse Unit :=
  modify fun parser => { parser with waiting := next :: parser.waiting }

/-- Goes on with what waits for the node that has ended. -/
def resume : Parse Unit :=
  modify fun parser =>
    match parser.waiting with
    | next :: waiting => { parser with expected := next, waiting }
    | [] => { parser with expected := .nothing }

def emptyScalar : Event :=
  .scalar none none true ""

/-- Yields an empty scalar where a node is left out. -/
def leaveOut (next : Expectation) : Parse Event := do
  expect next
  return emptyScalar

def isDirective : Token → Bool
  | .version _ | .tagHandle _ _ | .directive => true
  | _ => false

/-- The anchor and the tag before a node, in either order. -/
def properties : Parse (Option String × Option (Option String × String)) := do
  match ← peek with
  | .anchor name =>
    skip
    match ← peek with
    | .tag handle rest => do skip; return (some name, some (handle, rest))
    | _ => return (some name, none)
  | .tag handle rest =>
    skip
    match ← peek with
    | .anchor name => do skip; return (some name, some (handle, rest))
    | _ => return (none, some (handle, rest))
  | _ => return (none, none)

/-- The tag in full; its handle must be known. -/
def fullTag : Option (Option String × String) → Parse (Option String)
  | none => return none
  | some (none, rest) => return some rest
  | some (some handle, rest) => do
    match (← get).handles.lookup handle with
    | some lead => return some (lead ++ rest)
    | none => throw .parsing

/-- Reads a node. Block collections are allowed in blocks, lists without indentation
in mappings. -/
def node (inBlock isBare : Bool) : Parse Event := do
  if let .alias name ← peek then
    skip
    resume
    return .alias name
  let (anchor, given) ← properties
  let full ← fullTag given
  let tag := full.filter (· ≠ "!")
  let token ← peek
  if isBare ∧ token = .blockEntry then
    expect .bareEntry
    return .listStart anchor tag
  match token with
  | .scalar text isPlain => do
    skip
    resume
    return .scalar anchor tag ((isPlain && full.isNone) || full = some "!") text
  | .flowListStart => do
    skip
    expect (.flowEntry true)
    return .listStart anchor tag
  | .flowMappingStart => do
    skip
    expect (.flowKey true)
    return .mappingStart anchor tag
  | _ =>
    if inBlock ∧ token = .blockListStart then
      skip
      expect .blockEntry
      return .listStart anchor tag
    else if inBlock ∧ token = .blockMappingStart then
      skip
      expect .blockKey
      return .mappingStart anchor tag
    else if anchor.isSome ∨ full.isSome then
      resume
      return .scalar anchor tag tag.isNone ""
    else throw .parsing

/-- Reads a node before which something else waits, unless one of the given tokens
shows that it is left out. -/
def nodeUnless (absent : List Token) (next : Expectation) (read : Parse Event) : Parse Event := do
  if ← meets absent then leaveOut next
  else
    wait next
    read

def endCollection : Parse Event := do
  skip
  resume
  return .collectionEnd

/-- Reads directives, given what they have said so far. -/
def directives :
    (fuel : Nat) → (versionSeen : Bool) → List (String × String) → Parse (List (String × String))
  | 0, _, handles => return handles
  | fuel + 1, versionSeen, handles => do
    match ← peek with
    | .version major => do
      if versionSeen ∨ major ≠ 1 then throw .parsing
      skip
      directives fuel true handles
    | .tagHandle name lead => do
      if (handles.lookup name).isSome then throw .parsing
      skip
      directives fuel versionSeen (handles ++ [(name, lead)])
    | .directive => do
      skip
      directives fuel versionSeen handles
    | _ => return handles

def skipDocumentEnds : (fuel : Nat) → Parse Unit
  | 0 => return ()
  | fuel + 1 => do
    if ← skipIf .documentEnd then skipDocumentEnds fuel

def startDocument (next : Expectation) (handles : List (String × String)) : Parse Event := do
  modify fun parser => { parser with handles := handles ++ defaultHandles }
  wait .documentEnd
  expect next
  return .documentStart

def document : Parse Event := do
  skipDocumentEnds (← get).tokens.length
  if ← skipIf .streamEnd then
    expect .nothing
    return .streamEnd
  let handles ← directives ((← get).tokens.length + 1) false []
  if ← skipIf .documentStart then startDocument .documentContent handles else throw .parsing

def firstDocument : Parse Event := do
  let token ← peek
  if isDirective token ∨ token = .documentStart ∨ token = .streamEnd then document
  else startDocument .blockNode []

def documentContent : Parse Event := do
  let token ← peek
  if isDirective token ∨ [.documentStart, .documentEnd, .streamEnd].contains token then
    resume
    return emptyScalar
  else node true false

def blockEntry : Parse Event := do
  if ← skipIf .blockEntry then nodeUnless [.blockEntry, .blockEnd] .blockEntry (node true false)
  else if ← meets [.blockEnd] then endCollection
  else throw .parsing

def bareEntry : Parse Event := do
  if ← skipIf .blockEntry then
    nodeUnless [.blockEntry, .key, .value, .blockEnd] .bareEntry (node true false)
  else
    resume
    return .collectionEnd

def blockKey : Parse Event := do
  if ← skipIf .key then nodeUnless [.key, .value, .blockEnd] .blockValue (node true true)
  else if ← meets [.blockEnd] then endCollection
  else throw .parsing

def blockValue : Parse Event := do
  if ← skipIf .value then nodeUnless [.key, .value, .blockEnd] .blockKey (node true true)
  else leaveOut .blockKey

/-- Takes the comma that entries but the first have before them. -/
def separated (isFirst : Bool) : Parse Unit := do
  if isFirst then return ()
  else if ← skipIf .flowEntry then return ()
  else throw .parsing

def flowEntry (isFirst : Bool) : Parse Event := do
  if ← meets [.flowListEnd] then endCollection
  else
    separated isFirst
    if ← skipIf .key then
      expect .pairKey
      return .mappingStart none none
    else if ← meets [.flowListEnd] then endCollection
    else
      wait (.flowEntry false)
      node false false

def pairKey : Parse Event :=
  nodeUnless [.value, .flowEntry, .flowListEnd] .pairValue (node false false)

def pairValue : Parse Event := do
  if ← skipIf .value then nodeUnless [.flowEntry, .flowListEnd] .pairEnd (node false false)
  else leaveOut .pairEnd

def flowKey (isFirst : Bool) : Parse Event := do
  if ← meets [.flowMappingEnd] then endCollection
  else
    separated isFirst
    if ← skipIf .key then
      nodeUnless [.value, .flowEntry, .flowMappingEnd] .flowValue (node false false)
    else if ← meets [.flowMappingEnd] then endCollection
    else
      wait .noValue
      node false false

def flowValue : Parse Event := do
  if ← skipIf .value then
    nodeUnless [.flowEntry, .flowMappingEnd] (.flowKey false) (node false false)
  else leaveOut (.flowKey false)

def event : Parse Event := do
  match (← get).expected with
  | .firstDocument => firstDocument
  | .document => document
  | .documentContent => documentContent
  | .documentEnd => do
    let _ ← skipIf .documentEnd
    expect .document
    return .documentEnd
  | .blockNode => node true false
  | .blockEntry => blockEntry
  | .bareEntry => bareEntry
  | .blockKey => blockKey
  | .blockValue => blockValue
  | .flowEntry isFirst => flowEntry isFirst
  | .pairKey => pairKey
  | .pairValue => pairValue
  | .pairEnd => do
    expect (.flowEntry false)
    let _ ← peek
    return .collectionEnd
  | .flowKey isFirst => flowKey isFirst
  | .flowValue => flowValue
  | .noValue => do
    let _ ← peek
    leaveOut (.flowKey false)
  | .nothing => throw .parsing

/-- Events up to the end of the stream or a fault. -/
def run : (fuel : Nat) → Parser → List Event × Option DocumentFault
  | 0, _ => ([], some .parsing)
  | fuel + 1, parser =>
    match event.run parser with
    | .error fault => ([], some fault)
    | .ok (.streamEnd, _) => ([.streamEnd], none)
    | .ok (found, next) =>
      let (events, fault) := run fuel next
      (found :: events, fault)

end Parser

/-- The events of a text that may break off, with the fault that ends them early, if
there is one. -/
def Event.ofText (text : List Char) (missing : Option DocumentFault) :
    List Event × Option DocumentFault :=
  let (tokens, fault) := Token.ofText text missing
  Parser.run (8 * tokens.length + 64) ⟨tokens, fault, .firstDocument, [], []⟩

end KeyEnvelope.Yaml
