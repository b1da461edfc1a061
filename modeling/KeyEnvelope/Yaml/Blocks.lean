import KeyEnvelope.Text.Utf8
import KeyEnvelope.Yaml.Cursor

/-!
# Blocks of documents

A document is decoded portion by portion, and its text is handed out and checked
block by block. So a fault in it, be it in the encoding or a character that is not
allowed, shows only when the block around it is asked for: what comes before that
block is the text of the document, and the fault is what that text breaks off with.
-/

namespace KeyEnvelope.Yaml

/-- The bytes of a document on their way into text. -/
structure Feed where
  bytes : Bytes
  /-- The bytes of a character that is not complete yet. -/
  begun : Bytes
  /-- Was a carriage return put off, until it is known what follows it? -/
  holdsReturn : Bool
  text : List Char
  /-- The sizes of the last portion in bytes and in characters. -/
  lastBytes : Nat
  lastChars : Nat

namespace Feed

def start (bytes : Bytes) : Feed :=
  ⟨bytes, [], false, [], 0, 0⟩

def blockSize : Nat := 4096

/-- The fewest bytes of a portion, unless the document ends. -/
def leastPortion : Nat := 8192

/-- The bytes that are taken for the sake of some characters, going by the last
portion. -/
def portion (feed : Feed) (wanted : Nat) : Nat :=
  if feed.lastBytes ≤ feed.lastChars then max leastPortion wanted
  else if feed.lastChars = 0 then max leastPortion wanted
  else max leastPortion (feed.lastBytes * wanted / feed.lastChars)

/-- Line ends of all kinds become line feeds. -/
def normalizeBreaks : List Char → List Char → List Char
  | found, '\r' :: '\n' :: rest => normalizeBreaks ('\n' :: found) rest
  | found, '\r' :: rest => normalizeBreaks ('\n' :: found) rest
  | found, c :: rest => normalizeBreaks (c :: found) rest
  | found, [] => found.reverse

/-- Adds decoded characters to the text; a carriage return at their end is put off
unless they are the last. -/
def addText (feed : Feed) (decoded : List Char) (isLast : Bool) : Feed :=
  let comes := feed.holdsReturn && (isLast || !decoded.isEmpty)
  let whole := if comes then '\r' :: decoded else decoded
  let puts := !isLast && whole.getLast? = some '\r'
  let added := normalizeBreaks [] (if puts then whole.dropLast else whole)
  { feed with
    text := feed.text ++ added
    holdsReturn := puts || (feed.holdsReturn && !comes)
    lastChars := added.length }

/-- Decodes one more portion. At the end of the bytes no character may be left
incomplete. -/
def decodePortion (feed : Feed) (wanted : Nat) : Scan Feed :=
  let size := feed.portion wanted
  let taken := feed.bytes.take size
  match Text.Utf8.split? (feed.begun ++ taken) with
  | none => .error .notUtf8
  | some (decoded, begun) =>
    if taken.isEmpty && !begun.isEmpty then .error .notUtf8
    else
      let rest := { feed with bytes := feed.bytes.drop size, begun, lastBytes := taken.length }
      .ok (rest.addText decoded taken.isEmpty)

/-- Decodes portions until there are so many characters, or the document ends. -/
def fillTo (count : Nat) : (fuel : Nat) → Feed → Scan Feed
  | 0, feed => .ok feed
  | fuel + 1, feed =>
    if count ≤ feed.text.length then .ok feed
    else do
      let more ← feed.decodePortion (count - feed.text.length)
      if feed.bytes.isEmpty ∧ more.lastChars = 0 then return more else fillTo count fuel more

def nextBlock (feed : Feed) : Scan (List Char × Feed) := do
  let filled ← fillTo blockSize (feed.bytes.length + 3) feed
  return (filled.text.take blockSize, { filled with text := filled.text.drop blockSize })

def isAllowed (c : Char) : Bool :=
  let code := c.toNat
  code = 0x9 || code = 0xa || code = 0xd || (0x20 ≤ code && code ≤ 0x7e) || code = 0x85
    || (0xa0 ≤ code && code ≤ 0xfffd) || 0x10000 ≤ code

/-- The text up to the first block that has a fault, and the fault; `before` was
read already and is not checked yet. -/
def textAfter : (fuel : Nat) → (before : List Char) → Feed → List Char × Option DocumentFault
  | 0, _, _ => ([], none)
  | fuel + 1, before, feed =>
    match feed.nextBlock with
    | .error fault => ([], some fault)
    | .ok (block, rest) =>
      if !(before.all isAllowed && block.all isAllowed) then ([], some .forbiddenCharacter)
      else if block.isEmpty then (before, none)
      else
        let (text, fault) := textAfter fuel [] rest
        (before ++ block ++ text, fault)

end Feed

/-- The text of a document and what it breaks off with. The first two blocks are
checked together. -/
def textOf (bytes : Bytes) : List Char × Option DocumentFault :=
  match (Feed.start bytes).nextBlock with
  | .error fault => ([], some fault)
  | .ok (block, rest) => Feed.textAfter (bytes.length + 2) block rest

end KeyEnvelope.Yaml
