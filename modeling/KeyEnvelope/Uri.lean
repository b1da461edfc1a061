import KeyEnvelope.Bytes
import KeyEnvelope.Text.Case
import KeyEnvelope.Text.Utf8
import KeyEnvelope.Uri.Host

/-!
# URIs

A URI falls into scheme, authority and path; query and fragment are dropped. Before
that, control characters and spaces at its beginning and all tabs and line ends are
removed.
-/

namespace KeyEnvelope

structure Uri where
  scheme : Text
  authority : Text
  path : Text
deriving DecidableEq

namespace Uri

/-- Removes what does not count as part of a URI. -/
def cleaned (text : Text) : List Code :=
  (text.codes.dropWhile fun code => code.number ≤ 0x20).filter fun code =>
    code ∉ [.char '\t', .char '\r', .char '\n']

def isLetter (c : Char) : Bool :=
  ('a' ≤ c && c ≤ 'z') || ('A' ≤ c && c ≤ 'Z')

def isSchemeChar (c : Char) : Bool :=
  isLetter c || c.isDigit || c = '+' || c = '-' || c = '.'

def splitScheme (codes : List Code) : List Code × List Code :=
  match codes.span fun code => isSchemeChar code.shown with
  | (first :: name, .char ':' :: rest) =>
    if isLetter first.shown then (first :: name, rest) else ([], codes)
  | _ => ([], codes)

def splitAuthority : List Code → List Code × List Code
  | .char '/' :: .char '/' :: rest => rest.span fun code => code ∉ [.char '/', .char '?', .char '#']
  | codes => ([], codes)

/-- Characters whose compatible form holds a separator of authorities. -/
def lookalikes : List Nat :=
  [0x2047, 0x2048, 0x2049, 0x2100, 0x2101, 0x2105, 0x2106, 0x2a74, 0xfe13, 0xfe16, 0xfe55,
    0xfe56, 0xfe5f, 0xfe6b, 0xff03, 0xff0f, 0xff1a, 0xff1f, 0xff20]

/-- What follows the last at sign: a host, perhaps with a colon and a number. -/
def behindUser (authority : List Code) : List Code :=
  (authority.reverse.takeWhile (· ≠ .char '@')).reverse

/-- Checks an authority with brackets: they must be all around the host, with at
most a colon and a number behind. -/
def checkBracketed (authority : List Code) : Except Fault Unit :=
  match (behindUser authority).span (· ≠ .char '[') with
  | (host, []) => Host.check ⟨host.takeWhile (· ≠ .char ':')⟩
  | (_ :: _, _) => .error .brackets
  | ([], _ :: bracketed) =>
    let behind := (bracketed.dropWhile (· ≠ .char ']')).tail
    if behind.isEmpty ∨ behind.head? = some (.char ':') then
      Host.check ⟨bracketed.takeWhile (· ≠ .char ']')⟩
    else .error .brackets

def checkAuthority (authority : List Code) : Except Fault Unit := do
  match authority.contains (.char '['), authority.contains (.char ']') with
  | true, true => checkBracketed authority
  | false, false => pure ()
  | _, _ => throw .brackets
  if authority.any fun code => lookalikes.contains code.number then throw (.lookalikes ⟨authority⟩)

def read (text : Text) : Except Fault Uri := do
  let (scheme, rest) := splitScheme (cleaned text)
  let (authority, rest) := splitAuthority rest
  checkAuthority authority
  let path := (rest.takeWhile (· ≠ .char '#')).takeWhile (· ≠ .char '?')
  return ⟨Text.lower ⟨scheme⟩, ⟨authority⟩, ⟨path⟩⟩

/-- The bytes that ASCII characters stand for; a percent sign and two digits are one
byte. -/
def bytesOf : List Char → Bytes
  | '%' :: a :: b :: rest =>
    match Text.hexValue? a, Text.hexValue? b with
    | some x, some y => UInt8.ofNat (16 * x + y) :: bytesOf rest
    | _, _ => UInt8.ofNat '%'.toNat :: bytesOf (a :: b :: rest)
  | c :: rest => UInt8.ofNat c.toNat :: bytesOf rest
  | [] => []

/-- The text that a run of ASCII characters stands for; the last character comes
first. -/
def decodedRun (run : List Char) : List Code :=
  (Text.Utf8.decodeLossy (bytesOf run.reverse)).map .char

/-- Decodes the text, given the ASCII characters right before it, nearest first. -/
def decodeAfter : (run : List Char) → List Code → List Code
  | run, [] => decodedRun run
  | run, code :: rest =>
    if code.number < 0x80 then decodeAfter (code.shown :: run) rest
    else decodedRun run ++ code :: decodeAfter [] rest

def percentDecoded (text : Text) : Text :=
  ⟨decodeAfter [] text.codes⟩

end Uri

end KeyEnvelope
