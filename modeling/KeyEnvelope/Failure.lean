import KeyEnvelope.KeyWrap.Suite
import KeyEnvelope.Text.Quoted

/-!
# Failures

A failure is a cause. What it says to the user is computed from the cause by
`Failure.message`. Failures of the operating system are told apart by kind; those
that the system itself reports have a symbolic code, others a text.
-/

namespace KeyEnvelope

inductive ErrorCode where
  | noEntry
  | alreadyExists
  | notDirectory
  | isDirectory
  | nameTooLong
deriving DecidableEq

inductive SystemErrorKind where
  | fileExists
  | fileNotFound
  | permission
  | isDirectory
  | notDirectory
  | timeout
  | other
deriving DecidableEq

namespace ErrorCode

def symbol : ErrorCode → String
  | noEntry => "ENOENT"
  | alreadyExists => "EEXIST"
  | notDirectory => "ENOTDIR"
  | isDirectory => "EISDIR"
  | nameTooLong => "ENAMETOOLONG"

def kind : ErrorCode → SystemErrorKind
  | noEntry => .fileNotFound
  | alreadyExists => .fileExists
  | notDirectory => .notDirectory
  | isDirectory => .isDirectory
  | nameTooLong => .other

end ErrorCode

/-- An operating-system error: one with a code, or one with a text and perhaps an
earlier error behind it. -/
inductive SystemError where
  | coded (code : ErrorCode)
  | described (kind : SystemErrorKind) (text : Text) (cause : Option SystemErrorKind)
deriving DecidableEq

namespace SystemError

def kind : SystemError → SystemErrorKind
  | coded code => code.kind
  | described kind _ _ => kind

def text : SystemError → Text
  | coded code => code.symbol
  | described _ text _ => text

end SystemError

inductive LoadIssue where
  | moduleMissing (moduleName : Text)
  | notPackage (moduleName container : Text)
  | nameMissing (moduleName name : Text)
  /-- A thing of some kind lacks what is asked of it. -/
  | attributeMissing (kind name : String)
deriving DecidableEq

inductive DocumentMismatch where
  | notMapping
  | optionsNotMapping
  | levelNotText
  | levelNotUtf8
  | badText
deriving DecidableEq

inductive ConfigurationIssue where
  | blankSuite
  | unsupportedSuite (descriptor : Text)
  | blankAlgorithm
  | kekBits (suite : KeyWrap.Suite) (bits : Int)
  | notInteger (key text : Text)
  | emptyKeyLocation
  | noPlaintextKey
  | noEncryptedKey
  | keyBits (bits : Int)
  | unsupportedProvider (provider : Text)
  | unsupportedGenerator (generator : Text)
  | pathTraversal (path : Text)
  | remoteUri (uri : Text)
  | unsupportedScheme (uri : Text)
  | blankStrategy
  | unknownStrategy (name : Text)
  | strategyNotLoaded (name : Text) (issue : LoadIssue)
  | notStrategy (name : Text)
  | invalidDocument (mismatches : List (List String × DocumentMismatch))
deriving DecidableEq

/-- What is wrong with a stored record, or with the store under it. -/
inductive StorageIssue where
  | system (error : SystemError)
  | truncatedHeader
  | badLength (length : Int)
  | truncated (expected found : Nat)
deriving DecidableEq

inductive WrapIssue where
  | empty
  | refused (suite algorithm : Text) (refusal : KeyWrap.Refusal)
deriving DecidableEq

inductive DocumentFault where
  | forbiddenCharacter
  | scanning
  | parsing
  | composing
  | constructing
  | notUtf8
  | badNumber (text : String)
  | emptyNumber
  | badTruth (word : Text)
  | badTime
  | timeOfMapping
  | outOfRange (text : String)
  | beyondCodes
  | weightOutOfRange
  | tooDeep
deriving DecidableEq

inductive Failure where
  | configuration (issue : ConfigurationIssue)
  | kekMissing (path : Text) (cause : Option SystemError)
  | kekNotCreated (path : Text) (cause : SystemError)
  | storage (path : Text) (issue : StorageIssue)
  | wrap (issue : WrapIssue)
  | unwrap (issue : WrapIssue)
  | system (error : SystemError)
  | document (fault : DocumentFault)
  | plugin (issue : LoadIssue)
  | badValue (text : String)
  | badType (text : String)
  | tooLarge (text : String)
  | badFormat (text : String)
  /-- A name that the system has no bytes for. -/
  | notEncodable
  | interrupted (text : String)
  | unknownName (name : Text)
deriving DecidableEq

inductive PathFailureKind where
  | kekMissing
  | kekNotCreated
  | storage
deriving DecidableEq

namespace PathFailureKind

def defaultMessage (path : Text) : PathFailureKind → String
  | kekMissing => s!"Could not find key encryption key in configured location ({path})"
  | kekNotCreated => s!"Could not create key encryption key at {path}"
  | storage => s!"Storage failure for {path}"

def messageOr (kind : PathFailureKind) (path : Text) : Option String → String
  | none | some "" => kind.defaultMessage path
  | some message => message

/-- What is wrong with so many arguments, which should be a path and perhaps a
message. -/
def argumentFault? (className : String) (count : Nat) : Option Failure :=
  let given := count + 1
  if count = 0 then
    some (.badType s!"{className}.__init__() missing 1 required positional argument: 'path'")
  else if 2 < count then
    some (.badType
      s!"{className}.__init__() takes from 2 to 3 positional arguments but {given} were given")
  else none

end PathFailureKind

/-- The message of a failure that is made from plain arguments: none, one, or
several in brackets. -/
def argumentMessage : List (Option Text) → String
  | [] => ""
  | [text] => toString (text.getD "None")
  | texts => "(" ++ ", ".intercalate (texts.map Text.quotedOrNone) ++ ")"

namespace LoadIssue

def message : LoadIssue → String
  | moduleMissing moduleName => "No module named " ++ Text.quoted moduleName
  | notPackage moduleName container =>
    s!"No module named {Text.quoted moduleName}; {Text.quoted container} is not a package"
  | nameMissing moduleName name => s!"module '{moduleName}' has no attribute '{name}'"
  | attributeMissing kind name => s!"'{kind}' object has no attribute '{name}'"

end LoadIssue

namespace ConfigurationIssue

/-- Lengths of key encryption keys in bits, separated by commas. -/
def bitList (suite : KeyWrap.Suite) : String :=
  ", ".intercalate (suite.sortedKekLengths.map fun length => toString (length * 8))

def message : ConfigurationIssue → String
  | blankSuite => "Cipher suite must be non-empty"
  | unsupportedSuite descriptor => s!"Unsupported key wrap cipher suite: {descriptor}"
  | blankAlgorithm => "Algorithm name must be non-empty"
  | kekBits suite bits =>
    s!"{suite.name} needs a key encryption key of {bitList suite} bits, got {bits}"
  | notInteger key text => s!"Option {key} must be an integer, got " ++ Text.quoted text
  | emptyKeyLocation => "Key encryption key location must be non-empty"
  | noPlaintextKey => "No plaintext key to encrypt"
  | noEncryptedKey => "No encrypted key to decrypt"
  | keyBits bits => s!"Key length must be a positive multiple of 8 bits, got {bits}"
  | unsupportedProvider provider => s!"Unsupported random number generator provider: {provider}"
  | unsupportedGenerator generator => s!"Unsupported random number generator: {generator}"
  | pathTraversal path => s!"Path traversal is not allowed: {path}"
  | remoteUri uri => s!"Remote file URIs are not supported: {uri}"
  | unsupportedScheme uri => s!"Unsupported storage URI scheme: {uri}"
  | blankStrategy => "Strategy name must be non-empty"
  | unknownStrategy name => s!"Unknown secret key encryption strategy: {name}"
  | strategyNotLoaded name _ => s!"Could not load secret key encryption strategy {name}"
  | notStrategy name => s!"{name} is not a SecretKeyEncryptionStrategy"
  | invalidDocument _ => "Invalid configuration"

end ConfigurationIssue

namespace StorageIssue

/-- What is said instead of the default message, if anything. -/
def message? (path : Text) : StorageIssue → Option String
  | system _ => none
  | truncatedHeader => some s!"Truncated key record header at {path}"
  | badLength length => some s!"Invalid key record length {length} at {path}"
  | truncated expected found =>
    some s!"Truncated key record at {path}: expected {expected} bytes, found {found}"

end StorageIssue

namespace DocumentFault

/-- Faults of the document's form have no text of their own. -/
def message : DocumentFault → String
  | badNumber text | outOfRange text => text
  | badTruth word => word.quoted
  | emptyNumber => "string index out of range"
  | badTime => "'NoneType' object has no attribute 'groupdict'"
  | timeOfMapping => "expected string or bytes-like object, got 'list'"
  | beyondCodes => "Python int too large to convert to C int"
  | weightOutOfRange => "int too large to convert to float"
  | tooDeep => "maximum recursion depth exceeded"
  | forbiddenCharacter | scanning | parsing | composing | constructing | notUtf8 => ""

end DocumentFault

namespace Failure

def message : Failure → String
  | configuration issue => issue.message
  | kekMissing path _ => PathFailureKind.kekMissing.defaultMessage path
  | kekNotCreated path _ => PathFailureKind.kekNotCreated.defaultMessage path
  | storage path issue => PathFailureKind.storage.messageOr path (issue.message? path)
  | wrap .empty => "Plaintext key must be non-empty"
  | wrap (.refused suite algorithm refusal) =>
    s!"{suite} wrap failed for {algorithm} key: {refusal.message}"
  | unwrap .empty => "Wrapped key must be non-empty"
  | unwrap (.refused suite algorithm _) => s!"{suite} unwrap failed for {algorithm} key"
  | system error => toString error.text
  | document fault => fault.message
  | plugin issue => issue.message
  | badValue text | badType text | tooLarge text | badFormat text | interrupted text => text
  | notEncodable => ""
  | unknownName name => Text.quoted name

def path? : Failure → Option Text
  | kekMissing path _ | kekNotCreated path _ | storage path _ => some path
  | _ => none

end Failure

end KeyEnvelope
