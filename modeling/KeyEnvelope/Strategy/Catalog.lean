import KeyEnvelope.Storage.Location
import KeyEnvelope.Strategy

/-!
# Catalogue of strategies

Strategies are found by the name under which a factory is registered, without regard
to case, or loaded from a module by a name of the form `module:Class`. A plugin is
given the store if its constructor accepts one.
-/

namespace KeyEnvelope

namespace Strategy

/-- A strategy that was built, with the name of its class and what it tells about
how it was built. -/
structure Product where
  className : String
  record : Option String
  strategy : Strategy
  keepsStore : Bool

namespace Product

def enveloping : Product :=
  ⟨"DefaultSecretKeyEncryptionStrategy", none, .enveloping KeyWrap.Registry.builtIn, true⟩

def passing : Product :=
  ⟨"NullSecretKeyEncryptionStrategy", none, .passing, false⟩

end Product

/-- A class of strategies in a module. -/
structure Plugin where
  name : Text
  acceptsStore : Bool
  /-- Methods that the class leaves open; it cannot be used unless there are none. -/
  openMethods : List String
  /-- Builds a strategy, or says why it does not. -/
  build : Option Storage.Location → Except String Product

namespace Plugin

def construct (plugin : Plugin) (store : Storage.Location) : Except Failure Product :=
  if plugin.openMethods ≠ [] then
    let methods := ", ".intercalate plugin.openMethods
    .error (.badType
      s!"Can't instantiate abstract class {plugin.name} with abstract methods {methods}")
  else
    match plugin.build (if plugin.acceptsStore then some store else none) with
    | .ok product => .ok product
    | .error text => .error (.badType text)

def openMethodNames : List String :=
  ["decrypt_secret_key", "encrypt_secret_key"]

def enveloping : Plugin :=
  ⟨"DefaultSecretKeyEncryptionStrategy", true, [], fun _ => .ok .enveloping⟩

def passing : Plugin :=
  ⟨"NullSecretKeyEncryptionStrategy", false, [], fun _ => .ok .passing⟩

def general : Plugin :=
  ⟨"SecretKeyEncryptionStrategy", false, openMethodNames, fun _ => .ok .passing⟩

end Plugin

/-- What a name in a module stands for: a strategy, something else that has a name,
or a thing of some kind. -/
inductive Member where
  | plugin (plugin : Plugin)
  | other (name : Text)
  | nameless (kind : String)

namespace Member

def name : Member → Except LoadIssue Text
  | plugin p => .ok p.name
  | other name => .ok name
  | nameless kind => .error (.attributeMissing kind "__name__")

end Member

structure PluginModule where
  name : Text
  isPackage : Bool
  members : List (Text × Member)

namespace PluginModule

def strategies : List (Text × Member) :=
  [Plugin.enveloping, Plugin.passing, Plugin.general].map fun plugin =>
    (plugin.name, .plugin plugin)

/-- The modules that the strategies of the library are loaded from. -/
def builtIn : List PluginModule :=
  [⟨"key_guardian.services.strategy", false, strategies⟩,
    ⟨"key_guardian.services", true, strategies⟩, ⟨"key_guardian", true, strategies⟩]

/-- The names of a module and of the packages around it, outermost first. -/
def ancestry (moduleName : Text) : List Text :=
  let parts := moduleName.splitOn '.'
  (List.range parts.length).map fun count => Text.intercalate "." (parts.take (count + 1))

end PluginModule

/-- What there is to import. A failure of kind `plugin` is one of the import itself: something is
missing. Whatever else goes wrong when code is run is passed on as it is. -/
structure Imports where
  modules : List PluginModule
  /-- Why a module does not run to its end, if it does not. -/
  interruption : Text → Option Failure
  /-- What a module makes of a name by code of its own, if it has any for it. -/
  computed : (moduleName name : Text) → Option (Except Failure Member)

namespace Imports

def builtIn : Imports :=
  ⟨PluginModule.builtIn, fun _ => none, fun _ _ => none⟩

/-- Finds modules one inside the other; each but the last has to be a package. A module is run
before what is inside it is looked for. -/
def findWithin (imports : Imports) (container : Option PluginModule) :
    List Text → Except Failure (Option PluginModule)
  | [] => .ok container
  | name :: rest =>
    match container with
    | some ⟨outer, false, _⟩ => .error (.plugin (.notPackage name outer))
    | _ =>
      match imports.modules.find? fun candidate => candidate.name = name with
      | none => .error (.plugin (.moduleMissing name))
      | some found =>
        match imports.interruption name with
        | some failure => .error failure
        | none => imports.findWithin (some found) rest

def loadFrom (imports : Imports) (moduleName name : Text) : Except Failure Member := do
  match ← imports.findWithin none (PluginModule.ancestry moduleName) with
  | none => throw (.plugin (.moduleMissing moduleName))
  | some found =>
    match imports.computed moduleName name, Assoc.get? name found.members with
    | some outcome, _ => outcome
    | none, some member => return member
    | none, none => throw (.plugin (.nameMissing moduleName name))

def nameFault? (moduleName : Text) : Option Failure :=
  if moduleName = "" then some (.badValue "Empty module name")
  else if moduleName.startsWith "." then
    some (.badType
      ("the 'package' argument is required to perform a relative import for " ++
        Text.quoted moduleName))
  else none

def load (imports : Imports) (moduleName name : Text) : Except Failure Member :=
  match nameFault? moduleName with
  | some failure => .error failure
  | none => imports.loadFrom moduleName name

end Imports

abbrev Factory := Storage.Location → Product

structure Catalog extends Imports where
  factories : List (Text × Factory)

namespace Catalog

def builtIn : Catalog :=
  ⟨.builtIn, [("default", fun _ => .enveloping), ("null", fun _ => .passing)]⟩

def register (catalog : Catalog) (name : Text) (factory : Factory) : Catalog :=
  { catalog with factories := Assoc.set (Text.lower name) factory catalog.factories }

/-- The name that a member of a module has of its own. -/
def nameOf (catalog : Catalog) (moduleName name : Text) : Except Failure Text := do
  (← catalog.load moduleName name).name.mapError .plugin

/-- Splits a name at its first colon; `none` if there is nothing behind one. -/
def splitName? (name : Text) : Option (Text × Text) :=
  match name.codes.span (· ≠ .char ':') with
  | (moduleName, _ :: first :: rest) => some (⟨moduleName⟩, ⟨first :: rest⟩)
  | _ => none

def loadPlugin (catalog : Catalog) (name : Text) : Except Failure Plugin :=
  match splitName? name with
  | none => .error (.configuration (.unknownStrategy name))
  | some (moduleName, className) =>
    match catalog.load moduleName className with
    | .error (.plugin issue) => .error (.configuration (.strategyNotLoaded name issue))
    | .error failure => .error failure
    | .ok (.plugin plugin) => .ok plugin
    | .ok (.other _) | .ok (.nameless _) => .error (.configuration (.notStrategy name))

/-- The name that is given, or else the one in the options. -/
def chosenName (name : Option Text) (options : Options) : Text :=
  ((Text.given? name).getD (Setting.strategy.resolve options)).trim

/-- The strategy for a name with the store it works on, which the options locate
unless one is given. -/
def resolve (catalog : Catalog) (directories : UserDirectories) (name : Option Text)
    (store : Option Storage.Location) (options : Options) :
    Except Failure (Product × Storage.Location) := do
  let chosen := chosenName name options
  if chosen = "" then throw (.configuration .blankStrategy)
  let store ←
    match store with
    | some given => pure given
    | none => Storage.Location.ofUri directories (some (Setting.storeUri.resolve options))
  match Assoc.get? (Text.lower chosen) catalog.factories with
  | some factory => return (factory store, store)
  | none =>
    let plugin ← catalog.loadPlugin chosen
    let product ← plugin.construct store
    return (product, store)

end Catalog

end Strategy

end KeyEnvelope
