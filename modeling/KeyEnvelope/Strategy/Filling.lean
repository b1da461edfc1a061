import KeyEnvelope.Strategy

/-!
# Filling in parameters

Parameters belong to a caller, and a strategy fills them in: one field after the other,
each as soon as its value is known. What has been set stays set, also if a later step
fails.
-/

namespace KeyEnvelope

/-- An operation in the course of which the fields of parameters are set. -/
abbrev Filling (Draft : Type) (α : Type) : Type :=
  ExceptT Failure (StateT Parameters (Procedure (Surroundings.interface Draft))) α

namespace Filling

variable {Draft α : Type}

def ofOperation (operation : Operation Draft α) : Filling Draft α :=
  ExceptT.mk (StateT.lift operation.run)

def set (change : Parameters → Parameters) : Filling Draft Unit :=
  ExceptT.lift (modify change)

/-- What a filling asks for when it starts from parameters, up to its result and the
parameters that it leaves behind. -/
def start (filling : Filling Draft α) (parameters : Parameters) :
    Procedure (Surroundings.interface Draft) (Except Failure α × Parameters) :=
  filling.run.run parameters

end Filling

namespace Strategy

variable {Draft : Type}

def wrapInto (registry : KeyWrap.Registry) : Filling Draft Unit := do
  let parameters ← get
  let plan ← Filling.ofOperation (Operation.ofExcept (plan registry parameters))
  let _ ← Filling.ofOperation
    (KeyStore.ensure plan.generator plan.replication plan.path parameters.keyLength)
  let kek ← Filling.ofOperation (KeyStore.load plan.path)
  let wrapped ← Filling.ofOperation (settle
    (registry.wrap (algorithmName parameters) (suiteName parameters) kek plan.key))
  Filling.set fun parameters => { parameters with encryptedKey := some wrapped }
  Filling.set fun parameters => { parameters with kekId := some plan.path }

def unwrapInto (registry : KeyWrap.Registry) : Filling Draft Unit := do
  let parameters ← get
  let path ← Filling.ofOperation (Operation.ofExcept (keyPath parameters))
  let some wrapped := parameters.encryptedKey | throw (.configuration .noEncryptedKey)
  let _ ← Filling.ofOperation
    (Operation.ofExcept (Setting.replication.resolveInt parameters.options))
  if ← Filling.ofOperation (KeyStore.contains path) then
    let kek ← Filling.ofOperation (KeyStore.load path)
    let key ← Filling.ofOperation (settle
      (registry.unwrap (algorithmName parameters) (suiteName parameters) kek wrapped))
    Filling.set fun parameters => { parameters with plaintextKey := some key }
  else
    Filling.ofOperation (Operation.note (missingEvent path))
    throw (.kekMissing path none)

def encryptInto : Strategy → Filling Draft Unit
  | enveloping registry => wrapInto registry
  | passing => Filling.set fun parameters =>
    { parameters with encryptedKey := parameters.plaintextKey }

def decryptInto : Strategy → Filling Draft Unit
  | enveloping registry => unwrapInto registry
  | passing => Filling.set fun parameters =>
    { parameters with plaintextKey := parameters.encryptedKey }

end Strategy

end KeyEnvelope
