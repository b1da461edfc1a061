import KeyEnvelope.Proofs.KeyRecord
import KeyEnvelope.Proofs.KeyStore.Reading
import KeyEnvelope.Storage.Memory

/-!
# What is published

What a procedure publishes in memory can be told from its requests and their
answers. Making sure of a key publishes one record at most, which holds the key that
was drawn, and reports having created it exactly if it published one.
-/

namespace KeyEnvelope

namespace Storage.Memory

variable {source : Randomness.Source} {wanted : Draft → Prop} {drafts : List Draft}

/-- An answer that is no failure is one that memory and the random source can give. -/
def Fits (source : Randomness.Source) :
    (request : Surroundings.Request Draft) → Surroundings.Answer request → Prop
  | .storage (.create path replication), .ok draft => draft = ⟨path, replication, []⟩
  | .storage (.write draft chunk), .ok written =>
    written = { draft with content := draft.content ++ chunk }
  | .draw generator count, .ok key => source generator count = .ok key
  | _, _ => True

/-- The draft that a request published, if it published one. -/
def publishedBy : (request : Surroundings.Request Draft) → Surroundings.Answer request → List Draft
  | .storage (.publish draft), .ok () => [draft]
  | _, _ => []

def published (history : List (Exchange (Surroundings.interface Draft))) : List Draft :=
  history.flatMap fun exchange => publishedBy exchange.1 exchange.2

/-- Collects the drafts that are published. Only wanted ones may be. -/
def tally (source : Randomness.Source) (wanted : Draft → Prop) :
    Contract (Surroundings.interface Draft) (List Draft) where
  permits
    | .storage (.publish draft) => wanted draft
    | _ => True
  serves request drafts answer next := Fits source request answer ∧
    next = drafts ++ publishedBy request answer

theorem eq_append_published {final : List Draft}
    {history : List (Exchange (Surroundings.interface Draft))}
    (follows : (tally source wanted).Follows drafts history final) :
    final = drafts ++ published history := by
  induction follows with
  | nil => simp [published]
  | cons served _ inductionHypothesis => simp [inductionHypothesis, served.2, published]

theorem published_append (first second : List (Exchange (Surroundings.interface Draft))) :
    published (first ++ second) = published first ++ published second := by
  simp [published]

theorem wanted_of_published {history : List (Exchange (Surroundings.interface Draft))}
    (permitted : ∀ exchange ∈ history, (tally source wanted).permits exchange.1) {draft : Draft}
    (publishes : draft ∈ published history) : wanted draft := by
  obtain ⟨⟨request, answer⟩, among, publishes⟩ := List.mem_flatMap.mp publishes
  have wants := permitted _ among
  rcases request with request | _ | _
  · cases request with
    | publish other =>
      cases answer with
      | error failure => cases publishes
      | ok _ =>
        obtain rfl := List.mem_singleton.mp publishes
        exact wants
    | _ => cases publishes
  · cases publishes
  · cases publishes

theorem publishedBy_of_isReading {request : Surroundings.Request Draft}
    (answer : Surroundings.Answer request)
    (reading : request.IsReading) : publishedBy request answer = [] := by
  rcases request with ⟨_ | _⟩ | _ | _
  all_goals first | rfl | exact reading.elim

theorem published_of_isReading {history : List (Exchange (Surroundings.interface Draft))}
    (reading : ∀ exchange ∈ history, exchange.1.IsReading) : published history = [] :=
  List.flatMap_eq_nil_iff.mpr fun exchange among =>
    publishedBy_of_isReading exchange.2 (reading exchange among)

theorem permits_of_isReading {request : Surroundings.Request Draft} (reading : request.IsReading) :
    (tally source wanted).permits request := by
  rcases request with ⟨_ | _⟩ | _ | _
  all_goals trivial

end Storage.Memory

open Storage Storage.Memory Operation

variable {source : Randomness.Source} {wanted : Memory.Draft → Prop}
  {drafts : List Memory.Draft} {α : Type}

theorem Operation.OnlyReads.publishes_nothing {operation : Operation Memory.Draft α}
    (onlyReads : operation.OnlyReads) :
    operation.Meets (tally source wanted) (fun _ next => next = drafts) drafts := by
  refine OnlyReads.meets onlyReads (fun request => permits_of_isReading)
    (fun request state answer next reading served kept => ?_) rfl
  rw [served.2, publishedBy_of_isReading answer reading, List.append_nil, kept]

namespace KeyStore

theorem writeRecord_publishes (draft : Memory.Draft) (key : Bytes) :
    (writeRecord draft key).Meets (tally source wanted) (fun result next => next = drafts ∧
      ∀ written, result = .ok written → key.length < 2147483648 ∧
        written = { draft with content := draft.content ++ KeyRecord.encode key }) drafts := by
  simp only [writeRecord, meets_bind, meets_ofExcept, meets_write]
  cases checked : KeyRecord.checkLength key with
  | error failure => simp
  | ok _ =>
    have fitting := KeyRecord.checkLength_eq_ok_iff.mp checked
    refine ⟨trivial, ?_⟩
    intro answer next served
    obtain ⟨fits, rfl⟩ := served
    cases answer with
    | error failure => simp [publishedBy]
    | ok started =>
      obtain rfl : started = { draft with content := draft.content ++ KeyRecord.header key } := fits
      refine ⟨trivial, ?_⟩
      intro answer next served
      obtain ⟨fits, rfl⟩ := served
      refine ⟨by simp [publishedBy], ?_⟩
      rintro written rfl
      exact ⟨fitting, fits.trans (by simp [KeyRecord.encode])⟩

theorem createRecord_publishes {path : Text} {replication : Int} {key : Bytes}
    (wants : key.length < 2147483648 → wanted ⟨path, some replication, KeyRecord.encode key⟩) :
    (createRecord path replication key).Meets (tally source wanted) (fun result next =>
      (result = .ok () ∧ key.length < 2147483648 ∧
        next = drafts ++ [⟨path, some replication, KeyRecord.encode key⟩]) ∨
      result ≠ .ok () ∧ next = drafts) drafts := by
  apply meets_bind.mpr
  refine meets_create.mpr ⟨trivial, ?_⟩
  intro answer next served
  obtain ⟨fits, unchanged⟩ := served
  obtain rfl : next = drafts := unchanged.trans (List.append_nil _)
  cases answer with
  | error failure => exact .inr ⟨by simp, rfl⟩
  | ok draft =>
    obtain rfl : draft = ⟨path, some replication, []⟩ := fits
    apply meets_andThen.mpr
    apply (writeRecord_publishes _ key).mono
    intro result next written
    obtain ⟨rfl, written⟩ := written
    cases result with
    | error failure =>
      refine meets_bind.mpr ⟨trivial, fun answer next served => .inr ⟨by simp, ?_⟩⟩
      exact served.2.trans (List.append_nil _)
    | ok record =>
      obtain ⟨fitting, rfl⟩ := written record rfl
      refine ⟨wants fitting, ?_⟩
      intro answer next served
      obtain ⟨-, rfl⟩ := served
      cases answer with
      | error failure => exact .inr ⟨by simp, List.append_nil _⟩
      | ok _ => exact .inl ⟨rfl, fitting, rfl⟩

theorem afterCreation_publishes (path : Text) (bits replication : Int)
    (result : Except Failure Unit) :
    (afterCreation path bits replication result).Meets (tally source wanted)
      (fun outcome next => (outcome = .ok true ↔ result = .ok ()) ∧ next = drafts) drafts := by
  have noted (event : Log.Event) {next : List Memory.Draft}
      (served : (tally source wanted).serves (.note event) drafts () next) : next = drafts :=
    served.2.trans (List.append_nil _)
  unfold afterCreation
  split
  · exact meets_bind.mpr ⟨trivial, fun _ next served => ⟨by simp, noted _ served⟩⟩
  · split
    · exact meets_bind.mpr ⟨trivial, fun _ next served => ⟨by simp, noted _ served⟩⟩
    · exact meets_bind.mpr ⟨trivial, fun _ next served => ⟨by simp, noted _ served⟩⟩
  · exact ⟨by simp, rfl⟩

end KeyStore

/-- A key encryption key that there is to be. -/
structure Provision where
  generator : Randomness.Generator
  replication : Int
  path : Text
  bits : Int

def Strategy.Plan.provision (plan : Strategy.Plan) (parameters : Parameters) : Provision :=
  ⟨plan.generator, plan.replication, plan.path, parameters.keyLength⟩

def Provision.ensure {Draft : Type} (provision : Provision) : Operation Draft Bool :=
  KeyStore.ensure provision.generator provision.replication provision.path provision.bits

namespace Strategy

variable {Draft : Type} {registry : KeyWrap.Registry} {parameters : Parameters}

theorem wrap_of_plan {plan : Plan} (planned : Strategy.plan registry parameters = .ok plan) :
    (wrap registry parameters : Operation Draft Parameters) =
      (plan.provision parameters).ensure >>= fun _ => wrapPlanned registry parameters plan := by
  rw [wrap, planned]
  rfl

theorem wrap_of_plan_eq_error {failure : Failure}
    (fails : Strategy.plan registry parameters = .error failure) :
    (wrap registry parameters : Operation Draft Parameters) = throw failure := by
  rw [wrap, fails]
  rfl

end Strategy

namespace Provision

def draft (provision : Provision) (key : Bytes) : Memory.Draft :=
  ⟨provision.path, some provision.replication, KeyRecord.encode key⟩

/-- The key is one that a source gives for the provision, and a record has room for
its length. -/
structure Draws (provision : Provision) (source : Randomness.Source) (key : Bytes) : Prop where
  drawn : source provision.generator (provision.bits / 8).toNat = .ok key
  fitting : key.length < 2147483648

/-- Making sure of a key publishes its record, with a key that was drawn, or
nothing. -/
theorem ensure_publishes {provision : Provision}
    (wants : ∀ key, provision.Draws source key → wanted (provision.draft key)) :
    provision.ensure.Meets (tally source wanted) (fun result next =>
      (∃ key, result = .ok true ∧ provision.Draws source key ∧
        next = drafts ++ [provision.draft key]) ∨
      result ≠ .ok true ∧ next = drafts) drafts := by
  unfold ensure KeyStore.ensure
  split
  · exact .inr ⟨by simp, rfl⟩
  · apply meets_bind.mpr
    apply (KeyStore.contains_onlyReads _).publishes_nothing.mono
    intro found next unchanged
    obtain rfl := unchanged
    cases found with
    | error failure => exact .inr ⟨by simp, rfl⟩
    | ok found =>
      cases found with
      | true => exact .inr ⟨by simp, rfl⟩
      | false =>
        apply meets_bind.mpr
        refine meets_draw.mpr ⟨trivial, ?_⟩
        intro drawn next served
        obtain ⟨fits, unchanged⟩ := served
        obtain rfl := unchanged.trans (List.append_nil _)
        cases drawn with
        | error failure => exact .inr ⟨by simp, rfl⟩
        | ok key =>
          apply meets_andThen.mpr
          apply (KeyStore.createRecord_publishes fun fitting => wants key ⟨fits, fitting⟩).mono
          intro result created published
          apply (KeyStore.afterCreation_publishes _ _ _ result).mono
          intro outcome next reported
          obtain ⟨reports, rfl⟩ := reported
          rcases published with ⟨succeeds, fitting, rfl⟩ | ⟨fails, rfl⟩
          · exact .inl ⟨key, reports.mpr succeeds, ⟨fits, fitting⟩, rfl⟩
          · exact .inr ⟨fun reported => fails (reports.mp reported), rfl⟩

end Provision

end KeyEnvelope
