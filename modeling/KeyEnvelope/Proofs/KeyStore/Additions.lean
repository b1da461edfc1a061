import KeyEnvelope.Proofs.Storage.Drafting
import KeyEnvelope.Proofs.WriteOnce

/-!
# What calls add to a store

Whatever befalls its requests, making sure of a key adds the record of a key that was drawn
for it, or nothing. So does every call, and what is found after any calls was there before
or is the record of a key that one of them drew.
-/

namespace KeyEnvelope

namespace Storage.Drafting

open Operation

variable {client : Client} (drafting : Drafting client)

section Disturbed

variable {disturbance : Option Disturbance} {before state next : client.State}
  {origin draft : client.Draft} {path : Text} {content : Bytes}

theorem created_disturbed {replication : Option Int} {answer : Except Failure client.Draft}
    (handled : client.handleDisturbed disturbance (.create path replication) before =
      (answer, next)) :
    (∀ draft, answer = .ok draft → drafting.Pending before draft draft path [] next) ∧
      ∀ failure, answer = .error failure → drafting.Settled before next := by
  rcases disturbance with _ | error | _
  case some.fault =>
    obtain ⟨rfl, rfl⟩ := Prod.mk.inj handled
    exact ⟨by simp, fun _ _ _ _ => id⟩
  all_goals
    obtain ⟨rfl, rfl⟩ := Prod.mk.inj handled
    exact ⟨fun _ => drafting.created, fun _ => drafting.notCreated⟩

theorem written_disturbed {chunk : Bytes} {answer : Except Failure client.Draft}
    (pending : drafting.Pending before origin draft path content state)
    (handled : client.handleDisturbed disturbance (.write draft chunk) state = (answer, next)) :
    (∀ written, answer = .ok written →
      drafting.Pending before origin written path (content ++ chunk) next) ∧
      ∀ failure, answer = .error failure →
        ∃ left, drafting.Pending before origin draft path left next := by
  rcases disturbance with _ | error | _
  case some.fault =>
    obtain ⟨rfl, rfl⟩ := Prod.mk.inj handled
    exact ⟨by simp, fun _ _ => ⟨content, pending⟩⟩
  all_goals
    obtain ⟨rfl, rfl⟩ := Prod.mk.inj handled
    exact ⟨fun _ => drafting.written pending, fun _ => drafting.notWritten pending⟩

theorem published_disturbed {answer : Except Failure Unit}
    (pending : drafting.Pending before origin draft path content state)
    (handled : client.handleDisturbed disturbance (.publish draft) state = (answer, next)) :
    (answer = .ok () ∧ drafting.Adds path content before next) ∨
      answer ≠ .ok () ∧ drafting.Settled before next := by
  rcases disturbance with _ | error | _
  case some.fault =>
    obtain ⟨rfl, rfl⟩ := Prod.mk.inj handled
    exact .inr ⟨by simp, drafting.discarded pending (.inr rfl)⟩
  all_goals
    obtain ⟨rfl, rfl⟩ := Prod.mk.inj handled
    cases answered : (client.serve (.publish draft) state).answer with
    | error failure => exact .inr ⟨by simp, drafting.notPublished pending answered⟩
    | ok _ => exact .inl ⟨rfl, drafting.published pending answered⟩

theorem discarded_disturbed {answer : Unit}
    (pending : drafting.Pending before origin draft path content state)
    (handled : client.handleDisturbed disturbance (.discard origin) state = (answer, next)) :
    drafting.Settled before next := by
  rcases disturbance with _ | error | _
  all_goals
    obtain ⟨-, rfl⟩ := Prod.mk.inj handled
    exact drafting.discarded pending (.inl rfl)

end Disturbed

variable {source : Randomness.Source} {before state : client.State} {path : Text}

theorem writeRecord_meets {draft : client.Draft}
    (pending : drafting.Pending before draft draft path [] state) (key : Bytes) :
    (KeyStore.writeRecord draft key).Meets (client.disturbed source) (fun result next =>
      (∀ written, result = .ok written → key.length < 2147483648 ∧
        drafting.Pending before draft written path (KeyRecord.encode key) next) ∧
      ∀ failure, result = .error failure →
        ∃ last left, drafting.Pending before draft last path left next) state := by
  simp only [KeyStore.writeRecord, meets_bind, meets_ofExcept, meets_write]
  cases checked : KeyRecord.checkLength key with
  | error failure => exact ⟨by simp, fun _ _ => ⟨draft, [], pending⟩⟩
  | ok _ =>
    have fitting := KeyRecord.checkLength_eq_ok_iff.mp checked
    refine ⟨trivial, ?_⟩
    rintro (failure | begun) next ⟨disturbance, handled⟩
    · obtain ⟨left, pendingStill⟩ := (drafting.written_disturbed pending handled).2 failure rfl
      exact ⟨by simp, fun _ _ => ⟨draft, left, pendingStill⟩⟩
    · have pendingBegun := (drafting.written_disturbed pending handled).1 begun rfl
      refine ⟨trivial, ?_⟩
      rintro answer next ⟨disturbance, handled⟩
      obtain ⟨written, notWritten⟩ := drafting.written_disturbed pendingBegun handled
      refine ⟨?_, fun failure fails => ⟨begun, notWritten failure fails⟩⟩
      intro last succeeds
      exact ⟨fitting, written last succeeds⟩

theorem createRecord_adds (replication : Int) (key : Bytes) :
    (KeyStore.createRecord path replication key).Meets (client.disturbed source)
      (fun result next =>
        (result = .ok () ∧ key.length < 2147483648 ∧
          drafting.Adds path (KeyRecord.encode key) before next) ∨
        result ≠ .ok () ∧ drafting.Settled before next) before := by
  apply meets_bind.mpr
  refine meets_create.mpr ⟨trivial, ?_⟩
  rintro (failure | draft) next ⟨disturbance, handled⟩
  · exact .inr ⟨by simp, (drafting.created_disturbed handled).2 failure rfl⟩
  · have pending := (drafting.created_disturbed handled).1 draft rfl
    apply meets_andThen.mpr
    apply (drafting.writeRecord_meets pending key).mono
    rintro (failure | written) state ⟨complete, incomplete⟩
    · obtain ⟨last, left, pendingStill⟩ := incomplete failure rfl
      refine meets_bind.mpr ⟨trivial, ?_⟩
      rintro answer next ⟨disturbance, handled⟩
      exact .inr ⟨by simp, drafting.discarded_disturbed pendingStill handled⟩
    · obtain ⟨fitting, pendingWritten⟩ := complete written rfl
      refine meets_publish.mpr ⟨trivial, ?_⟩
      rintro answer next ⟨disturbance, handled⟩
      rcases drafting.published_disturbed pendingWritten handled with ⟨rfl, adds⟩ | notAdded
      · exact .inl ⟨rfl, fitting, adds⟩
      · exact .inr notAdded

theorem afterCreation_meets (bits replication : Int) (result : Except Failure Unit) :
    (KeyStore.afterCreation path bits replication result).Meets (client.disturbed source)
      (fun outcome next => (outcome = .ok true ↔ result = .ok ()) ∧ next = state) state := by
  unfold KeyStore.afterCreation
  split
  · exact meets_bind.mpr ⟨trivial, fun _ _ same => ⟨by simp, same⟩⟩
  · split
    · exact meets_bind.mpr ⟨trivial, fun _ _ same => ⟨by simp, same⟩⟩
    · exact meets_bind.mpr ⟨trivial, fun _ _ same => ⟨by simp, same⟩⟩
  · exact ⟨by simp, rfl⟩

/-- The record of a key that the source gives for the provision was added, and nothing
else. -/
def Provided (source : Randomness.Source) (provision : Provision) (before after : client.State) :
    Prop :=
  0 < provision.bits ∧ ∃ key, provision.Draws source key ∧
    drafting.Adds provision.path (KeyRecord.encode key) before after

theorem ensure_adds (custody : Custody client) (provision : Provision) :
    provision.ensure.Meets (client.disturbed source) (fun result next =>
      (result = .ok true ∧ drafting.Provided source provision before next) ∨
        result ≠ .ok true ∧ drafting.Settled before next) before := by
  unfold Provision.ensure KeyStore.ensure
  split
  · exact .inr ⟨by simp, fun _ _ => id⟩
  · rename_i wellFormed
    have positive : 0 < provision.bits := by omega
    apply meets_bind.mpr
    apply (custody.meets_of_onlyReads (KeyStore.contains_onlyReads _)).mono
    rintro (failure | found) _ rfl
    · exact .inr ⟨by simp, fun _ _ => id⟩
    · cases found with
      | true => exact .inr ⟨by simp, fun _ _ => id⟩
      | false =>
        apply meets_bind.mpr
        refine meets_draw.mpr ⟨trivial, ?_⟩
        rintro drawn _ ⟨draws, rfl⟩
        cases drawn with
        | error failure => exact .inr ⟨by simp, fun _ _ => id⟩
        | ok key =>
          apply meets_andThen.mpr
          apply (drafting.createRecord_adds _ key).mono
          intro result created outcome
          apply (afterCreation_meets _ _ result).mono
          rintro reported _ ⟨reports, rfl⟩
          rcases outcome with ⟨succeeds, fitting, adds⟩ | ⟨fails, settled⟩
          · exact .inl ⟨reports.mpr succeeds, positive, key, ⟨draws.symm, fitting⟩, adds⟩
          · exact .inr ⟨fun reported => fails (reports.mp reported), settled⟩

/-- A call adds the record of a key that was drawn for its provision, or nothing. -/
theorem operation_adds (custody : Custody client) (call : Call) :
    (call.operation : Operation client.Draft call.Result).Meets (client.disturbed source)
      (fun _ next => drafting.Settled before next ∨
        ∃ provision, call.provision? = some provision ∧
          drafting.Provided source provision before next) before := by
  have settled {α : Type} {operation : Operation client.Draft α} {goal : client.State → Prop}
      (onlyReads : operation.OnlyReads) :
      operation.Meets (client.disturbed source) (fun _ next =>
        drafting.Settled before next ∨ goal next) before :=
    (custody.meets_of_onlyReads onlyReads).mono fun _ _ same => .inl (same ▸ fun _ _ => id)
  cases call with
  | encrypt registry parameters =>
    show (Strategy.wrap registry parameters).Meets _ _ _
    cases planned : Strategy.plan registry parameters with
    | error failure =>
      rw [Strategy.wrap_of_plan_eq_error planned]
      exact .inl fun _ _ => id
    | ok plan =>
      rw [Strategy.wrap_of_plan planned]
      apply meets_bind.mpr
      apply (drafting.ensure_adds custody (plan.provision parameters)).mono
      intro result ensured added
      have outcome : drafting.Settled before ensured ∨
          ∃ provision, (Call.encrypt registry parameters).provision? = some provision ∧
            drafting.Provided source provision before ensured := by
        rcases added with ⟨-, provided⟩ | ⟨-, settled⟩
        · exact .inr ⟨_, by simp [Call.provision?, planned], provided⟩
        · exact .inl settled
      cases result with
      | error failure => exact outcome
      | ok created =>
        apply (custody.meets_of_onlyReads
          (Strategy.wrapPlanned_onlyReads registry parameters plan)).mono
        rintro result _ rfl
        exact outcome
  | ensure generator replication path bits =>
    apply (drafting.ensure_adds custody ⟨generator, replication, path, bits⟩).mono
    rintro result next (⟨-, provided⟩ | ⟨-, settled⟩)
    · exact .inr ⟨_, rfl, provided⟩
    · exact .inl settled
  | decrypt registry parameters => exact settled (Strategy.unwrap_onlyReads registry parameters)
  | contains path => exact settled (KeyStore.contains_onlyReads path)
  | load path => exact settled (KeyStore.load_onlyReads path)

/-- The data are the record of a key that one of the calls drew for the path. -/
def ProvidedBy (calls : List (Call × Conditions)) (path : Text) (data : Bytes) : Prop :=
  ∃ call ∈ calls, ∃ provision key, call.1.provision? = some provision ∧ 0 < provision.bits ∧
    drafting.Same provision.path path ∧ provision.Draws call.2.source key ∧
    data = KeyRecord.encode key

theorem has_perform (custody : Custody client) (call : Call) {conditions : Conditions}
    {data : Bytes}
    (found : drafting.Has (client.perform conditions call.operation before).2 path data) :
    drafting.Has before path data ∨ drafting.ProvidedBy [(call, conditions)] path data := by
  rcases client.perform_disturbed (drafting.operation_adds custody call) with
    settled | ⟨provision, provided, positive, key, draws, adds⟩
  · exact .inl (settled path data found)
  · rcases adds path data found with earlier | ⟨same, rfl⟩
    · exact .inl earlier
    · exact .inr ⟨_, List.mem_singleton_self _, provision, key, provided, positive, same, draws,
        rfl⟩

/-- What is found after calls was there before them or is due to one of them. -/
theorem has_performAll (custody : Custody client) {calls : List (Call × Conditions)}
    {data : Bytes} (found : drafting.Has (client.performAll calls before) path data) :
    drafting.Has before path data ∨ drafting.ProvidedBy calls path data := by
  induction calls generalizing before with
  | nil => exact .inl found
  | cons call rest inductionHypothesis =>
    rcases inductionHypothesis found with earlier | ⟨later, among, provides⟩
    · rcases drafting.has_perform custody call.1 earlier with first | ⟨_, same, provides⟩
      · exact .inl first
      · obtain rfl := List.mem_singleton.mp same
        exact .inr ⟨call, List.mem_cons_self, provides⟩
    · exact .inr ⟨later, List.mem_cons_of_mem _ among, provides⟩

end Storage.Drafting

end KeyEnvelope

