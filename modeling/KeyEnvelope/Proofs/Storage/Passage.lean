import KeyEnvelope.Proofs.KeyStore.Passage
import KeyEnvelope.Proofs.Storage.Presence
import KeyEnvelope.Proofs.Storage.Refusals
import KeyEnvelope.Proofs.Storage.Resolution

/-!
# How a directory fails

A directory refuses paths that climb, and otherwise fails with errors of the system, as a store is
to do. Names that the system cannot take are the exception: they are noticed before the system is
asked, and what is said of them then is no error of the system.
-/

namespace KeyEnvelope.Storage.Directory

open FilePath

variable {base : FilePath} {store : Directory} {path : Text} {replication : Option Int}
  {target : Place} {failure : Failure} {source : Randomness.Source} {α : Type}

/-- The system cannot take some of the names that a path leads along, and this is what is said
of them. -/
def Unnameable (base : FilePath) (path : Text) (failure : Failure) : Prop :=
  ∃ way, way <+: base.names ++ namesOf path ∧ FileTree.nameFault? way = some failure

theorem nameFault?_of_checkNames {names : List Text}
    (refused : FileTree.checkNames names = .error failure) :
    FileTree.nameFault? names = some failure := by
  unfold FileTree.checkNames at refused
  split at refused
  · rename_i fault
    rwa [Except.error.inj refused] at fault
  · cases refused

theorem isSystem_of_coded {result : Except ErrorCode α}
    (failed : FileTree.coded result = .error failure) : failure.IsSystem := by
  cases result with
  | ok value => cases failed
  | error code => exact ⟨_, (Except.error.inj failed).symm⟩

theorem traversal_of_resolve (refused : resolve base path = .error failure) :
    failure = .configuration (.pathTraversal path) := by
  rw [resolve_eq] at refused
  split at refused
  · exact (Except.error.inj refused).symm
  · cases refused

theorem isSystem_of_makeParents {tree : FileTree}
    (failed : (makeParents tree path target).1 = .error failure) : failure.IsSystem := by
  unfold makeParents at failed
  split at failed
  · exact ⟨_, (Except.error.inj failed).symm⟩
  · exact isSystem_of_coded failed

theorem of_createTemporary_eq_error {tree : FileTree} {names : List Text}
    (failed : createTemporary tree names target = .error failure) :
    FileTree.nameFault? names = some failure ∨ failure.IsSystem := by
  unfold createTemporary at failed
  rcases Checks.bind_eq_error_iff.mp failed with refused | ⟨_, -, failed⟩
  · exact .inl (nameFault?_of_checkNames refused)
  · split at failed
    · exact .inr ⟨_, (Except.error.inj failed).symm⟩
    · rcases Checks.bind_eq_error_iff.mp failed with making | ⟨_, -, created⟩
      · exact .inr (isSystem_of_coded making)
      · cases created

theorem of_contains_eq_error (failed : store.contains path = .error failure) :
    failure.IsExpected path := by
  rcases Checks.bind_eq_error_iff.mp failed with refused | ⟨file, -, failed⟩
  · exact .inl (traversal_of_resolve refused)
  · split at failed
    · cases failed
    · exact .inr (isSystem_of_coded failed)

theorem of_openRecord_eq_error (failed : store.openRecord path = .error failure) :
    failure.IsExpected path ∨ Unnameable store.base path failure := by
  rcases Checks.bind_eq_error_iff.mp failed with refused | ⟨file, resolved, failed⟩
  · exact .inl (.inl (traversal_of_resolve refused))
  · obtain ⟨-, rfl⟩ := resolve_eq_ok_iff.mp resolved
    rcases Checks.bind_eq_error_iff.mp failed with refused | ⟨_, -, failed⟩
    · exact .inr ⟨_, List.prefix_rfl, nameFault?_of_checkNames refused⟩
    · exact .inl (.inr (isSystem_of_coded failed))

theorem of_create_eq_error (failed : (store.create path replication).answer = .error failure) :
    failure.IsExpected path ∨ Unnameable store.base path failure := by
  rw [create_answer] at failed
  rcases Checks.bind_eq_error_iff.mp failed with refused | ⟨file, resolved, failed⟩
  · exact .inl (.inl (traversal_of_resolve refused))
  · obtain ⟨-, rfl⟩ := resolve_eq_ok_iff.mp resolved
    rcases Checks.bind_eq_error_iff.mp failed with refused | ⟨_, -, failed⟩
    · exact .inr ⟨_, List.dropLast_prefix _, nameFault?_of_checkNames refused⟩
    · rcases Checks.bind_eq_error_iff.mp failed with parents | ⟨_, -, failed⟩
      · exact .inl (.inr (isSystem_of_makeParents parents))
      · rcases Checks.bind_eq_error_iff.mp failed with temporary | ⟨_, -, created⟩
        · rcases of_createTemporary_eq_error temporary with fault | system
          · exact .inr ⟨_, List.prefix_rfl, fault⟩
          · exact .inl (.inr system)
        · cases created

theorem isSystem_of_publish {tree : FileTree} {draft : Draft}
    (failed : (publish tree draft).1 = .error failure) : failure.IsSystem := by
  unfold publish at failed
  split at failed
  · cases failed
  · exact ⟨_, (Except.error.inj failed).symm⟩

theorem answers_serve (request : Request Draft) (store : Directory)
    (countable : (Surroundings.Request.storage request).IsCountable) :
    Surroundings.Answers source (Unnameable store.base) (.storage request)
      (serve request store).answer := by
  cases request with
  | contains path => exact fun _ => of_contains_eq_error
  | create path replication => exact fun _ => of_create_eq_error
  | openRecord path => exact fun _ => of_openRecord_eq_error
  | write draft chunk => exact nofun
  | discard draft => exact nofun
  | publish draft =>
    intro failure complains
    simp only [serve, Served.quiet] at complains
    cases published : (publish store.tree draft).1 with
    | ok _ => simp [published, complaint?] at complains
    | error reason =>
      obtain rfl : reason = failure := by simpa [published, complaint?] using complains
      exact isSystem_of_publish published
  | read reader count =>
    obtain ⟨nonneg, bounded⟩ := countable
    lift count to ℕ using nonneg
    intro failure complains
    have reads : read reader count = .ok (readFrom reader count) := read_of_lt (by omega)
    simp only [serve, Served.quiet, reads] at complains
    cases complains

theorem answers_handleDisturbed (disturbance : Option Disturbance) (request : Request Draft)
    (store : Directory) (countable : (Surroundings.Request.storage request).IsCountable) :
    Surroundings.Answers source (Unnameable store.base) (.storage request)
      (client.handleDisturbed disturbance request store).1 := by
  have served : Surroundings.Answers source (Unnameable store.base) (.storage request)
      (serve request store).answer := answers_serve request store countable
  rcases disturbance with _ | error | _
  · exact served
  · have system : (Failure.system error).IsSystem := ⟨error, rfl⟩
    cases request with
    | discard draft => exact nofun
    | contains path =>
      rintro failure ⟨⟩
      exact .inr system
    | create path replication =>
      rintro failure ⟨⟩
      exact .inl (.inr system)
    | openRecord path =>
      rintro failure ⟨⟩
      exact .inl (.inr system)
    | _ =>
      rintro failure ⟨⟩
      exact system
  · cases request with
    | contains path => exact nofun
    | _ => exact served

variable {conditions : Conditions}

theorem perform_failsOnly {allowed : Failure → Prop} {operation : Operation Draft α}
    (fails : operation.FailsOnly conditions.source (Unnameable store.base) allowed) :
    ∀ failure, (client.perform conditions operation store).1 = .error failure →
      allowed failure := by
  have served (disturbance : Option Disturbance) (request : Request Draft) (reached : Directory)
      (ghost : Unit) (countable : (Surroundings.Request.storage request).IsCountable)
      (based : reached.base = store.base) :
      ∃ next, (Surroundings.answering conditions.source (Unnameable store.base)).serves
          (.storage request) ghost (client.handleDisturbed disturbance request reached).1 next ∧
        (client.handleDisturbed disturbance request reached).2.base = store.base := by
    refine ⟨(), ?_, (base_handleDisturbed disturbance request reached).trans based⟩
    rw [← based]
    exact answers_handleDisturbed disturbance request reached countable
  obtain ⟨_, met, -⟩ := client.perform_meets served (fun _ _ _ _ based => ⟨(), rfl, based⟩)
    (fun _ _ _ based => ⟨(), trivial, based⟩) rfl fails
  exact met

theorem not_expected_of_unnameable (unnameable : Unnameable base path failure) :
    ¬failure.IsExpected path ∧ ¬failure.IsOwn := by
  obtain ⟨way, -, fault⟩ := unnameable
  rcases FileTree.eq_of_nameFault? fault with rfl | rfl
  · simp [Failure.IsExpected, Failure.IsSystem, Failure.IsOwn]
  · simp [Failure.IsExpected, Failure.IsSystem, Failure.IsOwn]

theorem openRecord_of_nameFault? (onward : (".." : Text) ∉ components path)
    (fault : FileTree.nameFault? (store.base.names ++ namesOf path) = some failure) :
    store.openRecord path = .error failure := by
  have refused : FileTree.checkNames (store.base.below (namesOf path)).names = .error failure := by
    rw [FileTree.checkNames, below, fault]
  rw [openRecord, resolve_eq, if_neg onward, Checks.ok_bind, refused]
  rfl

/-- What a directory fails with is a refusal of the path or an error of the system, unless there
are names that the system cannot take. A key store has failures of its own for the first two; what
is said of the names is neither, and passes through it. -/
theorem fails_as_expected (store : Directory) (path : Text) (conditions : Conditions) :
    let ends {α : Type} (operation : Operation Draft α) : Except Failure α :=
      (client.perform conditions operation store).1
    let foreign := Unnameable store.base path
    (∀ failure,
      (ends (Operation.contains path) = .error failure → failure.IsExpected path) ∧
      (ends (Operation.openRecord path) = .error failure →
        failure.IsExpected path ∨ foreign failure) ∧
      ∀ replication body, body.ending = .ok () →
        ends (Operation.creating path replication body) = .error failure →
        failure.IsExpected path ∨ foreign failure) ∧
    (∀ failure,
      (ends (KeyStore.contains path) = .error failure → failure.IsOwn) ∧
      (ends (KeyStore.load path) = .error failure → failure.IsOwn ∨ foreign failure) ∧
      ∀ generator replication bits, conditions.source.IsExact → bits ≤ 256 →
        ends (KeyStore.ensure generator replication path bits) = .error failure →
        failure.IsOwn ∨ foreign failure) ∧
    (∀ failure, foreign failure → ¬failure.IsExpected path ∧ ¬failure.IsOwn) ∧
    ∀ failure source, (".." : Text) ∉ components path →
      FileTree.nameFault? (store.base.names ++ namesOf path) = some failure →
      (client.perform ⟨source, []⟩ (KeyStore.load path) store).1 = .error failure := by
  intro ends foreign
  refine ⟨fun failure => ⟨?_, ?_, ?_⟩, fun failure => ⟨?_, ?_, ?_⟩, ?_, ?_⟩
  · exact perform_failsOnly (Operation.failsOnly_contains path) failure
  · exact perform_failsOnly (Operation.failsOnly_openRecord path) failure
  · intro replication body complete
    exact perform_failsOnly (Operation.failsOnly_creating path replication complete) failure
  · exact perform_failsOnly (KeyStore.contains_failsOnly path) failure
  · exact perform_failsOnly (KeyStore.load_failsOnly path) failure
  · intro generator replication bits exact bounded
    have fitting : (bits / 8).toNat < 2147483648 := by omega
    exact perform_failsOnly (KeyStore.ensure_failsOnly exact generator replication fitting) failure
  · exact fun failure => not_expected_of_unnameable
  · intro failure source onward fault
    rw [perform_load_of_error (openRecord_of_nameFault? onward fault)]
    rcases FileTree.eq_of_nameFault? fault with rfl | rfl
    · rfl
    · rfl

/-- A path that climbs is refused, which is a failure of the key store's own. -/
theorem fails_as_expected_if_climbing :
    let ensured :=
      (client.perform ⟨Randomness.zeros, []⟩ (KeyStore.ensure .system 5 "/../k" 256) bare).1
    Randomness.zeros.IsExact ∧ ensured = .error (.configuration (.pathTraversal "/../k")) ∧
      ((Failure.configuration (.pathTraversal "/../k")).IsOwn ∨
        Unnameable bare.base "/../k" (.configuration (.pathTraversal "/../k"))) := by
  intro ensured
  have exact : Randomness.Source.IsExact Randomness.zeros := fun _ count => ⟨_, rfl, by simp⟩
  have failed : ensured = .error (.configuration (.pathTraversal "/../k")) := by decide +kernel
  obtain ⟨-, own, -⟩ := fails_as_expected bare "/../k" ⟨Randomness.zeros, []⟩
  exact ⟨exact, failed, (own _).2.2 .system 5 256 exact (by decide) failed⟩

/-- A character of code zero in a path comes through a key store as no failure of its own. -/
theorem not_own_failure_in_bare :
    (client.perform ⟨Randomness.zeros, []⟩ (KeyStore.load "/k\x00") bare).1 =
        .error (.badValue "embedded null byte") ∧
      ¬(Failure.badValue "embedded null byte").IsOwn :=
  ⟨rfl, id⟩

end KeyEnvelope.Storage.Directory
