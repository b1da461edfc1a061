import KeyEnvelope.Proofs.Storage.Creation
import KeyEnvelope.Proofs.Storage.Presence
import KeyEnvelope.Proofs.Storage.Refusals
import KeyEnvelope.Proofs.Storage.Resolution

/-!
# Making sure of a record

Once it was made sure that there is a record, there is one: it was there, or was created, or
somebody else was quicker to create it. Only if something else was taken for such a record there
is none.
-/

namespace KeyEnvelope.Storage.Directory

open FileTree (Paves)

variable {tree made : FileTree} {target : Place} {store : Directory} {path : Text}
  {replication : Option Int} {error : SystemError}

/-- A file in the way of a parent is not said to be there already. -/
theorem kind_of_makeParents
    (failed : (makeParents tree path target).1 = .error (.system error)) :
    error.kind ≠ .fileExists := by
  rw [makeParents] at failed
  generalize tree.makeDirectories target.dropLast = making at failed
  obtain ⟨code | _, made⟩ := making
  · cases code with
    | alreadyExists =>
      simp only [Except.error.injEq, Failure.system.injEq] at failed
      simp [← failed, SystemError.kind]
    | _ =>
      simp only [FileTree.coded, Except.error.injEq, Failure.system.injEq] at failed
      simp [← failed, SystemError.kind, ErrorCode.kind]
  · cases failed

theorem not_system_of_checkNames {names : List Text} :
    FileTree.checkNames names ≠ .error (.system error) := by
  unfold FileTree.checkNames
  split
  · rename_i failure fault
    rcases FileTree.eq_of_nameFault? fault with rfl | rfl
    · simp
    · simp
  · simp

theorem temporaryPlace?_of_createTemporary {names : List Text}
    (failed : createTemporary tree names target = .error (.system error))
    (taken : error.kind = .fileExists) : temporaryPlace? tree target = none := by
  unfold createTemporary at failed
  rcases Checks.bind_eq_error_iff.mp failed with fault | ⟨_, -, failed⟩
  · exact absurd fault not_system_of_checkNames
  · cases free : temporaryPlace? tree target with
    | none => rfl
    | some temporary =>
      have absent : tree.node? temporary = none := by simpa using List.find?_some free
      rw [free] at failed
      rcases Checks.bind_eq_error_iff.mp failed with making | ⟨_, -, failed⟩
      · cases file : tree.createFile temporary 0o600 with
        | ok _ => simp [file, FileTree.coded] at making
        | error code =>
          rw [file] at making
          obtain rfl : _ = error := Failure.system.inj (Except.error.inj making)
          rcases Checks.bind_eq_error_iff.mp file with occupied | ⟨_, -, created⟩
          · cases code with
            | alreadyExists =>
              have present := FileTree.isSome_of_checkVacant occupied
              simp [absent] at present
            | _ => simp [SystemError.kind, ErrorCode.kind] at taken
          · cases created
      · cases failed

/-- Making parents takes no name for a temporary file. -/
theorem temporaryPlace?_of_paves (paves : Paves tree made target)
    (taken : temporaryPlace? made target = none) : temporaryPlace? tree target = none := by
  rw [temporaryPlace?, List.find?_eq_none] at taken ⊢
  intro place among
  have here := taken place among
  obtain ⟨number, -, rfl⟩ := List.mem_map.mp among
  rwa [(paves _).unchanged (by rw [List.length_append, List.length_dropLast]; simp; omega)] at here

/-- Beginning a record only says that something exists if no temporary file can be made. -/
theorem temporaryPlace?_of_create
    (failed : (store.create path replication).answer = .error (.system error))
    (taken : error.kind = .fileExists) :
    temporaryPlace? store.tree (store.place path) = none := by
  rw [create_answer] at failed
  cases resolved : resolve store.base path with
  | error failure =>
    rw [resolve_eq] at resolved failed
    split at failed
    · cases failed
    · rename_i onward
      rw [if_neg onward] at resolved
      cases resolved
  | ok file =>
    obtain ⟨-, rfl⟩ := resolve_eq_ok_iff.mp resolved
    rw [resolved, Checks.ok_bind] at failed
    rcases Checks.bind_eq_error_iff.mp failed with fault | ⟨_, -, failed⟩
    · exact absurd fault not_system_of_checkNames
    · rcases Checks.bind_eq_error_iff.mp failed with parents | ⟨_, -, failed⟩
      · exact absurd taken (kind_of_makeParents parents)
      · rcases Checks.bind_eq_error_iff.mp failed with temporary | ⟨_, -, failed⟩
        · have taken := temporaryPlace?_of_createTemporary temporary taken
          rw [makeParents_snd] at taken
          have paves := ((Paves.refl store.tree (store.place path)).makeDirectories
            fun _ _ => True.intro).1
          exact temporaryPlace?_of_paves paves taken
        · cases failed

variable {conditions : Conditions} {progress : Progress}

/-- A key store learns of a record only if there is one. -/
theorem meets_contains (path : Text) :
    (KeyStore.contains path).Meets (observed conditions) (fun result next =>
      next = progress ∧ (result = .ok true → progress.store.contains path = .ok true))
      progress := by
  simp only [KeyStore.contains, Operation.meets_andThen, Operation.meets_contains]
  refine ⟨trivial, ?_⟩
  intro answer next served
  obtain ⟨disturbance, -, handled, changes⟩ := served
  have unchanged : next = progress := by
    obtain ⟨store, done⟩ := next
    obtain rfl : done = _ := changes
    rcases disturbance with _ | error | _
    · obtain ⟨-, rfl⟩ := Prod.mk.inj handled
      simp [changesUnder, changesOf, serve, Served.quiet]
    · obtain ⟨-, rfl⟩ := Prod.mk.inj handled
      simp [changesUnder]
    · obtain ⟨-, rfl⟩ := Prod.mk.inj handled
      simp [changesUnder, changesOf]
  subst unchanged
  cases answer with
  | error failure =>
    cases failure with
    | system error =>
      refine ⟨trivial, ?_⟩
      intro answer final noted
      exact ⟨noted, by simp⟩
    | _ => exact ⟨rfl, by simp⟩
  | ok found =>
    refine ⟨rfl, ?_⟩
    intro present
    obtain rfl := Except.ok.inj present
    rcases disturbance with _ | error | _
    · exact congrArg Prod.fst handled
    · cases congrArg Prod.fst handled
    · cases congrArg Prod.fst handled

/-- No error that befalls a request says that something exists. -/
def Honest (conditions : Conditions) : Prop :=
  ∀ error, some (.fault error) ∈ conditions.disturbances → error.kind ≠ .fileExists

/-- There is a record, or one was taken to be there: a directory is in its place, or there is no
name left for a temporary file. -/
def Established (before : Directory) (path : Text) (created : Bool) (after : Directory) : Prop :=
  after.contains path = .ok true ∨
    created = false ∧
      (before.tree.node? (before.place path) = some .directory ∧
          after.contains path = .ok false ∨
        temporaryPlace? before.tree (before.place path) = none)

theorem not_system_of_body {key : Bytes} : (KeyRecord.body key).ending ≠ .error (.system error) := by
  unfold KeyRecord.body
  split
  · simp
  · rename_i failure refused
    unfold KeyRecord.checkLength at refused
    split at refused
    · obtain rfl := Except.error.inj refused
      simp
    · cases refused

theorem contains_of_locate {node : FileNode}
    (resolved : resolve store.base path = .ok (store.base.below (FilePath.ofText path).names))
    (nameable : FileTree.checkNames (store.base.names ++ FilePath.namesOf path) = .ok ())
    (located : tree.locate (store.place path) = .ok node) :
    contains { store with tree } path =
      .ok (match node with | .directory => false | .file _ _ => true) := by
  cases node with
  | file content mode =>
    exact contains_of_openRecord
      (openRecord_eq_ok_iff.mpr ⟨_, mode, resolved, nameable, located⟩)
  | directory =>
    simp only [contains, resolved, Checks.ok_bind]
    split
    · rfl
    · rw [place_withTree, FileTree.holdsFile, located]
      rfl

/-- Whoever was said to be quicker has left a record, or something that was taken for one. -/
theorem Ended.established {tree : FileTree} {key : Bytes} (honest : Honest conditions)
    (taken : error.kind = .fileExists)
    (ended : Ended store path replication (KeyRecord.body key) conditions
      (.error (.system error)) tree) :
    Established store path false { store with tree } := by
  cases ended with
  | notBegun blamed paves =>
    rcases blamed with failed | ⟨other, due, same⟩
    · exact .inr ⟨rfl, .inr (temporaryPlace?_of_create failed taken)⟩
    · obtain rfl := Failure.system.inj same
      exact absurd taken (honest _ due)
  | abandoned begun fails paves located =>
    rcases fails with failed | ⟨other, due, same⟩ | ⟨-, occupied, -⟩
    · exact absurd failed not_system_of_body
    · obtain rfl := Failure.system.inj same
      exact absurd taken (honest _ due)
    · obtain ⟨node, found⟩ := Option.isSome_iff_exists.mp occupied
      obtain ⟨resolved, nameable⟩ := accepted_of_create begun
      rw [paves.at_target, found] at located
      have asked := contains_of_locate resolved nameable located
      cases node with
      | file content mode => exact .inl asked
      | directory => exact .inr ⟨rfl, .inl ⟨found, asked⟩⟩

/-- What is said of a record that was created, or that somebody else was quicker to create. -/
theorem Concluded.meets_afterCreation {key : Bytes} {replication : Int}
    {result : Except Failure Unit} (honest : Honest conditions)
    (concluded : Concluded store path (some replication) (KeyRecord.body key) conditions result
      progress) (bits : Int) :
    (KeyStore.afterCreation path bits replication result).Meets (observed conditions)
      (fun result next => ∀ created, result = .ok created →
        Established store path created next.store) progress := by
  have placed : progress.store = { store with tree := progress.store.tree } :=
    congrArg (Directory.mk · _) concluded.base
  have ended := concluded.ended
  cases result with
  | ok _ =>
    refine ⟨trivial, ?_⟩
    intro _ next noted created answered
    obtain rfl : next = progress := noted
    rw [placed]
    exact .inl (contains_of_openRecord ended.openRecord)
  | error failure =>
    cases failure with
    | system error =>
      simp only [KeyStore.afterCreation]
      split
      · rename_i taken
        refine ⟨trivial, ?_⟩
        intro _ next noted created answered
        obtain rfl : next = progress := noted
        obtain rfl := Except.ok.inj answered
        rw [placed]
        exact ended.established honest taken
      · refine ⟨trivial, ?_⟩
        intro _ next noted
        exact nofun
    | _ => exact nofun

theorem meets_ensure (honest : Honest conditions) (store : Directory)
    (generator : Randomness.Generator) (replication : Int) (path : Text) (bits : Int) :
    (KeyStore.ensure generator replication path bits).Meets (observed conditions)
      (fun result next => ∀ created, result = .ok created →
        Established store path created next.store) ⟨store, []⟩ := by
  unfold KeyStore.ensure
  split
  · exact nofun
  · apply Operation.meets_bind.mpr
    apply (meets_contains path).mono
    intro result next asked
    obtain ⟨rfl, seen⟩ := asked
    cases result with
    | error failure => exact nofun
    | ok found =>
      cases found with
      | true =>
        intro created answered
        exact .inl (seen rfl)
      | false =>
        apply Operation.meets_bind.mpr
        refine Operation.meets_draw.mpr ⟨trivial, ?_⟩
        intro drawn next served
        obtain ⟨-, rfl⟩ := served
        cases drawn with
        | error failure => exact nofun
        | ok key =>
          apply Operation.meets_andThen.mpr
          rw [KeyStore.createRecord_eq]
          apply (meets_creating store path (some replication) (KeyRecord.body key)
            conditions).mono
          intro result next concluded
          exact concluded.meets_afterCreation honest bits

/-- After it was made sure that there is a record, asking for one finds it, unless this call was
told that somebody else was quicker when nobody was: by a directory in the place of the record, or
because no temporary file could be made. -/
theorem ensured_record_is_found (store : Directory) (path : Text)
    (generator : Randomness.Generator) (replication bits : Int) (conditions : Conditions)
    (source : Randomness.Source) (created : Bool) (honest : Honest conditions)
    (ensured : (client.perform conditions
      (KeyStore.ensure generator replication path bits) store).1 = .ok created) :
    let after := (client.perform conditions
      (KeyStore.ensure generator replication path bits) store).2
    let asked := (client.perform ⟨source, []⟩ (KeyStore.contains path) after).1
    asked = .ok true ∨
      created = false ∧
        (store.tree.node? (store.place path) = some .directory ∧ asked = .ok false ∨
          temporaryPlace? store.tree (store.place path) = none) := by
  intro after asked
  have established : Established store path created after :=
    perform_observed (meets_ensure honest store generator replication path bits) created ensured
  rcases established with found | ⟨lost, ⟨directory, absent⟩ | full⟩
  · exact .inl (perform_contains_eq_ok_iff.mpr found)
  · exact .inr ⟨lost, .inl ⟨directory, perform_contains_eq_ok_iff.mpr absent⟩⟩
  · exact .inr ⟨lost, .inr full⟩

/-- A base directory with a file where a record could be. -/
def occupied : Directory :=
  { bare with tree := bare.tree.put ["base", "k"] (.file [] 0o600) }

/-- What was overlooked at first is found when somebody was quicker. -/
theorem ensured_record_is_found_if_overlooked :
    let conditions : Conditions := ⟨Randomness.zeros, [some .oversight]⟩
    let performed := client.perform conditions (KeyStore.ensure .system 5 "/k" 128) occupied
    Honest conditions ∧ performed.1 = .ok false ∧
      (client.perform ⟨Randomness.zeros, []⟩ (KeyStore.contains "/k") performed.2).1 =
        .ok true := by
  intro conditions performed
  have honest : Honest conditions := by simp [Honest, conditions]
  have ensured : performed.1 = .ok false := by decide +kernel
  rcases ensured_record_is_found occupied "/k" .system 5 128 conditions Randomness.zeros false
    honest ensured with found | ⟨-, ⟨directory, -⟩ | full⟩
  · exact ⟨honest, ensured, found⟩
  · exact absurd directory (by decide)
  · exact absurd full (by decide +kernel)

/-- A directory in the place of a record passes for one that somebody else has created. -/
theorem not_ensured_in_blocked :
    let performed :=
      client.perform ⟨Randomness.zeros, []⟩ (KeyStore.ensure .system 5 "/k" 128) blocked
    performed.1 = .ok false ∧
      (client.perform ⟨Randomness.zeros, []⟩ (KeyStore.contains "/k") performed.2).1 =
        .ok false := by
  decide +kernel

end KeyEnvelope.Storage.Directory
