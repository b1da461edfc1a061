import KeyEnvelope.Proofs.Decryption
import KeyEnvelope.Proofs.Storage.Journal

/-!
# The temporary file of a draft

A draft is a temporary file beside its target, in a directory where there would be room for the
target too. Writing to it and taking it away again leaves everything else as it is; linking it
fails only if something is at the target.
-/

namespace KeyEnvelope

namespace FileTree

variable {tree : FileTree} {place : Place} {name : Text}

theorem of_checkVacant (vacant : tree.checkVacant (place ++ [name]) = .ok ()) :
    tree.locate place = .ok .directory ∧ tooLong name = false ∧
      outOfReach (place ++ [name]) = false := by
  simp only [checkVacant, List.getLast?_concat, List.dropLast_concat] at vacant
  split at vacant
  · cases vacant
  · cases vacant
  · rename_i parent
    split at vacant
    · cases vacant
    · rename_i fits
      simp only [Bool.or_eq_true, not_or, Bool.not_eq_true] at fits
      exact ⟨parent, fits⟩

end FileTree

namespace Storage.Directory

open FileTree (Passes Paves)

variable {made tree : FileTree} {target : Place} {draft : Draft} {content : Bytes}
  {store : Directory} {path : Text} {replication : Option Int}

theorem makeParents_snd (tree : FileTree) (path : Text) (target : Place) :
    (makeParents tree path target).2 = (tree.makeDirectories target.dropLast).2 := by
  unfold makeParents
  split
  · rename_i making
    rw [making]
  · rename_i making
    rw [making]

/-- The tree has a temporary file for the target beside what was made before. -/
structure HasDraft (made : FileTree) (target : Place) (draft : Draft) (content : Bytes)
    (tree : FileTree) : Prop where
  aims : draft.target = target
  beside : ∃ number, draft.temporary =
    target.dropLast ++ [temporaryName (target.getLast?.getD "") number]
  vacant : made.checkVacant draft.temporary = .ok ()
  nodes : ∀ place, tree.node? place =
    (made.put draft.temporary (.file content 0o600)).node? place

/-- The tree has the record at the target, and otherwise what was made before. -/
def Published (made : FileTree) (target : Place) (content : Bytes) (tree : FileTree) : Prop :=
  ∀ place, tree.node? place =
    if place = target then some (.file content 0o600) else made.node? place

theorem Published.within (published : Published made target content tree)
    (vacant : made.node? target = none) : made.Within tree := by
  intro place node found
  rw [published, if_neg (FileTree.ne_of_absent vacant found)]
  exact found

theorem of_createTemporary {names : List Text}
    (creates : createTemporary made names target = .ok (draft, tree)) :
    FileTree.checkNames names = .ok () ∧ HasDraft made target draft [] tree ∧
      made.changed (.createFile draft.temporary 0o600) = .ok tree := by
  simp only [createTemporary, Checks.bind_eq_ok_iff] at creates
  obtain ⟨_, checked, creates⟩ := creates
  cases free : temporaryPlace? made target with
  | none => simp [free] at creates
  | some temporary =>
    simp only [free, Checks.bind_eq_ok_iff, Checks.pure_eq_ok, Except.ok.injEq,
      Prod.mk.injEq] at creates
    obtain ⟨tree, making, rfl, rfl⟩ := creates
    obtain ⟨number, -, spelled⟩ := List.mem_map.mp (List.mem_of_find?_eq_some free)
    cases file : made.createFile temporary 0o600 with
    | error code => simp [file, FileTree.coded] at making
    | ok found =>
      obtain rfl : found = tree := by simpa [file, FileTree.coded] using making
      refine ⟨checked, ?_, file⟩
      simp only [FileTree.createFile, Checks.bind_eq_ok_iff, Checks.pure_eq_ok,
        Except.ok.injEq] at file
      obtain ⟨_, vacant, rfl⟩ := file
      exact {
        aims := rfl
        beside := ⟨number, spelled.symm⟩
        vacant
        nodes := fun _ => rfl }

/-- A name is shorter than that of a temporary file for it. -/
theorem byteSize_lt_temporaryName (name : Text) (number : Nat) :
    FileTree.byteSize name < FileTree.byteSize (temporaryName name number) := by
  have suffix : FileTree.byteSize ".tmp" = 4 := by decide
  simp only [temporaryName, FileTree.byteSize_append, suffix]
  omega

namespace HasDraft

theorem named (drafted : HasDraft made target draft content tree) : draft.temporary ≠ [] := by
  obtain ⟨number, spelled⟩ := drafted.beside
  simp [spelled]

theorem absent (drafted : HasDraft made target draft content tree) :
    made.node? draft.temporary = none :=
  FileTree.absent_of_checkVacant drafted.vacant

theorem within (drafted : HasDraft made target draft content tree) : made.Within tree := by
  intro place node found
  rw [drafted.nodes]
  exact FileTree.Within.put (.refl made) drafted.absent _ place node found

/-- The temporary file is in a directory, with a longer name than the target. -/
theorem placed (drafted : HasDraft made target draft content tree) :
    ∃ name, draft.temporary = target.dropLast ++ [name] ∧
      FileTree.byteSize (target.getLast?.getD "") < FileTree.byteSize name ∧
      made.locate target.dropLast = .ok .directory ∧ FileTree.tooLong name = false ∧
      FileTree.outOfReach (target.dropLast ++ [name]) = false := by
  obtain ⟨number, spelled⟩ := drafted.beside
  have vacant := drafted.vacant
  rw [spelled] at vacant
  exact ⟨_, spelled, byteSize_lt_temporaryName _ number, FileTree.of_checkVacant vacant⟩

theorem temporary_ne (drafted : HasDraft made target draft content tree) :
    draft.temporary ≠ target := by
  intro same
  obtain ⟨name, spelled, larger, -⟩ := drafted.placed
  rw [← same, spelled, List.getLast?_concat, Option.getD_some] at larger
  exact absurd larger (Nat.lt_irrefl _)

/-- The parent of the target is a directory, and nothing is too long for it if it was not for
the temporary file. -/
theorem room (drafted : HasDraft made target draft content tree) :
    made.locate target.dropLast = .ok .directory ∧
      (∀ name, target.getLast? = some name → FileTree.tooLong name = false) ∧
      FileTree.outOfReach target = false := by
  obtain ⟨longer, -, larger, parent, short, reach⟩ := drafted.placed
  rw [FileTree.outOfReach_eq_false_iff, FileTree.wayLength_append] at reach
  simp only [FileTree.tooLong, decide_eq_false_iff_not, FileTree.wayLength] at short reach
  refine ⟨parent, ?_, ?_⟩
  · intro name last
    rw [last, Option.getD_some] at larger
    simp only [FileTree.tooLong, decide_eq_false_iff_not]
    omega
  · rcases List.eq_nil_or_concat' target with rfl | ⟨init, last, rfl⟩
    · decide
    · rw [List.getLast?_concat, Option.getD_some] at larger
      rw [List.dropLast_concat] at reach
      rw [FileTree.outOfReach_eq_false_iff, FileTree.wayLength_append]
      simp only [FileTree.wayLength]
      omega

/-- Names lead to the target, if anything is there. -/
theorem locate_target {later : FileTree} (drafted : HasDraft made target draft content tree)
    (grown : made.Within later) :
    later.locate target = (later.node? target).elim (.error .noEntry) .ok := by
  obtain ⟨parent, short, reach⟩ := drafted.room
  rcases List.eq_nil_or_concat' target with rfl | ⟨init, last, rfl⟩
  · rfl
  · rw [List.dropLast_concat] at parent
    exact FileTree.locate_child (FileTree.locate_of_within grown parent)
      (short last List.getLast?_concat) reach

theorem found (drafted : HasDraft made target draft content tree) :
    tree.node? draft.temporary = some (.file content 0o600) := by
  rw [drafted.nodes, FileTree.node?_put_self drafted.named]

theorem elsewhere (drafted : HasDraft made target draft content tree) {place : Place}
    (different : place ≠ draft.temporary) : tree.node? place = made.node? place := by
  rw [drafted.nodes, FileTree.node?_put_of_ne different]

theorem write (drafted : HasDraft made target draft content tree) (chunk : Bytes) :
    HasDraft made target draft (content ++ chunk) (tree.append draft.temporary chunk) where
  aims := drafted.aims
  beside := drafted.beside
  vacant := drafted.vacant
  nodes := by
    intro place
    simp only [FileTree.append, drafted.found]
    by_cases here : place = draft.temporary
    · rw [here, FileTree.node?_put_self drafted.named, FileTree.node?_put_self drafted.named]
    · rw [FileTree.node?_put_of_ne here, FileTree.node?_put_of_ne here, drafted.elsewhere here]

/-- Linking fails only if something is at the target. -/
theorem link (drafted : HasDraft made target draft content tree) :
    tree.link draft.temporary draft.target =
      if (made.node? target).isSome then .error .alreadyExists
      else .ok (tree.put target (.file content 0o600)) := by
  have source : tree.locate draft.temporary = .ok (.file content 0o600) := by
    obtain ⟨name, spelled, -, parent, short, reach⟩ := drafted.placed
    rw [spelled, FileTree.locate_child (FileTree.locate_of_within drafted.within parent) short
      reach, ← spelled, drafted.found]
    rfl
  have vacancy : tree.checkVacant target =
      if (made.node? target).isSome then .error .alreadyExists else .ok () := by
    obtain ⟨parent, short, reach⟩ := drafted.room
    rw [← drafted.elsewhere drafted.temporary_ne.symm]
    rcases List.eq_nil_or_concat' target with rfl | ⟨init, last, rfl⟩
    · rfl
    · rw [List.dropLast_concat] at parent
      exact FileTree.checkVacant_child (FileTree.locate_of_within drafted.within parent)
        (short last List.getLast?_concat) reach
  rw [FileTree.link, source, drafted.aims, Checks.ok_bind, vacancy]
  split
  · rfl
  · rfl

/-- Without the temporary file the tree has what was made before. -/
theorem node?_remove (drafted : HasDraft made target draft content tree) (place : Place) :
    (tree.remove draft.temporary).node? place = made.node? place := by
  by_cases here : place = draft.temporary
  · rw [here, FileTree.node?_remove_self drafted.named, drafted.absent]
  · rw [FileTree.node?_remove_of_ne here, drafted.elsewhere here]

theorem published (drafted : HasDraft made target draft content tree)
    (vacant : made.node? target = none) :
    Published made target content
      ((tree.put target (.file content 0o600)).remove draft.temporary) := by
  have namedTarget : target ≠ [] := by
    rintro rfl
    simp [FileTree.node?] at vacant
  intro place
  rw [FileTree.node?_remove_put_of_ne drafted.temporary_ne.symm drafted.named namedTarget]
  split
  · rename_i here
    rw [here, FileTree.node?_put_self namedTarget]
  · rename_i different
    rw [FileTree.node?_put_of_ne different, drafted.node?_remove]

end HasDraft

/-- A record is begun in a tree where its parents were made: either that fails, or there is an
empty draft of it. -/
theorem create_cases (store : Directory) (path : Text) (replication : Option Int)
    {through : FileTree → Prop}
    (holds : ∀ tree, Paves store.tree tree (store.place path) → through tree) :
    ∃ made, Paves store.tree made (store.place path) ∧
      Passes through store.tree ((store.parentsMade path).map .makeDirectory) made ∧
      (store.create path replication).state.base = store.base ∧
      ((∃ failure, (store.create path replication).answer = .error failure ∧
          (store.create path replication).state.tree = made) ∨
        ∃ draft, (store.create path replication).answer = .ok draft ∧
          resolve store.base path = .ok (store.base.below (FilePath.ofText path).names) ∧
          FileTree.checkNames (store.base.names ++ FilePath.namesOf path) = .ok () ∧
          HasDraft made (store.place path) draft [] (store.create path replication).state.tree ∧
          made.changed (.createFile draft.temporary 0o600) =
            .ok (store.create path replication).state.tree) := by
  have unchanged := Paves.refl store.tree (store.place path)
  unfold create parentsMade
  cases resolved : resolve store.base path with
  | error failure =>
    exact ⟨store.tree, unchanged, .nil (holds _ unchanged), rfl, .inl ⟨failure, rfl, rfl⟩⟩
  | ok file =>
    obtain ⟨-, rfl⟩ := resolve_eq_ok_iff.mp resolved
    simp only [Checks.ok_bind]
    cases FileTree.checkNames (store.base.below (FilePath.ofText path).names).names.dropLast with
    | error failure =>
      exact ⟨store.tree, unchanged, .nil (holds _ unchanged), rfl, .inl ⟨failure, rfl, rfl⟩⟩
    | ok _ =>
      obtain ⟨paves, passes⟩ := unchanged.makeDirectories holds
      have parents := makeParents_snd store.tree path (store.place path)
      simp only [Checks.ok_bind, Checks.pure_eq_ok]
      rcases making : makeParents store.tree path (store.place path) with ⟨result, made⟩
      obtain rfl : made = _ := making ▸ parents
      refine ⟨_, paves, passes, ?_⟩
      cases result with
      | error failure => exact ⟨rfl, .inl ⟨failure, rfl, rfl⟩⟩
      | ok _ =>
        dsimp only
        split
        · rename_i failure _
          exact ⟨rfl, .inl ⟨failure, rfl, rfl⟩⟩
        · rename_i draft tree creates
          obtain ⟨nameable, drafted, creating⟩ := of_createTemporary creates
          exact ⟨rfl, .inr ⟨draft, rfl, trivial, nameable, drafted, creating⟩⟩

theorem accepted_of_create (begun : (store.create path replication).answer = .ok draft) :
    resolve store.base path = .ok (store.base.below (FilePath.ofText path).names) ∧
      FileTree.checkNames (store.base.names ++ FilePath.namesOf path) = .ok () := by
  obtain ⟨_, -, -, -, ⟨failure, failed, -⟩ | ⟨_, -, resolved, nameable, -⟩⟩ :=
    store.create_cases path replication fun _ _ => True.intro
  · rw [begun] at failed
    cases failed
  · exact ⟨resolved, nameable⟩

/-- A directory stays where it is. -/
theorem base_serve (request : Request Draft) (store : Directory) :
    (serve request store).state.base = store.base := by
  cases request with
  | create path replication =>
    obtain ⟨_, -, -, based, -⟩ := store.create_cases path replication fun _ _ => True.intro
    exact based
  | _ => rfl

theorem base_handleDisturbed (disturbance : Option Disturbance) (request : Request Draft)
    (store : Directory) :
    (client.handleDisturbed disturbance request store).2.base = store.base := by
  rcases disturbance with _ | error | _
  · exact base_serve request store
  · cases request <;> rfl
  · cases request <;> first | rfl | exact base_serve _ store

end Storage.Directory

end KeyEnvelope
