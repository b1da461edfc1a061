import KeyEnvelope.KeyStore
import KeyEnvelope.Proofs.Storage.TemporaryFile

/-!
# Creating a record is atomic

A record is written to a temporary file beside its place, and comes to that place as a whole, by
one link. Until then there is what was there before, and so there is if creating it fails; then
nothing is left but the directories that were made on the way.
-/

namespace KeyEnvelope

/-- What is written to a record before it is published, and how that ends. -/
structure Body where
  chunks : List Bytes
  ending : Except Failure Unit

namespace Body

variable {Draft : Type}

def content (body : Body) : Bytes :=
  body.chunks.flatten

def writeAll (draft : Draft) : List Bytes → Operation Draft Draft
  | [] => pure draft
  | chunk :: rest => do writeAll (← Operation.write draft chunk) rest

def fill (body : Body) (draft : Draft) : Operation Draft Draft := do
  let written ← writeAll draft body.chunks
  Operation.ofExcept body.ending
  return written

/-- How creating a record ends by itself: as beginning it does if that fails, then as the body
does, and at last with an error if there is something at the target. -/
def outcome (body : Body) (begun : Except Failure Draft) (occupied : Bool) :
    Except Failure Unit := do
  let _ ← begun
  body.ending
  if occupied then throw (.system (.coded .alreadyExists))

end Body

namespace Operation

variable {Draft : Type}

/-- Publishes what was written; a draft that cannot be written is discarded. -/
def conclude (draft : Draft) : Except Failure Draft → Operation Draft Unit
  | .ok written => publish written
  | .error failure => do
    discard draft
    throw failure

def creating (path : Text) (replication : Option Int) (body : Body) : Operation Draft Unit := do
  let draft ← create path replication
  (body.fill draft).andThen (conclude draft)

end Operation

namespace KeyRecord

/-- How the record of a key is written. -/
def body (key : Bytes) : Body :=
  match checkLength key with
  | .ok () => ⟨[header key, key], .ok ()⟩
  | .error failure => ⟨[], .error failure⟩

end KeyRecord

theorem KeyStore.writeRecord_eq {Draft : Type} (draft : Draft) (key : Bytes) :
    writeRecord draft key = (KeyRecord.body key).fill draft := by
  unfold writeRecord KeyRecord.body
  cases KeyRecord.checkLength key with
  | error failure => rfl
  | ok _ =>
    refine congrArg (Procedure.ask _) (funext fun answer => ?_)
    cases answer with
    | error failure => rfl
    | ok draft =>
      refine congrArg (Procedure.ask _) (funext fun answer => ?_)
      cases answer <;> rfl

theorem KeyStore.createRecord_eq {Draft : Type} (path : Text) (replication : Int) (key : Bytes) :
    (createRecord path replication key : Operation Draft Unit) =
      Operation.creating path (some replication) (KeyRecord.body key) :=
  congrArg (Operation.create path (some replication) >>= ·)
    (funext fun draft => congrArg (Operation.andThen · _) (writeRecord_eq draft key))

namespace Storage.Directory

open FileTree (Change Passes PavedAt Paves)

variable {made tree : FileTree} {target : Place} {draft : Draft} {content : Bytes}
  {path : Text} {replication : Option Int}

/-- Everything that was there is there, and at the target is what was there or all of the
content. -/
structure Intact (before : FileTree) (target : Place) (content : Bytes) (tree : FileTree) :
    Prop where
  within : before.Within tree
  whole : tree.node? target = before.node? target ∨
    tree.node? target = some (.file content 0o600)

theorem Intact.of_paves {before : FileTree} (paves : Paves before tree target) :
    Intact before target content tree :=
  ⟨paves.within, .inl paves.at_target⟩

theorem Intact.of_hasDraft {before : FileTree} {written : Bytes} (paves : Paves before made target)
    (drafted : HasDraft made target draft written tree) : Intact before target content tree where
  within place node found := drafted.within place node (paves.within place node found)
  whole := by
    rw [drafted.elsewhere drafted.temporary_ne.symm, paves.at_target]
    exact .inl rfl

theorem Intact.of_published {before : FileTree} (paves : Paves before made target)
    (vacant : made.node? target = none) (published : Published made target content tree) :
    Intact before target content tree where
  within place node found := published.within vacant place node (paves.within place node found)
  whole := .inr (by rw [published, if_pos rfl])

variable {before : Directory} {body : Body} {conditions : Conditions} {progress : Progress}
  {written : Bytes}

/-- A record is being created: the parents are made, and some of it is written. -/
structure Underway (before : Directory) (path : Text) (body : Body) (made : FileTree)
    (draft : Draft) (written : Bytes) (progress : Progress) : Prop where
  base : progress.store.base = before.base
  paves : Paves before.tree made (before.place path)
  drafted : HasDraft made (before.place path) draft written progress.store.tree
  passes : Passes (Intact before.tree (before.place path) body.content) before.tree
    progress.changes progress.store.tree

theorem Underway.write (underway : Underway before path body made draft written progress)
    (chunk : Bytes) :
    Underway before path body made draft (written ++ chunk)
      ⟨(serve (.write draft chunk) progress.store).state,
        progress.changes ++ changesOf (.write draft chunk) progress.store⟩ where
  base := underway.base
  paves := underway.paves
  drafted := underway.drafted.write chunk
  passes := underway.passes.concat rfl
    (.of_hasDraft underway.paves (underway.drafted.write chunk))

theorem meets_writeAll (chunks : List Bytes)
    (underway : Underway before path body made draft written progress) :
    (Body.writeAll draft chunks).Meets (observed conditions) (fun result next =>
      match result with
      | .ok last => last = draft ∧
        Underway before path body made draft (written ++ chunks.flatten) next
      | .error failure => Befallen conditions failure ∧
        ∃ written, Underway before path body made draft written next) progress := by
  induction chunks generalizing written progress with
  | nil =>
    refine ⟨rfl, ?_⟩
    simpa using underway
  | cons chunk rest inductionHypothesis =>
    simp only [Body.writeAll, Operation.meets_bind, Operation.meets_write]
    refine ⟨trivial, ?_⟩
    intro answer next served
    rcases served_or_failed (by simp) served with
      ⟨rfl, rfl⟩ | ⟨error, due, rfl, rfl⟩
    · have later := inductionHypothesis (underway.write chunk)
      rwa [List.append_assoc] at later
    · refine ⟨⟨error, due, rfl⟩, written, ?_⟩
      simpa [changesUnder, Client.fail] using underway

theorem meets_fill (underway : Underway before path body made draft [] progress) :
    (body.fill draft).Meets (observed conditions) (fun result next =>
      match result with
      | .ok last => last = draft ∧ body.ending = .ok () ∧
        Underway before path body made draft body.content next
      | .error failure => (body.ending = .error failure ∨ Befallen conditions failure) ∧
        ∃ written, Underway before path body made draft written next) progress := by
  simp only [Body.fill, Operation.meets_bind, Operation.meets_ofExcept, Operation.meets_pure]
  apply (meets_writeAll body.chunks underway).mono
  intro result next done
  cases result with
  | error failure =>
    obtain ⟨befallen, underway⟩ := done
    exact ⟨.inr befallen, underway⟩
  | ok last =>
    obtain ⟨rfl, underway⟩ := done
    cases body.ending with
    | error failure => exact ⟨.inl rfl, _, underway⟩
    | ok _ => exact ⟨rfl, rfl, underway⟩

/-- Why a draft is given up: its body fails, or one of its requests, or there is something at its
target. -/
def Fails (before : Directory) (path : Text) (body : Body) (conditions : Conditions)
    (failure : Failure) : Prop :=
  body.ending = .error failure ∨ Befallen conditions failure ∨
    body.ending = .ok () ∧ (before.tree.node? (before.place path)).isSome ∧
      failure = .system (.coded .alreadyExists)

/-- How the creation of a record ends, and in which tree. -/
inductive Ended (before : Directory) (path : Text) (replication : Option Int) (body : Body)
    (conditions : Conditions) : Except Failure Unit → FileTree → Prop where
  | notBegun {failure : Failure} {tree : FileTree} :
      (before.create path replication).answer = .error failure ∨ Befallen conditions failure →
      Paves before.tree tree (before.place path) →
      Ended before path replication body conditions (.error failure) tree
  | abandoned {failure : Failure} {tree : FileTree} {draft : Draft} :
      (before.create path replication).answer = .ok draft →
      Fails before path body conditions failure →
      Paves before.tree tree (before.place path) →
      tree.locate (before.place path) =
        (tree.node? (before.place path)).elim (.error .noEntry) .ok →
      Ended before path replication body conditions (.error failure) tree
  | published {tree : FileTree} {draft : Draft} :
      (before.create path replication).answer = .ok draft → body.ending = .ok () →
      before.tree.node? (before.place path) = none →
      tree.locate (before.place path) = .ok (.file body.content 0o600) →
      (∀ place, place ≠ before.place path →
        PavedAt before.tree tree (before.place path) place) →
      Ended before path replication body conditions (.ok ()) tree

structure Concluded (before : Directory) (path : Text) (replication : Option Int) (body : Body)
    (conditions : Conditions) (result : Except Failure Unit) (progress : Progress) : Prop where
  base : progress.store.base = before.base
  passes : Passes (Intact before.tree (before.place path) body.content) before.tree
    progress.changes progress.store.tree
  ended : Ended before path replication body conditions result progress.store.tree

/-- Without its temporary file, a draft leaves nothing behind. -/
theorem Underway.abandon {failure : Failure}
    (underway : Underway before path body made draft written progress)
    (begun : (before.create path replication).answer = .ok draft)
    (fails : Fails before path body conditions failure) :
    Concluded before path replication body conditions (.error failure)
      ⟨{ progress.store with tree := progress.store.tree.remove draft.temporary },
        progress.changes ++ [.remove draft.temporary]⟩ := by
  have nodes := underway.drafted.node?_remove
  have paves := underway.paves.congr nodes
  have grown : made.Within (progress.store.tree.remove draft.temporary) :=
    fun place node found => (nodes place).trans found
  exact {
    base := underway.base
    passes := underway.passes.concat rfl (.of_paves paves)
    ended := .abandoned begun fails paves (underway.drafted.locate_target grown) }

/-- A draft that was written is published, unless something is at its target. -/
theorem Underway.publish
    (underway : Underway before path body made draft body.content progress)
    (begun : (before.create path replication).answer = .ok draft)
    (complete : body.ending = .ok ()) :
    Concluded before path replication body conditions
      (serve (.publish draft) progress.store).answer
      ⟨(serve (.publish draft) progress.store).state,
        progress.changes ++ changesOf (.publish draft) progress.store⟩ := by
  have linking := underway.drafted.link
  rw [underway.paves.at_target] at linking
  by_cases occupied : (before.tree.node? (before.place path)).isSome
  · rw [if_pos occupied] at linking
    simp only [serve, Directory.publish, changesOf, linking]
    exact underway.abandon begun (.inr (.inr ⟨complete, occupied, rfl⟩))
  · rw [if_neg occupied] at linking
    have absent : before.tree.node? (before.place path) = none := by simpa using occupied
    have vacant : made.node? (before.place path) = none :=
      underway.paves.at_target.trans absent
    have named : before.place path ≠ [] := by
      intro root
      simp [root, FileTree.node?] at absent
    have drafted : Intact before.tree (before.place path) body.content progress.store.tree :=
      .of_hasDraft underway.paves underway.drafted
    have linked : Intact before.tree (before.place path) body.content
        (progress.store.tree.put (before.place path) (.file body.content 0o600)) :=
      ⟨drafted.within.put absent _, .inr (FileTree.node?_put_self named)⟩
    have published := underway.drafted.published vacant
    have located := underway.drafted.locate_target (published.within vacant)
    rw [published, if_pos rfl] at located
    have elsewhere : ∀ place, place ≠ before.place path →
        PavedAt before.tree ((progress.store.tree.put (before.place path)
          (.file body.content 0o600)).remove draft.temporary) (before.place path) place := by
      intro place different
      rw [PavedAt, published, if_neg different]
      exact underway.paves place
    simp only [serve, Directory.publish, changesOf, linking]
    exact {
      base := underway.base
      passes := underway.passes.append (.cons drafted linking
        (.cons linked rfl (.nil (.of_published underway.paves vacant published))))
      ended := .published begun complete absent located elsewhere }

theorem Underway.meets_conclude
    (underway : Underway before path body made draft [] progress)
    (begun : (before.create path replication).answer = .ok draft) :
    ((body.fill draft).andThen (Operation.conclude draft)).Meets (observed conditions)
      (Concluded before path replication body conditions) progress := by
  apply Operation.meets_andThen.mpr
  apply (meets_fill underway).mono
  intro result progress filled
  cases result with
  | ok written =>
    obtain ⟨rfl, complete, underway⟩ := filled
    apply Operation.meets_publish.mpr
    refine ⟨trivial, ?_⟩
    intro answer next served
    rcases served_or_failed (by simp) served with ⟨rfl, rfl⟩ | ⟨error, due, rfl, rfl⟩
    · exact underway.publish begun complete
    · exact underway.abandon begun (.inr (.inl ⟨error, due, rfl⟩))
  | error failure =>
    obtain ⟨fails, written, underway⟩ := filled
    apply Operation.meets_bind.mpr
    refine Operation.meets_discard.mpr ⟨trivial, ?_⟩
    intro answer next served
    -- A draft is discarded even if that is said to fail.
    rcases served_or_failed (by simp) served with ⟨-, rfl⟩ | ⟨error, due, -, rfl⟩
    · exact underway.abandon begun (fails.imp_right .inl)
    · exact underway.abandon begun (fails.imp_right .inl)

theorem meets_creating (store : Directory) (path : Text) (replication : Option Int) (body : Body)
    (conditions : Conditions) :
    (Operation.creating path replication body).Meets (observed conditions)
      (Concluded store path replication body conditions) ⟨store, []⟩ := by
  have unchanged := Paves.refl store.tree (store.place path)
  have intact : ∀ tree, Paves store.tree tree (store.place path) →
      Intact store.tree (store.place path) body.content tree := fun _ => .of_paves
  obtain ⟨made, paves, passes, based, begins⟩ := store.create_cases path replication intact
  apply Operation.meets_bind.mpr
  refine Operation.meets_create.mpr ⟨trivial, ?_⟩
  intro answer next served
  rcases served_or_failed (by simp) served with ⟨rfl, rfl⟩ | ⟨error, due, rfl, rfl⟩
  · rcases begins with
      ⟨failure, failed, reached⟩ | ⟨draft, begun, -, -, drafted, creating⟩
    · have changes : changesOf (.create path replication) store =
          (store.parentsMade path).map .makeDirectory := by
        simp [changesOf, failed]
      simp only [serve, failed, changes, List.nil_append]
      exact {
        base := based
        passes := by rwa [reached]
        ended := .notBegun (.inl failed) (by rwa [reached]) }
    · have changes : changesOf (.create path replication) store =
          (store.parentsMade path).map .makeDirectory ++
            [.createFile draft.temporary 0o600] := by
        simp [changesOf, begun]
      simp only [serve, begun, changes, List.nil_append]
      have underway : Underway store path body made draft []
          ⟨(store.create path replication).state, (store.parentsMade path).map .makeDirectory ++
            [.createFile draft.temporary 0o600]⟩ := {
        base := based
        paves
        drafted
        passes := passes.concat creating (.of_hasDraft paves drafted) }
      exact underway.meets_conclude begun
  · exact {
      base := rfl
      passes := .nil (.of_paves unchanged)
      ended := .notBegun (.inr ⟨error, due, rfl⟩) unchanged }

theorem Ended.outcome {result : Except Failure Unit}
    (ended : Ended before path replication body conditions result tree) :
    result = body.outcome (before.create path replication).answer
        (before.tree.node? (before.place path)).isSome ∨
      ∃ failure, Befallen conditions failure ∧ result = .error failure := by
  cases ended with
  | notBegun blamed _ =>
    rcases blamed with failed | befallen
    · exact .inl (by rw [Body.outcome, failed]; rfl)
    · exact .inr ⟨_, befallen, rfl⟩
  | abandoned begun fails _ _ =>
    rcases fails with ending | befallen | ⟨complete, occupied, rfl⟩
    · exact .inl (by rw [Body.outcome, begun, ending]; rfl)
    · exact .inr ⟨_, befallen, rfl⟩
    · exact .inl (by rw [Body.outcome, begun, complete, occupied]; rfl)
  | published begun complete absent _ _ =>
    exact .inl (by rw [Body.outcome, begun, complete, absent]; rfl)

theorem Ended.openRecord (ended : Ended before path replication body conditions (.ok ()) tree) :
    openRecord { before with tree } path = .ok body.content := by
  cases ended with
  | published begun _ _ located _ =>
    obtain ⟨resolved, nameable⟩ := accepted_of_create begun
    exact openRecord_eq_ok_iff.mpr ⟨_, _, resolved, nameable, located⟩

/-- Creating a record either fails, as beginning it or its body does or because there is
something at its place, or because an error of the system befalls one of its requests; then there
is nothing new but directories on the way there. Or it succeeds; then there was nothing at the
place, there is the record with all that was written now, and besides it nothing new but such
directories. The changes to the tree can be made one after the other, and wherever they stop,
nothing that was there has changed, and at the place is what was there or all of the record. -/
theorem creating_is_atomic (store : Directory) (path : Text) (replication : Option Int)
    (body : Body) (conditions : Conditions) :
    let creation := Operation.creating path replication body
    let target := store.place path
    let result := (client.perform conditions creation store).1
    let after := (client.perform conditions creation store).2
    after.base = store.base ∧
      (result = body.outcome (store.create path replication).answer
          (store.tree.node? target).isSome ∨
        ∃ failure, Befallen conditions failure ∧ result = .error failure) ∧
      Passes (Intact store.tree target body.content) store.tree
        (journal conditions creation store) after.tree ∧
      match result with
      | .error _ => Paves store.tree after.tree target
      | .ok () =>
        store.tree.node? target = none ∧
          after.tree.node? target = some (.file body.content 0o600) ∧
          after.openRecord path = .ok body.content ∧
          ∀ place, place ≠ target → PavedAt store.tree after.tree target place := by
  intro creation target result after
  obtain ⟨based, passes, ended⟩ : Concluded store path replication body conditions result
      ⟨after, journal conditions creation store⟩ :=
    perform_observed (meets_creating store path replication body conditions)
  refine ⟨based, ended.outcome, passes, ?_⟩
  have opened : result = .ok () → after.openRecord path = .ok body.content := by
    intro succeeds
    have placed : after = { store with tree := after.tree } := congrArg (Directory.mk · _) based
    rw [placed]
    exact (succeeds ▸ ended).openRecord
  generalize result = result at ended opened ⊢
  cases ended with
  | notBegun _ paves => exact paves
  | abandoned _ _ paves _ => exact paves
  | published _ _ absent located elsewhere =>
    exact ⟨absent, FileTree.node?_of_locate located, opened rfl, elsewhere⟩

example :
    let temporary : Place := ["base", "keys", temporaryName "k" 0]
    journal ⟨fun _ _ => .ok [], []⟩ (Operation.creating "/keys/k" none ⟨[[1], [2]], .ok ()⟩)
        ⟨⟨.single, ["base"]⟩, .empty⟩ =
      [.makeDirectory ["base"], .makeDirectory ["base", "keys"], .createFile temporary 0o600,
        .append temporary [1], .append temporary [2],
        .link temporary ["base", "keys", "k"], .remove temporary] := by
  decide +kernel

end Storage.Directory

end KeyEnvelope
