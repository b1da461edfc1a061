import KeyEnvelope.Proofs.KeyStore.Refusals
import KeyEnvelope.Proofs.Storage.Service

/-!
# What stores refuse

Memory refuses no path. A directory refuses those that climb out of it, whatever else is
in the way; and no error of the system passes for a refusal.
-/

namespace KeyEnvelope

namespace FileTree

theorem not_misconfigured_checkNames (names : List Text) : ¬Misconfigured (checkNames names) := by
  unfold checkNames nameFault?
  split
  · rename_i failure found
    split at found
    · simp [← Option.some.inj found]
    · split at found
      · simp [← Option.some.inj found]
      · cases found
  · simp

theorem not_misconfigured_coded {α : Type} (result : Except ErrorCode α) :
    ¬Misconfigured (coded result) := by
  cases result <;> simp [coded]

end FileTree

namespace Storage

theorem not_misconfigured_checkCount (count : Int) : ¬Misconfigured (checkCount count) := by
  simp only [checkCount]
  split <;> simp

theorem Memory.consistent_serve (request : Request Draft) (memory : Memory) :
    Surroundings.Consistent (fun _ => False) (.storage request) (serve request memory).answer := by
  cases request with
  | contains path => exact fun _ _ => id
  | create path replication => exact not_misconfigured_ok _
  | write draft chunk => exact not_misconfigured_ok _
  | publish draft =>
    show ¬Misconfigured (memory.publish draft).1
    unfold publish
    split <;> simp
  | discard draft => trivial
  | openRecord path =>
    show ¬Misconfigured (memory.openRecord path)
    unfold openRecord
    split <;> simp
  | read reader count =>
    exact not_misconfigured_bind (not_misconfigured_checkCount count) fun _ =>
      not_misconfigured_ok _

namespace Directory

/-- Paths that climb are the only ones that a directory refuses. -/
def Refuses (path : Text) : Prop :=
  (FilePath.ofText path).climbs = true

theorem not_misconfigured_makeParents (tree : FileTree) (path : Text) (target : Place) :
    ¬Misconfigured (makeParents tree path target).1 := by
  unfold makeParents
  split
  · simp
  · exact FileTree.not_misconfigured_coded _

theorem not_misconfigured_createTemporary (tree : FileTree) (names : List Text) (target : Place) :
    ¬Misconfigured (createTemporary tree names target) := by
  apply not_misconfigured_bind (FileTree.not_misconfigured_checkNames names)
  intro _
  cases temporaryPlace? tree target with
  | none => simp
  | some temporary =>
    exact not_misconfigured_bind (FileTree.not_misconfigured_coded _) fun _ =>
      not_misconfigured_ok _

/-- Once a path is resolved, it is not refused any more. -/
theorem refuses_of_resolve_bind {α : Type} {base : FilePath} {path : Text}
    {next : FilePath → Except Failure α} (blameless : ∀ file, ¬Misconfigured (next file))
    (misconfigured : Misconfigured (resolve base path >>= next)) : Refuses path := by
  by_contra accepted
  have resolved : resolve base path = .ok (base.below (FilePath.ofText path).names) :=
    resolve_eq_ok_iff.mpr ⟨by simpa [Refuses] using accepted, rfl⟩
  rw [resolved] at misconfigured
  exact blameless _ misconfigured

theorem create_answer (store : Directory) (path : Text) (replication : Option Int) :
    (store.create path replication).answer = (do
      let file ← resolve store.base path
      FileTree.checkNames file.names.dropLast
      let parents := makeParents store.tree path (store.place path)
      parents.1
      let created ← createTemporary parents.2 file.names (store.place path)
      return created.1) := by
  unfold create
  cases resolve store.base path with
  | error failure => rfl
  | ok file =>
    simp only [Checks.ok_bind]
    cases FileTree.checkNames file.names.dropLast with
    | error failure => rfl
    | ok _ =>
      simp only [Checks.ok_bind, Checks.pure_eq_ok]
      cases making : makeParents store.tree path (store.place path) with
      | mk result tree =>
        cases result with
        | error failure => simp [Served.quiet]
        | ok _ =>
          cases creating : createTemporary tree file.names (store.place path) <;> simp [creating]

theorem refuses_of_create {store : Directory} {path : Text} {replication : Option Int}
    (misconfigured : Misconfigured (store.create path replication).answer) : Refuses path := by
  rw [create_answer] at misconfigured
  apply refuses_of_resolve_bind _ misconfigured
  intro file
  apply not_misconfigured_bind (FileTree.not_misconfigured_checkNames _)
  intro _
  apply not_misconfigured_bind (not_misconfigured_makeParents _ _ _)
  intro _
  apply not_misconfigured_bind (not_misconfigured_createTemporary _ _ _)
  intro created
  exact not_misconfigured_ok created.1

theorem not_misconfigured_publish (tree : FileTree) (draft : Draft) :
    ¬Misconfigured (publish tree draft).1 := by
  unfold publish
  split <;> simp

theorem refuses_of_openRecord {store : Directory} {path : Text}
    (misconfigured : Misconfigured (store.openRecord path)) : Refuses path := by
  apply refuses_of_resolve_bind _ misconfigured
  intro file
  exact not_misconfigured_bind (FileTree.not_misconfigured_checkNames _) fun _ =>
    FileTree.not_misconfigured_coded _

theorem not_refuses_of_contains {store : Directory} {path : Text} {found : Bool}
    (answered : store.contains path = .ok found) : ¬Refuses path := by
  simp only [contains, Checks.bind_eq_ok_iff] at answered
  obtain ⟨file, resolved, -⟩ := answered
  simp [Refuses, (resolve_eq_ok_iff.mp resolved).1]

theorem not_misconfigured_read (reader : Reader) (count : Int) :
    ¬Misconfigured (read reader count) := by
  apply not_misconfigured_bind (not_misconfigured_checkCount count)
  intro _
  split <;> simp

theorem consistent_serve (request : Request Draft) (store : Directory) :
    Surroundings.Consistent Refuses (.storage request) (serve request store).answer := by
  cases request with
  | contains path => exact fun _ => not_refuses_of_contains
  | create path replication => exact refuses_of_create
  | write draft chunk => exact not_misconfigured_ok _
  | publish draft => exact not_misconfigured_publish store.tree draft
  | discard draft => trivial
  | openRecord path => exact refuses_of_openRecord
  | read reader count => exact not_misconfigured_read reader count

end Directory

/-- The paths that a store refuses for their form. -/
def Location.Refuses : Location → Text → Prop
  | .memory, _ => False
  | .directory _, path => Directory.Refuses path

theorem Location.consistent_serve (location : Location) (request : Request location.client.Draft)
    (state : location.client.State) :
    Surroundings.Consistent location.Refuses (.storage request)
      (location.client.serve request state).answer := by
  cases location with
  | memory => exact Memory.consistent_serve request state
  | directory base => exact Directory.consistent_serve request state

/-- An error of the system is never laid to the configuration. -/
theorem Client.consistent_fail (client : Client) (refused : Text → Prop) (error : SystemError)
    (request : Request client.Draft) (state : client.State) :
    Surroundings.Consistent refused (.storage request) (client.fail error request state).1 := by
  cases request <;> simp [Client.fail, Surroundings.Consistent]

end Storage

/-- Some of the requests to the store fail with errors of the system. -/
def Conditions.failing (source : Randomness.Source) (faults : List (Option SystemError)) :
    Conditions :=
  ⟨source, faults.map (Option.map .fault)⟩

namespace Storage.Location

variable {source : Randomness.Source}

/-- What holds of an operation in all consistent surroundings holds of it in a store, with
the requests that it made. -/
theorem perform_refusing (location : Location)
    (sound : ∀ generator count, ¬Misconfigured (source generator count)) {α : Type}
    {operation : Operation location.client.Draft α}
    {goal : Except Failure α → List (Surroundings.Request location.client.Draft) → Prop}
    (meets : operation.Meets (Surroundings.refusing location.Refuses) goal [])
    (faults : List (Option SystemError)) (state : location.client.State) :
    goal (location.client.perform (.failing source faults) operation state).1
      ((location.client.exchanges (.failing source faults) operation.run state).map Sigma.fst) := by
  -- Along the run, all that is left to befall requests are faults: an oversight could pass
  -- over a refusal.
  have served (request : Surroundings.Request location.client.Draft)
      (surroundings : location.client.State × List (Option Disturbance))
      (asked : List (Surroundings.Request location.client.Draft))
      (_ : (Surroundings.refusing location.Refuses).permits request)
      (failing : ∃ faults : List (Option SystemError),
        surroundings.2 = faults.map (Option.map .fault)) :
      ∃ next, (Surroundings.refusing location.Refuses).serves request asked
        (location.client.attend source request surroundings).1 next ∧
        ∃ faults : List (Option SystemError),
          (location.client.attend source request surroundings).2.2 =
            faults.map (Option.map .fault) := by
    obtain ⟨state, disturbances⟩ := surroundings
    obtain ⟨faults, rfl⟩ := failing
    refine ⟨asked ++ [request], ⟨?_, rfl⟩, ?_⟩
    · cases request with
      | draw generator count => exact sound generator count
      | note event => trivial
      | storage request =>
        rcases faults with _ | ⟨_ | error, later⟩
        · exact location.consistent_serve request state
        · exact location.consistent_serve request state
        · exact location.client.consistent_fail _ error request state
    · cases request with
      | draw generator count => exact ⟨faults, rfl⟩
      | note event => exact ⟨faults, rfl⟩
      | storage request => exact ⟨faults.tail, List.map_tail.symm⟩
  obtain ⟨asked, follows, met⟩ :=
    Procedure.Meets.trace served (state, faults.map (Option.map .fault)) ⟨faults, rfl⟩ meets
  obtain rfl := Surroundings.asked_of_follows follows
  exact met

end Storage.Location

end KeyEnvelope
