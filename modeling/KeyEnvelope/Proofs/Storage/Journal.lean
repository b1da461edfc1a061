import KeyEnvelope.Proofs.Calls
import KeyEnvelope.Proofs.FileTree.Changes
import KeyEnvelope.Storage.Directory

/-!
# What is done to a directory, change by change

A request to a directory may take several changes to its tree: new records have their parents
made first, and publishing links a file before it removes another. The journal of an operation
holds the changes of all its requests, in the order in which they are made.
-/

namespace KeyEnvelope.Storage.Directory

open FileTree (Change)

/-- The directories that are made before the draft of a path. -/
def parentsMade (store : Directory) (path : Text) : List Place :=
  let checked := do
    let file ← resolve store.base path
    FileTree.checkNames file.names.dropLast
    return file
  match checked with
  | .error _ => []
  | .ok _ => store.tree.missing (store.place path).dropLast

def changesOf : Request Draft → Directory → List Change
  | .create path replication, store =>
    (store.parentsMade path).map .makeDirectory ++
      match (store.create path replication).answer with
      | .error _ => []
      | .ok draft => [.createFile draft.temporary 0o600]
  | .write draft chunk, _ => [.append draft.temporary chunk]
  | .publish draft, store =>
    match store.tree.link draft.temporary draft.target with
    | .error _ => [.remove draft.temporary]
    | .ok _ => [.link draft.temporary draft.target, .remove draft.temporary]
  | .discard draft, _ => [.remove draft.temporary]
  | _, _ => []

/-- A fault keeps a request from changing anything, but a draft is given up all the same. -/
def changesUnder : Option Disturbance → Request Draft → Directory → List Change
  | some (.fault _), .publish draft, _ => [.remove draft.temporary]
  | some (.fault _), .discard draft, _ => [.remove draft.temporary]
  | some (.fault _), _, _ => []
  | _, request, store => changesOf request store

def changesIn : Surroundings.Request Draft → Directory × List (Option Disturbance) → List Change
  | .storage request, (store, disturbances) => changesUnder disturbances.head?.join request store
  | .draw _ _, _ => []
  | .note _, _ => []

/-- The changes to the tree while an operation is performed. -/
def journal {α : Type} (conditions : Conditions) (operation : Operation Draft α)
    (store : Directory) : List Change :=
  operation.run.record (client.attend conditions.source) changesIn
    (store, conditions.disturbances)

/-- A store, and what was done to it so far. -/
structure Progress where
  store : Directory
  changes : List Change

/-- Any of the disturbances may befall any request. -/
def observed (conditions : Conditions) :
    Contract (Surroundings.interface Draft) Progress where
  permits _ := True
  serves
    | .storage request, progress, answer, next =>
      ∃ disturbance, (disturbance = none ∨ disturbance ∈ conditions.disturbances) ∧
        client.handleDisturbed disturbance request progress.store = (answer, next.store) ∧
        next.changes = progress.changes ++ changesUnder disturbance request progress.store
    | .draw generator count, progress, answer, next =>
      answer = conditions.source generator count ∧ next = progress
    | .note _, progress, _, next => next = progress

theorem perform_observed {conditions : Conditions} {α : Type}
    {goal : Except Failure α → Progress → Prop} {operation : Operation Draft α} {store : Directory}
    (meets : operation.Meets (observed conditions) goal ⟨store, []⟩) :
    goal (client.perform conditions operation store).1
      ⟨(client.perform conditions operation store).2, journal conditions operation store⟩ := by
  have keeps (request : Surroundings.Request Draft)
      (surroundings : Directory × List (Option Disturbance)) (done : List Change)
      (progress : Progress) (_ : (observed conditions).permits request)
      (related : progress = ⟨surroundings.1, done⟩ ∧
        surroundings.2 <:+ conditions.disturbances) :
      ∃ next, (observed conditions).serves request progress
        (client.attend conditions.source request surroundings).1 next ∧
        next = ⟨(client.attend conditions.source request surroundings).2.1,
          done ++ changesIn request surroundings⟩ ∧
        (client.attend conditions.source request surroundings).2.2 <:+
          conditions.disturbances := by
    obtain ⟨store, disturbances⟩ := surroundings
    obtain ⟨rfl, left⟩ := related
    refine ⟨_, ?_, rfl, ?_⟩
    · cases request with
      | storage request =>
        refine ⟨disturbances.head?.join, ?_, rfl, rfl⟩
        rcases disturbances with _ | ⟨disturbance, later⟩
        · exact .inl rfl
        · exact .inr (left.subset List.mem_cons_self)
      | draw generator count => exact ⟨rfl, by simp [changesIn, Client.attend]⟩
      | note event => simp [observed, changesIn, Client.attend]
    · cases request with
      | storage request => exact (List.tail_suffix disturbances).trans left
      | draw generator count => exact left
      | note event => exact left
  obtain ⟨next, met, same, -⟩ :=
    Procedure.Meets.record keeps (store, conditions.disturbances) ⟨rfl, List.suffix_rfl⟩ meets
  subst same
  exact met

/-- An error of the system that is due to befall a request. -/
def Befallen (conditions : Conditions) (failure : Failure) : Prop :=
  ∃ error, some (.fault error) ∈ conditions.disturbances ∧ failure = .system error

/-- Unless it asks whether a record is there, a request is served as ever or fails. -/
theorem served_or_failed {conditions : Conditions} {request : Request Draft}
    {progress next : Progress} {answer : Answer request} (asks : ∀ path, request ≠ .contains path)
    (served : (observed conditions).serves (.storage request) progress answer next) :
    (answer = (serve request progress.store).answer ∧
        next = ⟨(serve request progress.store).state,
          progress.changes ++ changesOf request progress.store⟩) ∨
      ∃ error, some (.fault error) ∈ conditions.disturbances ∧
        answer = (client.fail error request progress.store).1 ∧
        next = ⟨(client.fail error request progress.store).2,
          progress.changes ++ changesUnder (some (.fault error)) request progress.store⟩ := by
  obtain ⟨disturbance, due, handled, changes⟩ := served
  obtain ⟨store, done⟩ := next
  obtain rfl : done = _ := changes
  rcases disturbance with _ | error | _
  · obtain ⟨rfl, rfl⟩ := Prod.mk.inj handled
    exact .inl ⟨rfl, rfl⟩
  · obtain ⟨rfl, rfl⟩ := Prod.mk.inj handled
    exact .inr ⟨error, due.resolve_left (Option.some_ne_none _), rfl, rfl⟩
  · have seen : client.overlook request progress.store = client.handle request progress.store := by
      cases request with
      | contains path => exact absurd rfl (asks path)
      | _ => rfl
    obtain ⟨rfl, rfl⟩ := Prod.mk.inj (seen.symm.trans handled)
    refine .inl ⟨rfl, ?_⟩
    cases request <;> rfl

end KeyEnvelope.Storage.Directory
