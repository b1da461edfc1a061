import KeyEnvelope.Proofs.FileTree.Spelling
import KeyEnvelope.Proofs.Storage.Resolution
import KeyEnvelope.Proofs.Storage.TemporaryFile
import KeyEnvelope.Proofs.Translation

/-!
# Files come to be below the base directory

While a key is wrapped, all files that come to be are drafts for its key encryption key and what
is published of them. They are below the base directory, provided that the path to the key has a
name in it; without one, it is the base directory that is taken for the record.
-/

namespace KeyEnvelope

namespace FileTree

variable {before tree next final : FileTree} {allowed : Place → Prop} {place : Place}
  {change : Change} {changes : List Change}

/-- The change makes a directory, or is about a place that is allowed. -/
def Change.StaysIn (allowed : Place → Prop) (change : Change) : Prop :=
  (∃ place, change = .makeDirectory place) ∨ allowed change.place

/-- All files were there before or are in places that are allowed. -/
def FilesIn (allowed : Place → Prop) (before tree : FileTree) : Prop :=
  ∀ place content mode, tree.node? place = some (.file content mode) →
    before.node? place = some (.file content mode) ∨ allowed place

theorem FilesIn.changed (filesIn : FilesIn allowed before tree)
    (makes : tree.changed change = .ok next) (stays : change.StaysIn allowed) :
    FilesIn allowed before next := by
  intro place content mode found
  by_cases here : place = change.place
  · subst here
    rcases stays with ⟨directory, rfl⟩ | inside
    · have made : next.node? directory = some .directory := directory_of_changed makes
      rw [Change.place, made] at found
      cases found
    · exact .inr inside
  · rw [node?_changed makes here] at found
    exact filesIn place content mode found

theorem Passes.filesIn {through : FileTree → Prop} (passes : Passes through tree changes final)
    (stay : ∀ change ∈ changes, change.StaysIn allowed) (start : FilesIn allowed before tree) :
    Passes (FilesIn allowed before) tree changes final := by
  induction passes with
  | nil _ => exact .nil start
  | cons _ makes _ inductionHypothesis =>
    obtain ⟨stays, stay⟩ := List.forall_mem_cons.mp stay
    exact .cons start makes (inductionHypothesis stay (start.changed makes stays))

end FileTree

namespace Storage.Directory

open FilePath
open FileTree (Change Passes FilesIn)

variable {base : FilePath} {path name : Text} {place : Place} {store : Directory} {draft : Draft}
  {replication : Option Int} {disturbance : Option Disturbance}

theorem isName_temporaryName (number : Nat) (unbroken : .char '/' ∉ name.codes) :
    IsName (temporaryName name number) := by
  have spelled : (temporaryName name number).codes =
      [.char '.'] ++ name.codes ++ [.char '.'] ++ (drawn number).codes ++
        (".tmp" : Text).codes := rfl
  have long : 2 < (temporaryName name number).codes.length := by
    have suffix : (".tmp" : Text).codes.length = 4 := by decide
    simp only [spelled, List.length_append, suffix]
    omega
  have drawnUnbroken : .char '/' ∉ (drawn number).codes := by simp [drawn]
  exact {
    nonempty := fun same => absurd (same ▸ long) (by decide)
    notDot := fun same => absurd (same ▸ long) (by decide)
    notDots := fun same => absurd (same ▸ long) (by decide)
    unbroken := by
      have suffix : .char '/' ∉ (".tmp" : Text).codes := by decide
      simp [spelled, unbroken, drawnUnbroken, suffix] }

/-- From the base directory names lead on to the place, one at least. -/
def Below (base : FilePath) (place : Place) : Prop :=
  ∃ names, names ≠ [] ∧ (∀ name ∈ names, IsName name) ∧
    place = FileTree.placeOf base.names ++ names

/-- The place is that of the base directory, or of a temporary file for it. -/
def AtBase (base : FilePath) (place : Place) : Prop :=
  let target := FileTree.placeOf base.names
  place = target ∨
    ∃ number, place = target.dropLast ++ [temporaryName (target.getLast?.getD "") number]

/-- A record under the path, or a temporary file for it, may be in the place. -/
def Hosts (base : FilePath) (path : Text) (place : Place) : Prop :=
  Below base place ∨ namesOf path = [] ∧ AtBase base place

/-- The draft is for a record under the path. -/
def DraftsFor (base : FilePath) (path : Text) (draft : Draft) : Prop :=
  Hosts base path draft.target ∧ Hosts base path draft.temporary

/-- Unless a path leads back, it leads on by names, as the system has them. -/
theorem isName_of_mem_spelled (onward : (".." : Text) ∉ components path)
    (among : name ∈ (namesOf path).map FileTree.spelled) : IsName name := by
  obtain ⟨given, present, rfl⟩ := List.mem_map.mp among
  exact FileTree.isName_spelled (isName_of_mem_namesOf onward present)

theorem hosts_target (onward : (".." : Text) ∉ components path) :
    Hosts store.base path (store.place path) := by
  by_cases nameless : namesOf path = []
  · refine .inr ⟨nameless, .inl ?_⟩
    exact (congrArg (_ ++ List.map _ ·) nameless).trans (List.append_nil _)
  · exact .inl ⟨_, by simpa using nameless, fun _ => isName_of_mem_spelled onward, rfl⟩

theorem hosts_temporary (onward : (".." : Text) ∉ components path) (number : Nat) :
    let target := store.place path
    Hosts store.base path
      (target.dropLast ++ [temporaryName (target.getLast?.getD "") number]) := by
  intro target
  rcases List.eq_nil_or_concat' ((namesOf path).map FileTree.spelled) with
    nameless | ⟨init, last, split⟩
  · have target_eq : target = FileTree.placeOf store.base.names :=
      (congrArg (_ ++ ·) nameless).trans (List.append_nil _)
    rw [target_eq]
    exact .inr ⟨List.map_eq_nil_iff.mp nameless, .inr ⟨number, rfl⟩⟩
  · have valid : ∀ name ∈ init ++ [last], IsName name :=
      split ▸ fun _ => isName_of_mem_spelled onward
    have spelled : target = FileTree.placeOf store.base.names ++ init ++ [last] :=
      (congrArg (_ ++ ·) split).trans (List.append_assoc ..).symm
    refine .inl ⟨init ++ [temporaryName last number], by simp, ?_, ?_⟩
    · intro name among
      rcases List.mem_append.mp among with earlier | last
      · exact valid name (List.mem_append_left _ earlier)
      · rw [List.mem_singleton.mp last]
        exact isName_temporaryName number (valid _ (by simp)).unbroken
    · rw [spelled, List.dropLast_concat, List.getLast?_concat, List.append_assoc]
      rfl

theorem draftsFor_of_create (begun : (store.create path replication).answer = .ok draft) :
    DraftsFor store.base path draft := by
  obtain ⟨_, -, -, -, ⟨failure, failed, -⟩ | ⟨_, same, resolved, -, drafted, -⟩⟩ :=
    store.create_cases path replication fun _ _ => True.intro
  · rw [begun] at failed
    cases failed
  · obtain rfl := Except.ok.inj (begun.symm.trans same)
    have onward : (".." : Text) ∉ components path := by
      rw [← climbs_iff, (resolve_eq_ok_iff.mp resolved).1]
      exact Bool.false_ne_true
    obtain ⟨number, spelled⟩ := drafted.beside
    refine ⟨?_, ?_⟩
    · rw [drafted.aims]
      exact hosts_target onward
    · rw [spelled]
      exact hosts_temporary onward number

/-- What a request does to the tree of a directory is made of changes. -/
theorem passes_changesUnder (disturbance : Option Disturbance) (request : Request Draft)
    (store : Directory) :
    Passes (fun _ => True) store.tree (changesUnder disturbance request store)
      (client.handleDisturbed disturbance request store).2.tree := by
  have still (tree : FileTree) : Passes (fun _ => True) tree [] tree := .nil trivial
  have once {tree next : FileTree} {change : Change} (makes : tree.changed change = .ok next) :
      Passes (fun _ => True) tree [change] next := .cons trivial makes (.nil trivial)
  have served : Passes (fun _ => True) store.tree (changesOf request store)
      (serve request store).state.tree := by
    cases request with
    | create path replication =>
      obtain ⟨made, -, passes, -, ⟨failure, failed, reached⟩ | ⟨draft, begun, -, -, -, creating⟩⟩ :=
        store.create_cases path replication fun _ _ => True.intro
      · simp only [changesOf, failed, List.append_nil]
        rwa [← reached] at passes
      · simp only [changesOf, begun]
        exact passes.concat creating trivial
    | write draft chunk => exact once rfl
    | discard draft => exact once rfl
    | publish draft =>
      simp only [changesOf, serve, publish]
      cases linking : store.tree.link draft.temporary draft.target with
      | error code => exact once rfl
      | ok linked => exact .cons trivial linking (once rfl)
    | _ => exact still _
  rcases disturbance with _ | error | _
  · exact served
  · cases request with
    | publish draft => exact once rfl
    | discard draft => exact once rfl
    | _ => exact still _
  · cases request with
    | contains path => exact still _
    | _ => exact served

section Drafting

variable {request : Request Draft}
  (within : (Surroundings.Request.storage request).StaysWithin (DraftsFor store.base path))
  (begins : (Surroundings.Request.storage request).BeginsAt path)

include within begins

theorem staysIn_changesOf :
    ∀ change ∈ changesOf request store, change.StaysIn (Hosts store.base path) := by
  intro change among
  cases request with
  | create other replication =>
    obtain rfl : other = path := begins
    rcases List.mem_append.mp among with parent | file
    · obtain ⟨place, -, rfl⟩ := List.mem_map.mp parent
      exact .inl ⟨place, rfl⟩
    · split at file
      · cases file
      · rename_i draft begun
        obtain rfl := List.mem_singleton.mp file
        exact .inr (draftsFor_of_create begun).2
  | write draft chunk =>
    obtain rfl := List.mem_singleton.mp among
    exact .inr within.2
  | discard draft =>
    obtain rfl := List.mem_singleton.mp among
    exact .inr within.2
  | publish draft =>
    simp only [changesOf] at among
    split at among
    · obtain rfl := List.mem_singleton.mp among
      exact .inr within.2
    · rcases List.mem_pair.mp among with rfl | rfl
      · exact .inr within.1
      · exact .inr within.2
  | _ => cases among

theorem staysIn_changesUnder (disturbance : Option Disturbance) :
    ∀ change ∈ changesUnder disturbance request store,
      change.StaysIn (Hosts store.base path) := by
  have served := staysIn_changesOf within begins
  rcases disturbance with _ | error | _
  · exact served
  · intro change among
    cases request with
    | publish draft =>
      obtain rfl := List.mem_singleton.mp among
      exact .inr within.2
    | discard draft =>
      obtain rfl := List.mem_singleton.mp among
      exact .inr within.2
    | _ => cases among
  · exact served

theorem handsOut_handleDisturbed (disturbance : Option Disturbance) :
    Surroundings.HandsOut (DraftsFor store.base path) (.storage request)
      (client.handleDisturbed disturbance request store).1 := by
  have served : Surroundings.HandsOut (DraftsFor store.base path) (.storage request)
      (serve request store).answer := by
    cases request with
    | create other replication =>
      obtain rfl : other = path := begins
      cases begun : (store.create other replication).answer with
      | error failure => simp [serve, begun, Surroundings.HandsOut]
      | ok draft => simpa [serve, begun, Surroundings.HandsOut] using draftsFor_of_create begun
    | write draft chunk => exact within
    | _ => trivial
  rcases disturbance with _ | error | _
  · exact served
  · cases request <;> trivial
  · cases request with
    | contains path => trivial
    | _ => exact served

end Drafting

/-- What was done so far has led from one directory to the other, and files have come to be only
where drafts for the path may be. -/
structure Confined (before : Directory) (path : Text) (store : Directory) (done : List Change) :
    Prop where
  base : store.base = before.base
  passes : Passes (FilesIn (Hosts before.base path) before.tree) before.tree done store.tree

theorem Confined.refl (store : Directory) (path : Text) : Confined store path store [] :=
  ⟨rfl, .nil fun _ _ _ => .inl⟩

theorem Confined.handleDisturbed {before : Directory} {done : List Change}
    {request : Request Draft} (confined : Confined before path store done)
    (within : (Surroundings.Request.storage request).StaysWithin (DraftsFor store.base path))
    (begins : (Surroundings.Request.storage request).BeginsAt path)
    (disturbance : Option Disturbance) :
    Confined before path (client.handleDisturbed disturbance request store).2
      (done ++ changesUnder disturbance request store) where
  base := (base_handleDisturbed disturbance request store).trans confined.base
  passes := by
    have stay := staysIn_changesUnder within begins disturbance
    rw [confined.base] at stay
    exact confined.passes.append
      ((passes_changesUnder disturbance request store).filesIn stay confined.passes.last)

/-- An operation that begins drafts for a path only, and asks about no others, is confined to where
these may be. -/
theorem confined_perform {α : Type} {operation : Operation Draft α}
    (careful : operation.IsCareful (DraftsFor store.base path))
    (begins : operation.BeginsOnly path) (conditions : Conditions) :
    Confined store path (client.perform conditions operation store).2
      (journal conditions operation store) := by
  have keeps (request : Surroundings.Request Draft)
      (surroundings : Directory × List (Option Disturbance)) (done : List Change) (ghost : Unit)
      (permitted : request.StaysWithin (DraftsFor store.base path) ∧ request.BeginsAt path)
      (confined : Confined store path surroundings.1 done) :
      ∃ _ : Unit, Surroundings.HandsOut (DraftsFor store.base path) request
          (client.attend conditions.source request surroundings).1 ∧
        Confined store path (client.attend conditions.source request surroundings).2.1
          (done ++ changesIn request surroundings) := by
    obtain ⟨reached, disturbances⟩ := surroundings
    refine ⟨(), ?_⟩
    cases request with
    | draw generator count => exact ⟨trivial, by simpa [changesIn, Client.attend] using confined⟩
    | note event => exact ⟨trivial, by simpa [changesIn, Client.attend] using confined⟩
    | storage request =>
      obtain ⟨within, starts⟩ := permitted
      rw [← confined.base] at within ⊢
      exact ⟨handsOut_handleDisturbed within starts _,
        confined.handleDisturbed within starts _⟩
  obtain ⟨_, -, confined⟩ := Procedure.Meets.record keeps (store, conditions.disturbances)
    (.refl store path) (Procedure.Meets.restrict careful begins)
  exact confined

/-- While a key is wrapped, whatever befalls the requests to the store, a file is at no time in the
tree that was not there before, unless it is below the base directory. Only if there is no name in
the path to the key, the base directory is taken for the record, and a temporary file is put beside
it. -/
theorem wraps_below_base (registry : KeyWrap.Registry) (parameters : Parameters)
    (conditions : Conditions) (store : Directory) :
    let wrapping := (Strategy.enveloping registry).encrypt parameters
    Passes (fun tree => ∀ place content mode, tree.node? place = some (.file content mode) →
        store.tree.node? place = some (.file content mode) ∨ Below store.base place ∨
        AtBase store.base place ∧
          ∃ path, Strategy.keyPath parameters = .ok path ∧ namesOf path = [])
      store.tree (journal conditions wrapping store)
      (client.perform conditions wrapping store).2.tree := by
  intro wrapping
  cases located : Strategy.keyPath parameters with
  | error failure =>
    have ends : wrapping = throw failure := Strategy.wrap_of_keyPath_eq_error located
    rw [ends]
    exact .nil fun _ _ _ => .inl
  | ok path =>
    have confined : Confined store path (client.perform conditions wrapping store).2
        (journal conditions wrapping store) :=
      confined_perform (Strategy.wrap_isCareful registry parameters)
        (Strategy.wrap_beginsOnly located) conditions
    apply confined.passes.mono
    intro tree filesIn place content mode found
    rcases filesIn place content mode found with earlier | below | ⟨nameless, atBase⟩
    · exact .inl earlier
    · exact .inr (.inl below)
    · exact .inr (.inr ⟨atBase, path, rfl, nameless⟩)

/-- There is nothing yet, not even the base directory. -/
def unfounded : Directory :=
  ⟨⟨.single, ["base"]⟩, .empty⟩

/-- A key location without a name in it, in a store directory without one. -/
def nameless : Parameters :=
  { Parameters.sample with
    suite := some "AESWrap"
    options := [("instance.store.dir", ""), ("crypto.default.key.strategy.key.location", "/")] }

/-- Without a name in its path, the key encryption key is put in the place of the base directory. -/
theorem not_below_base_if_nameless :
    (client.perform ⟨Randomness.zeros, []⟩ ((Strategy.enveloping .builtIn).encrypt nameless)
        unfounded).2.tree.node? ["base"] =
        some (.file (KeyRecord.encode (List.replicate 16 0)) 0o600) ∧
      unfounded.tree.node? ["base"] = none ∧ ¬Below unfounded.base ["base"] := by
  refine ⟨by decide +kernel, rfl, ?_⟩
  rintro ⟨names, nonempty, -, same⟩
  exact nonempty (List.cons_eq_cons.mp same).2.symm

end Storage.Directory

end KeyEnvelope
