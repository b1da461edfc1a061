import KeyEnvelope.Proofs.Decryption

/-!
# How drafts become records

While a record is drafted, nothing can be found in a store that could not be found before.
Once its draft is published there is one record more, with all that was written into the
draft; and a draft that is given up leaves nothing behind.
-/

namespace KeyEnvelope.Storage

/-- What there is to find in a store. -/
structure Contents (client : Client) where
  Has : client.State → Text → Bytes → Prop
  /-- The paths lead to the same record. -/
  Same : Text → Text → Prop
  has_of_opened {state : client.State} {path : Text} {data : Bytes} :
    Custody.Holds client path data state → Has state path data

namespace Contents

variable {client : Client} (contents : Contents client)

/-- Nothing is found in the second state that was not in the first. -/
def Settled (before after : client.State) : Prop :=
  ∀ path data, contents.Has after path data → contents.Has before path data

/-- Nothing is found in the second state that was not in the first, but for a record with
the data at the path. -/
def Adds (path : Text) (data : Bytes) (before after : client.State) : Prop :=
  ∀ other found, contents.Has after other found →
    contents.Has before other found ∨ contents.Same path other ∧ found = data

end Contents

/-- What there is to rely on in a store while a record is drafted in it. -/
structure Drafting (client : Client) extends Contents client where
  /-- All that has come since the first state is one draft, for the path and with the
  content. It began as the first draft and has become the second one. -/
  Pending : (before : client.State) → client.Draft → client.Draft → Text → Bytes →
    client.State → Prop
  created {before : client.State} {path : Text} {replication : Option Int}
      {draft : client.Draft} :
    (client.serve (.create path replication) before).answer = .ok draft →
      Pending before draft draft path [] (client.serve (.create path replication) before).state
  notCreated {before : client.State} {path : Text} {replication : Option Int}
      {failure : Failure} :
    (client.serve (.create path replication) before).answer = .error failure →
      toContents.Settled before (client.serve (.create path replication) before).state
  written {before state : client.State} {origin draft written : client.Draft} {path : Text}
      {content chunk : Bytes} :
    Pending before origin draft path content state →
      (client.serve (.write draft chunk) state).answer = .ok written →
      Pending before origin written path (content ++ chunk)
        (client.serve (.write draft chunk) state).state
  notWritten {before state : client.State} {origin draft : client.Draft} {path : Text}
      {content chunk : Bytes} {failure : Failure} :
    Pending before origin draft path content state →
      (client.serve (.write draft chunk) state).answer = .error failure →
      ∃ left, Pending before origin draft path left (client.serve (.write draft chunk) state).state
  published {before state : client.State} {origin draft : client.Draft} {path : Text}
      {content : Bytes} :
    Pending before origin draft path content state →
      (client.serve (.publish draft) state).answer = .ok () →
      toContents.Adds path content before (client.serve (.publish draft) state).state
  notPublished {before state : client.State} {origin draft : client.Draft} {path : Text}
      {content : Bytes} {failure : Failure} :
    Pending before origin draft path content state →
      (client.serve (.publish draft) state).answer = .error failure →
      toContents.Settled before (client.serve (.publish draft) state).state
  discarded {before state : client.State} {origin draft given : client.Draft} {path : Text}
      {content : Bytes} :
    Pending before origin draft path content state → given = origin ∨ given = draft →
      toContents.Settled before (client.serve (.discard given) state).state

namespace Memory

def contents : Contents client where
  Has memory path data := ∃ replication, memory.record? path = some ⟨data, replication⟩
  Same := Eq
  has_of_opened := openRecord_eq_ok_iff.mp

variable {before memory : Memory} {draft : Draft} {path : Text}

theorem settled_of_records_eq (same : memory.records = before.records) :
    contents.Settled before memory := by
  rintro path data ⟨replication, found⟩
  exact ⟨replication, by rwa [record?, ← same]⟩

theorem adds_publish (same : memory.records = before.records)
    (publishes : (memory.publish draft).1 = .ok ()) :
    contents.Adds draft.path draft.content before (memory.publish draft).2 := by
  cases present : memory.record? draft.path with
  | some record => simp [publish_of_present present] at publishes
  | none =>
    rintro other data ⟨replication, found⟩
    rw [publish_of_absent present] at found
    by_cases elsewhere : other = draft.path
    · subst elsewhere
      rw [record?_put_self] at found
      exact .inr ⟨rfl, (congrArg MemoryRecord.data (Option.some.inj found)).symm⟩
    · have kept : memory.record? other = some ⟨data, replication⟩ :=
        (Assoc.get?_set_of_ne elsewhere).symm.trans found
      exact .inl (settled_of_records_eq same other data ⟨replication, kept⟩)

theorem records_publish_of_error {failure : Failure}
    (fails : (memory.publish draft).1 = .error failure) :
    (memory.publish draft).2.records = memory.records := by
  cases present : memory.record? draft.path with
  | some record => rw [publish_of_present present]
  | none => simp [publish_of_absent present] at fails

def drafting : Drafting client where
  toContents := contents
  Pending before _ draft path content memory :=
    draft.path = path ∧ draft.content = content ∧ memory.records = before.records
  created := by
    rintro before path replication draft ⟨⟩
    exact ⟨rfl, rfl, rfl⟩
  notCreated := by
    rintro before path replication failure ⟨⟩
  written := by
    rintro before memory origin draft _ path content chunk ⟨rfl, rfl, same⟩ ⟨⟩
    exact ⟨rfl, rfl, same⟩
  notWritten := by
    rintro before memory origin draft path content chunk failure _ ⟨⟩
  published := by
    rintro before memory origin draft path content ⟨rfl, rfl, same⟩ publishes
    exact adds_publish same publishes
  notPublished := by
    rintro before memory origin draft path content failure ⟨rfl, rfl, same⟩ fails
    exact settled_of_records_eq ((records_publish_of_error fails).trans same)
  discarded := by
    rintro before memory origin draft given path content ⟨-, -, same⟩ _
    exact settled_of_records_eq same

end Memory

namespace Directory

variable {before store : Directory} {draft : Draft} {path : Text} {content : Bytes}

def contents : Contents client where
  Has store path data := ∃ mode, store.tree.node? (store.place path) = some (.file data mode)
  Same path other := (FilePath.namesOf path).map FileTree.spelled =
    (FilePath.namesOf other).map FileTree.spelled
  has_of_opened := by
    intro store path data opened
    obtain ⟨file, mode, resolved, -, located⟩ := openRecord_eq_ok_iff.mp opened
    obtain ⟨-, rfl⟩ := resolve_eq_ok_iff.mp resolved
    exact ⟨mode, FileTree.node?_of_locate located⟩

/-- The draft is a file with the content, in a temporary place; all other files were there
before. -/
structure Pending (before : Directory) (draft : Draft) (path : Text) (content : Bytes)
    (store : Directory) : Prop where
  base : store.base = before.base
  target : draft.target = before.place path
  named : draft.temporary ≠ []
  file : ∃ mode, store.tree.node? draft.temporary = some (.file content mode)
  others : ∀ place found mode, place ≠ draft.temporary →
    store.tree.node? place = some (.file found mode) →
      before.tree.node? place = some (.file found mode)

theorem settled_of_noNewFile {tree : FileTree} (base : store.base = before.base)
    (noNew : before.tree.NoNewFile tree) : contents.Settled before { store with tree } := by
  rintro path data ⟨mode, found⟩
  rw [place_withTree, place_of_base_eq base] at found
  exact ⟨mode, noNew _ _ _ found⟩

theorem noNewFile_makeParents (tree : FileTree) (path : Text) (target : Place) :
    tree.NoNewFile (makeParents tree path target).2 := by
  have made := (FileTree.NoNewFile.refl tree).makeDirectories target.dropLast
  unfold makeParents
  split
  · rename_i making
    simpa [making] using made
  · rename_i making
    simpa [making] using made

theorem pending_createTemporary {tree created : FileTree} {names : List Text}
    (noNew : before.tree.NoNewFile tree)
    (creates : createTemporary tree names (before.place path) = .ok (draft, created)) :
    Pending before draft path [] { before with tree := created } := by
  simp only [createTemporary, Checks.bind_eq_ok_iff] at creates
  obtain ⟨-, -, creates⟩ := creates
  cases free : temporaryPlace? tree (before.place path) with
  | none => simp [free] at creates
  | some temporary =>
    have named : temporary ≠ [] := by
      obtain ⟨number, -, rfl⟩ := List.mem_map.mp (List.mem_of_find?_eq_some free)
      simp
    simp only [free, Checks.bind_eq_ok_iff, Checks.pure_eq_ok, Except.ok.injEq,
      Prod.mk.injEq] at creates
    obtain ⟨made, making, rfl, rfl⟩ := creates
    cases file : tree.createFile temporary 0o600 with
    | error code => simp [file, FileTree.coded] at making
    | ok found =>
      obtain rfl : found = made := by simpa [file, FileTree.coded] using making
      simp only [FileTree.createFile, Checks.bind_eq_ok_iff, Checks.pure_eq_ok,
        Except.ok.injEq] at file
      obtain ⟨-, -, rfl⟩ := file
      refine ⟨rfl, rfl, named, ⟨_, FileTree.node?_put_self named⟩, ?_⟩
      intro place content mode elsewhere found
      rw [FileTree.node?_put_of_ne elsewhere] at found
      exact noNew place content mode found

theorem create_drafts (store : Directory) (path : Text) (replication : Option Int) :
    (∀ draft, (store.create path replication).answer = .ok draft →
      Pending store draft path [] (store.create path replication).state) ∧
    ∀ failure, (store.create path replication).answer = .error failure →
      contents.Settled store (store.create path replication).state := by
  unfold create
  dsimp only
  split
  · refine ⟨?_, fun _ _ _ _ => id⟩
    rintro _ ⟨⟩
  · rename_i file _
    have noNew := noNewFile_makeParents store.tree path (store.place path)
    split
    · rename_i making
      rw [making] at noNew
      refine ⟨?_, fun _ _ => settled_of_noNewFile rfl noNew⟩
      rintro _ ⟨⟩
    · rename_i tree making
      rw [making] at noNew
      split
      · refine ⟨?_, fun _ _ => settled_of_noNewFile rfl noNew⟩
        rintro _ ⟨⟩
      · rename_i draft created creates
        refine ⟨?_, by simp⟩
        rintro _ ⟨⟩
        exact pending_createTemporary noNew creates

theorem Pending.append (pending : Pending before draft path content store) (chunk : Bytes) :
    Pending before draft path (content ++ chunk)
      { store with tree := store.tree.append draft.temporary chunk } := by
  obtain ⟨mode, found⟩ := pending.file
  simp only [FileTree.append, found]
  refine ⟨pending.base, pending.target, pending.named,
    ⟨mode, FileTree.node?_put_self pending.named⟩, ?_⟩
  intro place content mode elsewhere found
  rw [FileTree.node?_put_of_ne elsewhere] at found
  exact pending.others place content mode elsewhere found

theorem Pending.remove (pending : Pending before draft path content store) :
    contents.Settled before { store with tree := store.tree.remove draft.temporary } := by
  apply settled_of_noNewFile pending.base
  intro place content mode found
  by_cases same : place = draft.temporary
  · simp [same, FileTree.node?_remove_self pending.named] at found
  · rw [FileTree.node?_remove_of_ne same] at found
    exact pending.others place content mode same found

theorem Pending.notPublished (pending : Pending before draft path content store)
    {failure : Failure} (fails : (publish store.tree draft).1 = .error failure) :
    contents.Settled before { store with tree := (publish store.tree draft).2 } := by
  unfold publish at fails ⊢
  cases linking : store.tree.link draft.temporary draft.target with
  | error code => exact pending.remove
  | ok linked => simp [linking] at fails

theorem Pending.published (pending : Pending before draft path content store)
    (publishes : (publish store.tree draft).1 = .ok ()) :
    contents.Adds path content before
      { store with tree := (publish store.tree draft).2 } := by
  unfold publish at publishes ⊢
  cases linking : store.tree.link draft.temporary draft.target with
  | error code => simp [linking] at publishes
  | ok linked =>
    simp only [FileTree.link, Checks.bind_eq_ok_iff, Checks.pure_eq_ok, Except.ok.injEq] at linking
    obtain ⟨node, located, _, vacant, rfl⟩ := linking
    obtain ⟨mode, file⟩ := pending.file
    obtain rfl : node = .file content mode :=
      Option.some.inj ((FileTree.node?_of_locate located).symm.trans file)
    rintro other data ⟨otherMode, found⟩
    rw [place_withTree, place_of_base_eq pending.base] at found
    -- The temporary place is empty now; of the others, only the target was not there before.
    by_cases temporary : before.place other = draft.temporary
    · simp [temporary, FileTree.node?_remove_self pending.named] at found
    · rw [FileTree.node?_remove_of_ne temporary] at found
      by_cases target : before.place other = draft.target
      · have named : draft.target ≠ [] := by
          intro root
          simp [FileTree.checkVacant, root] at vacant
        rw [target, FileTree.node?_put_self named] at found
        simp only [Option.some.injEq, FileNode.file.injEq] at found
        refine .inr ⟨?_, found.1.symm⟩
        exact List.append_cancel_left (pending.target.symm.trans target.symm)
      · rw [FileTree.node?_put_of_ne target] at found
        exact .inl ⟨otherMode, pending.others _ _ _ temporary found⟩

def drafting : Drafting client where
  toContents := contents
  Pending before origin draft path content store :=
    origin = draft ∧ Pending before draft path content store
  created answered := ⟨rfl, (create_drafts _ _ _).1 _ answered⟩
  notCreated := (create_drafts _ _ _).2 _
  written := by
    rintro before store origin draft _ path content chunk ⟨rfl, pending⟩ ⟨⟩
    exact ⟨rfl, pending.append chunk⟩
  notWritten := by
    rintro before store origin draft path content chunk failure _ ⟨⟩
  published pending publishes := pending.2.published publishes
  notPublished pending fails := pending.2.notPublished fails
  discarded := by
    rintro before store origin draft given path content ⟨rfl, pending⟩ (rfl | rfl)
    · exact pending.remove
    · exact pending.remove

end Directory

def Location.drafting : (location : Location) → Drafting location.client
  | .memory => Memory.drafting
  | .directory _ => Directory.drafting

end KeyEnvelope.Storage
