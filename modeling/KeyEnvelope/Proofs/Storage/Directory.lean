import KeyEnvelope.Proofs.FileTree
import KeyEnvelope.Proofs.Storage.Custody
import KeyEnvelope.Storage.Directory

/-!
# A directory keeps its files

A draft is written where there was nothing, and published where there is nothing.
Nothing that was in the tree is touched, so that a record is read as before.
-/

namespace KeyEnvelope.Storage.Directory

variable {before store : Directory} {draft : Draft} {path : Text} {data : Bytes}

/-- Where a record is does not depend on the tree. -/
theorem place_of_base_eq (based : store.base = before.base) (path : Text) :
    store.place path = before.place path := by
  rw [place, place, based]

/-- The directory is in the same place, in a tree that has everything the earlier
one had. -/
structure Keeps (before store : Directory) : Prop where
  base : store.base = before.base
  tree : before.tree.Within store.tree

def Fresh (before : Directory) (draft : Draft) : Prop :=
  before.tree.node? draft.temporary = none

theorem Keeps.withTree (keeps : Keeps before store) {tree : FileTree}
    (within : before.tree.Within tree) :
    Keeps before { store with tree } :=
  ⟨keeps.base, within⟩

theorem within_makeParents {before tree : FileTree} (within : before.Within tree) (path : Text)
    (target : Place) :
    before.Within (makeParents tree path target).2 := by
  have made := within.makeDirectories target.dropLast
  unfold makeParents
  split
  · rename_i making
    simpa [making] using made
  · rename_i making
    simpa [making] using made

theorem createTemporary_spec {before tree created : FileTree} {names : List Text} {target : Place}
    (within : before.Within tree)
    (creates : createTemporary tree names target = .ok (draft, created)) :
    before.node? draft.temporary = none ∧ before.Within created := by
  simp only [createTemporary, Checks.bind_eq_ok_iff] at creates
  obtain ⟨-, -, creates⟩ := creates
  cases free : temporaryPlace? tree target with
  | none => simp [free] at creates
  | some temporary =>
    have absent : tree.node? temporary = none := by simpa using List.find?_some free
    simp only [free, Checks.bind_eq_ok_iff, Checks.pure_eq_ok, Except.ok.injEq,
      Prod.mk.injEq] at creates
    obtain ⟨made, making, rfl, rfl⟩ := creates
    refine ⟨within.absent absent, ?_⟩
    cases file : tree.createFile temporary 0o600 with
    | error code => simp [file, FileTree.coded] at making
    | ok found =>
      obtain rfl : found = made := by simpa [file, FileTree.coded] using making
      simp only [FileTree.createFile, Checks.bind_eq_ok_iff, Checks.pure_eq_ok,
        Except.ok.injEq] at file
      obtain ⟨-, -, rfl⟩ := file
      exact within.put (within.absent absent) _

theorem create_spec (keeps : Keeps before store) (path : Text) (replication : Option Int) :
    Keeps before (store.create path replication).state ∧
      ∀ draft, (store.create path replication).answer = .ok draft → Fresh before draft := by
  unfold create
  dsimp only
  split
  · exact ⟨keeps, fun draft created => by cases created⟩
  · rename_i file _
    have within := within_makeParents keeps.tree path (store.place path)
    split
    · rename_i making
      rw [making] at within
      exact ⟨keeps.withTree within, fun draft created => by cases created⟩
    · rename_i tree making
      rw [making] at within
      split
      · exact ⟨keeps.withTree within, fun draft created => by cases created⟩
      · rename_i draft created creates
        obtain ⟨absent, grown⟩ := createTemporary_spec within creates
        refine ⟨keeps.withTree grown, ?_⟩
        rintro _ ⟨⟩
        exact absent

theorem within_publish {before tree : FileTree} (within : before.Within tree)
    (fresh : before.node? draft.temporary = none) : before.Within (publish tree draft).2 := by
  unfold publish
  cases linking : tree.link draft.temporary draft.target with
  | error code => exact within.remove fresh
  | ok linked =>
    simp only [FileTree.link, Checks.bind_eq_ok_iff, Checks.pure_eq_ok, Except.ok.injEq] at linking
    obtain ⟨node, -, _, vacant, rfl⟩ := linking
    exact (within.put (within.absent (FileTree.absent_of_checkVacant vacant)) node).remove fresh

theorem resolve_eq_ok_iff {base file : FilePath} :
    resolve base path = .ok file ↔
      (FilePath.ofText path).climbs = false ∧ base.below (FilePath.ofText path).names = file := by
  unfold resolve
  cases climbs : (FilePath.ofText path).climbs <;> simp [climbs]

theorem openRecord_eq_ok_iff :
    store.openRecord path = .ok data ↔ ∃ file mode, resolve store.base path = .ok file ∧
      FileTree.checkNames file.names = .ok () ∧
        store.tree.locate (store.place path) = .ok (.file data mode) := by
  simp only [openRecord, Checks.bind_eq_ok_iff]
  constructor
  · rintro ⟨file, resolved, _, checked, reading⟩
    refine ⟨file, ?_⟩
    unfold FileTree.content at reading
    cases located : store.tree.locate (store.place path) with
    | error code => simp [located, FileTree.coded] at reading
    | ok node =>
      cases node with
      | directory => simp [located, FileTree.coded] at reading
      | file content mode =>
        obtain rfl : content = data := by simpa [located, FileTree.coded] using reading
        exact ⟨mode, resolved, checked, rfl⟩
  · rintro ⟨file, mode, resolved, checked, located⟩
    exact ⟨file, resolved, (), checked, by simp [FileTree.content, located, FileTree.coded]⟩

theorem contains_of_openRecord (opened : store.openRecord path = .ok data) :
    store.contains path = .ok true := by
  obtain ⟨file, mode, resolved, checked, located⟩ := openRecord_eq_ok_iff.mp opened
  have nameable : FileTree.nameFault? file.names = none := by
    unfold FileTree.checkNames at checked
    split at checked
    · cases checked
    · assumption
  simp [contains, resolved, nameable, FileTree.holdsFile, located, FileTree.coded]

theorem Keeps.openRecord (keeps : Keeps before store) (opened : before.openRecord path = .ok data) :
    store.openRecord path = .ok data := by
  obtain ⟨file, mode, resolved, checked, located⟩ := openRecord_eq_ok_iff.mp opened
  rw [← place_of_base_eq keeps.base] at located
  exact openRecord_eq_ok_iff.mpr
    ⟨file, mode, keeps.base ▸ resolved, checked, FileTree.locate_of_within keeps.tree located⟩

theorem eq_readFrom_of_read {reader : Reader} {count : Int} {found : Bytes × Reader}
    (reads : read reader count = .ok found) : found = readFrom reader count := by
  simp only [read, Checks.bind_eq_ok_iff] at reads
  obtain ⟨-, -, rest⟩ := reads
  split at rest
  · cases rest
  · exact (Except.ok.inj rest).symm

theorem read_of_lt {reader : Reader} {count : Nat} (small : count < 9223372036854775808) :
    read reader count = .ok (readFrom reader count) := by
  simp [read, checkCount_of_lt small, show ¬(count : Int) < -1 by omega]

def custody : Custody client where
  Keeps := Keeps
  Fresh := Fresh
  refl store := ⟨rfl, .refl store.tree⟩
  keeps := by
    intro before store request keeps fresh
    cases request with
    | create path replication => exact (create_spec keeps path replication).1
    | write draft chunk => exact keeps.withTree (keeps.tree.append fresh chunk)
    | publish draft => exact keeps.withTree (within_publish keeps.tree fresh)
    | discard draft => exact keeps.withTree (keeps.tree.remove fresh)
    | contains path => exact keeps
    | openRecord path => exact keeps
    | read reader count => exact keeps
  handsOut := by
    intro before store request keeps fresh
    cases request with
    | create path replication =>
      show Surroundings.HandsOut _ (.storage (.create path replication))
        (store.create path replication).answer
      cases created : (store.create path replication).answer with
      | error failure => trivial
      | ok draft => exact (create_spec keeps path replication).2 draft created
    | write draft chunk => exact fresh
    | _ => trivial
  opens := Keeps.openRecord
  finds := contains_of_openRecord
  unchanged := by
    intro request store reading
    cases request <;> first | rfl | exact reading.elim
  eq_readFrom := eq_readFrom_of_read
  reads _ _ := read_of_lt

end KeyEnvelope.Storage.Directory
