import KeyEnvelope.Proofs.Decryption
import KeyEnvelope.Proofs.FileTree.Resemblance
import KeyEnvelope.Proofs.Storage.Resemblance

/-!
# Stores up to the bytes of a key

Two states of a store that differ only in the key of one record answer alike: an answer may
hold other bytes of the key, but not more or less of them.
-/

namespace KeyEnvelope

def SameLength (bytes other : Bytes) : Prop :=
  bytes.length = other.length

/-- Keys of the same length pass for alike, errors only if they are the same. -/
def Tolerance.ofLengths : Tolerance where
  keys := SameLength
  errors := Eq
  length_of_keys := id
  keys_take count same := by simp only [SameLength, List.length_take, show _ = _ from same]
  errors_refl _ := rfl
  kind_of_errors := congrArg _

namespace Storage

namespace Memory

/-- What the memories hold is the same, but for the bytes of the key in one record. -/
structure AlikeAt (path : Text) (memory other : Memory) : Prop where
  writes : memory.writes = other.writes
  elsewhere : ∀ place, place ≠ path → memory.record? place = other.record? place
  here : memory.record? path = none ∧ other.record? path = none ∨
    ∃ data data' replication, memory.record? path = some ⟨data, replication⟩ ∧
      other.record? path = some ⟨data', replication⟩ ∧ KeyRecord.Alike SameLength data data'

variable {memory other : Memory} {path : Text}

theorem AlikeAt.isSome_eq (alike : AlikeAt path memory other) :
    (memory.record? path).isSome = (other.record? path).isSome := by
  rcases alike.here with ⟨absent, absent'⟩ | ⟨data, data', replication, found, found', -⟩
  · rw [absent, absent']
  · rw [found, found']
    rfl

theorem AlikeAt.put (alike : AlikeAt path memory other) {data data' : Bytes}
    (related : KeyRecord.Alike SameLength data data') (replication : Option Int) :
    AlikeAt path (memory.put path ⟨data, replication⟩) (other.put path ⟨data', replication⟩) where
  writes := alike.writes
  elsewhere place different := by
    have kept (memory : Memory) (record : MemoryRecord) :
        (memory.put path record).record? place = memory.record? place :=
      Assoc.get?_set_of_ne different
    rw [kept, kept, alike.elsewhere place different]
  here := .inr ⟨data, data', replication, record?_put_self, record?_put_self, related⟩

/-- Two memories side by side, with one record that may hold different keys. -/
def concealing (path : Text) : Resemblance client client where
  toTolerance := .ofLengths
  Covers := (· = path)
  visible _ := true
  Related := AlikeAt path
  Drafted writing writing' memory other :=
    AlikeAt path memory other ∧ ∃ replication,
      writing.draft = ⟨path, replication, writing.content⟩ ∧
      writing'.draft = ⟨path, replication, writing'.content⟩

theorem concealing_holds (path : Text) : (concealing path).Holds where
  visible_errors := by
    intro error error' text path same
    obtain rfl : error = error' := same
    rfl
  renew drafted := drafted
  contains := by
    rintro memory other _ rfl alike
    exact ⟨.ok ⟨alike.isSome_eq, alike⟩, rfl⟩
  create := by
    rintro memory other _ replication rfl alike
    exact ⟨.ok ⟨⟨congrArg (· ++ [_]) alike.writes, alike.elsewhere, alike.here⟩,
      replication, rfl, rfl⟩, rfl⟩
  write := by
    rintro memory other writing writing' chunk chunk' _ ⟨alike, replication, begun, begun'⟩
    refine ⟨.ok ⟨alike, replication, ?_, ?_⟩, rfl⟩
    · rw [begun]
      rfl
    · rw [begun']
      rfl
  publish := by
    rintro memory other writing writing' related ⟨alike, replication, begun, begun'⟩
    rw [begun, begun']
    rcases alike.here with ⟨absent, absent'⟩ | ⟨data, data', _, found, found', -⟩
    · have published : memory.publish ⟨path, replication, writing.content⟩ = _ :=
        publish_of_absent absent
      have published' : other.publish ⟨path, replication, writing'.content⟩ = _ :=
        publish_of_absent absent'
      simp only [Resemblance.Answers, serve, Served.quiet, published, published']
      exact ⟨.ok (alike.put related replication), trivial⟩
    · have refused : memory.publish ⟨path, replication, writing.content⟩ = _ :=
        publish_of_present found
      have refused' : other.publish ⟨path, replication, writing'.content⟩ = _ :=
        publish_of_present found'
      simp only [Resemblance.Answers, serve, Served.quiet, refused, refused']
      exact ⟨.error ⟨.same _, alike⟩, trivial⟩
  discard drafted := ⟨drafted.1, rfl⟩
  openRecord := by
    rintro memory other _ rfl alike
    refine ⟨?_, rfl⟩
    simp only [serve, Served.quiet, openRecord]
    rcases alike.here with ⟨absent, absent'⟩ | ⟨data, data', _, found, found', related⟩
    · rw [absent, absent']
      exact .error ⟨.same _, alike⟩
    · rw [found, found']
      exact .ok ⟨related, alike⟩
  read := by
    intro memory other reader reader' count alike
    refine ⟨?_, rfl⟩
    simp only [serve, Served.quiet, read]
    cases checkCount count with
    | error failure => exact .error ⟨.same _, alike⟩
    | ok _ => exact .ok ⟨rfl, rfl, alike⟩

end Memory

namespace Directory

/-- Contents of files at a place: where the hidden record is, they may hold different keys. -/
def Hides (hidden place : Place) (content content' : Bytes) : Prop :=
  content = content' ∨ place = hidden ∧ KeyRecord.Alike SameLength content content'

/-- What the directories hold is the same, but for the bytes of the key in one record. -/
structure AlikeAt (path : Text) (store other : Directory) : Prop where
  base : store.base = other.base
  tree : FileTree.Resembles (Hides (store.place path)) store.tree other.tree

/-- Contents of files at a place while a draft is in the temporary one. -/
def Sets (hidden temporary : Place) (drafted drafted' : Bytes) (place : Place)
    (content content' : Bytes) : Prop :=
  if place = temporary then content = drafted ∧ content' = drafted'
  else Hides hidden place content content'

/-- The directories have the same draft, in which there may be different keys. -/
structure Drafted (path : Text) (writing writing' : Writing Draft) (store other : Directory) :
    Prop where
  origin : writing.origin = writing.draft
  origin' : writing'.origin = writing'.draft
  same : writing'.draft = writing.draft
  target : writing.draft.target = store.place path
  named : writing.draft.temporary ≠ []
  base : store.base = other.base
  tree : FileTree.Resembles
    (Sets (store.place path) writing.draft.temporary writing.content writing'.content)
    store.tree other.tree
  file : ∃ mode, store.tree.node? writing.draft.temporary = some (.file writing.content mode)

theorem sets_self {hidden temporary : Place} {drafted drafted' content content' : Bytes} :
    Sets hidden temporary drafted drafted' temporary content content' ↔
      content = drafted ∧ content' = drafted' := by
  simp only [Sets, if_true]

theorem sets_of_ne {hidden temporary place : Place} {drafted drafted' content content' : Bytes}
    (elsewhere : place ≠ temporary) :
    Sets hidden temporary drafted drafted' place content content' ↔
      Hides hidden place content content' := by
  simp only [Sets, if_neg elsewhere]

variable {store other : Directory} {path : Text} {tree tree' : FileTree}
  {alike : Place → Bytes → Bytes → Prop} {target : Place}

theorem makeParents_alike (resembles : FileTree.Resembles alike tree tree') (path : Text)
    (target : Place) :
    (makeParents tree path target).1 = (makeParents tree' path target).1 ∧
      FileTree.Resembles alike (makeParents tree path target).2
        (makeParents tree' path target).2 := by
  obtain ⟨same, made⟩ := resembles.makeDirectories target.dropLast
  unfold makeParents
  rcases making : tree.makeDirectories target.dropLast with ⟨result, parents⟩
  rcases making' : tree'.makeDirectories target.dropLast with ⟨result', parents'⟩
  rw [making, making'] at same made
  obtain rfl : result = result' := same
  rcases result with code | _
  · cases code <;> exact ⟨rfl, made⟩
  · exact ⟨rfl, made⟩

theorem temporaryPlace?_alike (resembles : FileTree.Resembles alike tree tree') (target : Place) :
    temporaryPlace? tree target = temporaryPlace? tree' target := by
  have same : (fun place => (tree.node? place).isNone) =
      fun place => (tree'.node? place).isNone := by
    funext place
    rw [← Option.not_isSome, ← Option.not_isSome, (resembles place).isSome_eq]
  unfold temporaryPlace?
  rw [same]

/-- Either there is no temporary file in both trees, for the same reason, or there is the
same new one in both. -/
theorem createTemporary_alike {hidden : Place}
    (resembles : FileTree.Resembles (Hides hidden) tree tree') (names : List Text)
    (target : Place) :
    (∃ failure, createTemporary tree names target = .error failure ∧
      createTemporary tree' names target = .error failure) ∨
    ∃ temporary created created',
      createTemporary tree names target = .ok (⟨target, temporary⟩, created) ∧
      createTemporary tree' names target = .ok (⟨target, temporary⟩, created') ∧ temporary ≠ [] ∧
      FileTree.Resembles (Sets hidden temporary [] []) created created' ∧
      ∃ mode, created.node? temporary = some (.file [] mode) := by
  unfold createTemporary
  rw [← temporaryPlace?_alike resembles]
  cases FileTree.checkNames names with
  | error failure => exact .inl ⟨failure, rfl, rfl⟩
  | ok _ =>
    cases free : temporaryPlace? tree target with
    | none => exact .inl ⟨_, rfl, rfl⟩
    | some temporary =>
      have named : temporary ≠ [] := by
        obtain ⟨number, -, rfl⟩ := List.mem_map.mp (List.mem_of_find?_eq_some free)
        simp
      simp only [FileTree.createFile, ← resembles.checkVacant temporary]
      cases tree.checkVacant temporary with
      | error code => exact .inl ⟨_, rfl, rfl⟩
      | ok _ =>
        refine .inr ⟨temporary, _, _, rfl, rfl, named, ?_, _, FileTree.node?_put_self named⟩
        refine resembles.put (.file ?_) ?_
        · exact sets_self.mpr ⟨rfl, rfl⟩
        · exact fun place content content' elsewhere => (sets_of_ne elsewhere).mpr

/-- Two directories side by side, with one record that may hold different keys. -/
def concealing (path : Text) : Resemblance client client where
  toTolerance := .ofLengths
  Covers := (· = path)
  visible _ := true
  Related := AlikeAt path
  Drafted := Drafted path

theorem create_alike (alike : AlikeAt path store other) (replication : Option Int) :
    (concealing path).Answers (fun draft draft' => Drafted path (.start draft) (.start draft'))
      (AlikeAt path) (store.create path replication) (other.create path replication) := by
  obtain ⟨base, tree⟩ := store
  obtain ⟨base', tree'⟩ := other
  obtain rfl : base = base' := alike.base
  have resembles : FileTree.Resembles (Hides (place ⟨base, tree⟩ path)) tree tree' := alike.tree
  unfold create
  generalize (do
    let file ← resolve base path
    FileTree.checkNames file.names.dropLast
    return file : Except Failure FilePath) = result
  cases result with
  | error failure => exact ⟨.error ⟨.same _, rfl, resembles⟩, rfl⟩
  | ok file =>
    have samePlace : place ⟨base, tree'⟩ path = place ⟨base, tree⟩ path := rfl
    dsimp only
    rw [samePlace]
    obtain ⟨same, made⟩ := makeParents_alike resembles path (place ⟨base, tree⟩ path)
    rcases making : makeParents tree path _ with ⟨result, parents⟩
    rcases making' : makeParents tree' path _ with ⟨result', parents'⟩
    rw [making, making'] at same made
    obtain rfl : result = result' := same
    cases result with
    | error failure => exact ⟨.error ⟨.same _, rfl, made⟩, rfl⟩
    | ok _ =>
      dsimp only
      rcases createTemporary_alike made file.names (place ⟨base, tree⟩ path) with
        ⟨failure, fails, fails'⟩ |
        ⟨temporary, created, created', creates, creates', named, drafted, file⟩
      · simp only [fails, fails']
        exact ⟨.error ⟨.same _, rfl, made⟩, rfl⟩
      · simp only [creates, creates']
        exact ⟨.ok ⟨rfl, rfl, rfl, rfl, named, rfl, drafted, file⟩, rfl⟩

variable {writing writing' : Writing Draft}

/-- In the other tree the draft is the same file with the other content. -/
theorem Drafted.file' (drafted : Drafted path writing writing' store other) :
    ∃ mode, store.tree.node? writing.draft.temporary = some (.file writing.content mode) ∧
      other.tree.node? writing.draft.temporary = some (.file writing'.content mode) := by
  obtain ⟨mode, file⟩ := drafted.file
  have related := drafted.tree writing.draft.temporary
  rw [file] at related
  refine ⟨mode, file, ?_⟩
  generalize other.tree.node? writing.draft.temporary = found at related
  cases related with
  | file sets => rw [(sets_self.mp sets).2]

theorem Drafted.remove (drafted : Drafted path writing writing' store other) :
    AlikeAt path { store with tree := store.tree.remove writing.draft.temporary }
      { other with tree := other.tree.remove writing.draft.temporary } where
  base := drafted.base
  tree := by
    refine drafted.tree.remove ?_
    exact fun place content content' elsewhere => (sets_of_ne elsewhere).mp

theorem Drafted.append (drafted : Drafted path writing writing' store other)
    (chunk chunk' : Bytes) :
    Drafted path (writing.append chunk writing.draft) (writing'.append chunk' writing'.draft)
      { store with tree := store.tree.append writing.draft.temporary chunk }
      { other with tree := other.tree.append writing.draft.temporary chunk' } := by
  obtain ⟨mode, file, file'⟩ := drafted.file'
  simp only [FileTree.append, file, file']
  refine ⟨drafted.origin, drafted.origin', drafted.same, drafted.target, drafted.named,
    drafted.base, ?_, mode, FileTree.node?_put_self drafted.named⟩
  refine drafted.tree.put (.file ?_) ?_
  · exact sets_self.mpr ⟨rfl, rfl⟩
  · exact fun place content content' elsewhere sets =>
      (sets_of_ne elsewhere).mpr ((sets_of_ne elsewhere).mp sets)

theorem contains_alike (alike : AlikeAt path store other) :
    store.contains path = other.contains path := by
  simp only [contains, place_of_base_eq alike.base, alike.base, alike.tree.holdsFile]

theorem openRecord_alike (alike : AlikeAt path store other) :
    Paired (KeyRecord.Alike SameLength) Eq (store.openRecord path) (other.openRecord path) := by
  have located := alike.tree.locate (store.place path)
  simp only [openRecord, ← alike.base, ← place_of_base_eq alike.base]
  cases resolve store.base path with
  | error failure => exact .error rfl
  | ok file =>
    simp only [Checks.ok_bind]
    cases FileTree.checkNames file.names with
    | error failure => exact .error rfl
    | ok _ =>
      simp only [Checks.ok_bind, FileTree.content]
      generalize store.tree.locate _ = found at located
      generalize other.tree.locate _ = found' at located
      cases located with
      | error code => exact .error rfl
      | ok related =>
        cases related with
        | directory => exact .error rfl
        | file hides =>
          refine .ok ?_
          rcases hides with rfl | ⟨-, related⟩
          · exact ⟨rfl, rfl⟩
          · exact related

theorem Drafted.publish (drafted : Drafted path writing writing' store other)
    (related : KeyRecord.Alike SameLength writing.content writing'.content) :
    (publish store.tree writing.draft).1 = (publish other.tree writing.draft).1 ∧
      AlikeAt path { store with tree := (publish store.tree writing.draft).2 }
        { other with tree := (publish other.tree writing.draft).2 } := by
  obtain ⟨mode, file, file'⟩ := drafted.file'
  have located := drafted.tree.locate writing.draft.temporary
  unfold Directory.publish FileTree.link
  rw [← drafted.tree.checkVacant]
  cases found : store.tree.locate writing.draft.temporary with
  | error code =>
    cases found' : other.tree.locate writing.draft.temporary with
    | ok node' => rw [found, found'] at located; cases located
    | error code' =>
      rw [found, found'] at located
      cases located
      exact ⟨rfl, drafted.remove⟩
  | ok node =>
    cases found' : other.tree.locate writing.draft.temporary with
    | error code' => rw [found, found'] at located; cases located
    | ok node' =>
      obtain rfl : node = .file writing.content mode :=
        Option.some.inj ((FileTree.node?_of_locate found).symm.trans file)
      obtain rfl : node' = .file writing'.content mode :=
        Option.some.inj ((FileTree.node?_of_locate found').symm.trans file')
      simp only [Checks.ok_bind]
      cases store.tree.checkVacant writing.draft.target with
      | error code => exact ⟨rfl, drafted.remove⟩
      | ok _ =>
        refine ⟨rfl, drafted.base, ?_⟩
        -- In between, the temporary file is still there, but does not matter any more.
        have linked : FileTree.Resembles
            (fun place content content' => place = writing.draft.temporary ∨
              Hides (store.place path) place content content')
            (store.tree.put writing.draft.target (.file writing.content mode))
            (other.tree.put writing.draft.target (.file writing'.content mode)) := by
          refine drafted.tree.put (.file (.inr (.inr ⟨drafted.target, related⟩))) ?_
          intro place content content' _ sets
          by_cases temporary : place = writing.draft.temporary
          · exact .inl temporary
          · exact .inr ((sets_of_ne temporary).mp sets)
        refine linked.remove ?_
        exact fun place content content' elsewhere hides => hides.resolve_left elsewhere

theorem concealing_holds (path : Text) : (concealing path).Holds where
  visible_errors := by
    intro error error' text path same
    obtain rfl : error = error' := same
    rfl
  renew := by
    intro store other writing writing' drafted
    exact { drafted with origin := rfl, origin' := rfl }
  contains := by
    rintro store other _ rfl alike
    refine ⟨?_, rfl⟩
    simp only [serve, Served.quiet, contains_alike alike]
    cases other.contains _ with
    | error failure => exact .error ⟨.same _, alike⟩
    | ok found => exact .ok ⟨rfl, alike⟩
  create := by
    rintro store other _ replication rfl alike
    exact create_alike alike replication
  write := by
    intro store other writing writing' chunk chunk' _ drafted
    have appended := drafted.append chunk chunk'
    rw [drafted.same] at appended ⊢
    exact ⟨.ok appended, rfl⟩
  publish := by
    intro store other writing writing' related drafted
    obtain ⟨same, alike⟩ := drafted.publish related
    refine ⟨?_, rfl⟩
    rw [drafted.same]
    simp only [serve, Served.quiet, same]
    cases (Directory.publish other.tree writing.draft).1 with
    | error failure => exact .error ⟨.same _, alike⟩
    | ok _ => exact .ok alike
  discard := by
    intro store other writing writing' drafted
    rw [drafted.origin, drafted.origin', drafted.same]
    exact ⟨drafted.remove, rfl⟩
  openRecord := by
    rintro store other _ rfl alike
    exact ⟨(openRecord_alike alike).mono (fun _ _ related => ⟨related, alike⟩)
      fun _ _ same => ⟨same ▸ .same _, alike⟩, rfl⟩
  read := by
    intro store other reader reader' count alike
    refine ⟨?_, rfl⟩
    simp only [serve, Served.quiet, read, show ¬(count : Int) < -1 by omega, if_false]
    cases checkCount count with
    | error failure => exact .error ⟨.same _, alike⟩
    | ok _ => exact .ok ⟨rfl, rfl, alike⟩

end Directory

namespace Location

/-- What the stores hold is the same, but for the bytes of the key in one record. -/
def AlikeAt : (location : Location) → Text → location.client.State → location.client.State → Prop
  | memory => Memory.AlikeAt
  | directory _ => Directory.AlikeAt

/-- Two stores of a kind side by side, with one record that may hold different keys. -/
theorem exists_concealing (location : Location) (path : Text) :
    ∃ resemblance : Resemblance location.client location.client, resemblance.Holds ∧
      resemblance.toTolerance = .ofLengths ∧ resemblance.Covers path ∧
      resemblance.visible = (fun _ => true) ∧ resemblance.Related = location.AlikeAt path := by
  cases location with
  | memory => exact ⟨Memory.concealing path, Memory.concealing_holds path, rfl, rfl, rfl, rfl⟩
  | directory base =>
    exact ⟨Directory.concealing path, Directory.concealing_holds path, rfl, rfl, rfl, rfl⟩

end Location

end Storage

end KeyEnvelope
