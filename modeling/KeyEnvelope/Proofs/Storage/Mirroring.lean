import KeyEnvelope.Proofs.FileTree.Spelling
import KeyEnvelope.Proofs.FileTree.Ways
import KeyEnvelope.Proofs.Storage.Drafting
import KeyEnvelope.Proofs.Storage.Resemblance

/-!
# A directory mirrors memory

At canonical paths of which none leads through another, a directory that was empty has a file
for each record that memory has, and otherwise only directories that lead to such paths. A
temporary file stands beside them while a draft is written.
-/

namespace KeyEnvelope.Storage

theorem Memory.has_put {memory : Memory} {path other : Text} {record : MemoryRecord}
    {data : Bytes} :
    contents.Has (memory.put path record) other data ↔
      if other = path then record.data = data else contents.Has memory other data := by
  split
  · rename_i here
    subst here
    constructor
    · rintro ⟨replication, present⟩
      exact congrArg MemoryRecord.data
        (Option.some.inj (record?_put_self.symm.trans present))
    · rintro rfl
      exact ⟨record.replication, record?_put_self⟩
  · rename_i elsewhere
    have kept : (memory.put path record).record? other = memory.record? other :=
      Assoc.get?_set_of_ne elsewhere
    simp only [contents, kept]

namespace Directory

/-- How many bytes a temporary name has more than the name of its target. -/
def temporaryRoom : Nat := 14

/-- The names of a path, as the system has them. -/
def spelledNames (path : Text) : List Text :=
  (FilePath.namesOf path).map FileTree.spelled

/-- The system takes the place of the path, and that of a temporary file beside it. -/
structure HasRoom (base : FilePath) (path : Text) : Prop where
  nameable : ∀ name ∈ base.names ++ FilePath.namesOf path, FileTree.IsNameable name
  names : ∀ name ∈ FilePath.namesOf path, FileTree.byteSize name ≤ FileTree.nameLimit
  last : FileTree.byteSize (FilePath.ofText path).lastName + temporaryRoom ≤ FileTree.nameLimit
  way : FileTree.byteSize (Text.intercalate "/" (base.names ++ FilePath.namesOf path)) +
    temporaryRoom ≤ FileTree.wayLimit

/-- Below the base, records can be kept at all of the paths, side by side. -/
structure Accommodates (base : FilePath) (paths : Text → Prop) : Prop where
  canonical {path : Text} : paths path → FilePath.IsCanonical path
  apart {path other : Text} : paths path → paths other →
    FilePath.namesOf path <+: FilePath.namesOf other →
      FilePath.namesOf path = FilePath.namesOf other
  /-- Names that have the same bytes are the same, as all names of characters are. -/
  faithful {path other : Text} : paths path → paths other →
    ∀ name ∈ FilePath.namesOf path, ∀ name' ∈ FilePath.namesOf other,
      FileTree.spelled name = FileTree.spelled name' → name = name'
  room {path : Text} : paths path → HasRoom base path

/-- The directory that the place of a path is in. -/
def parentPlace (base : FilePath) (path : Text) : Place :=
  FileTree.placeOf base.names ++ (spelledNames path).dropLast

/-- The last name of a path, as the system has it. -/
def spelledLast (path : Text) : Text :=
  FileTree.spelled (FilePath.ofText path).lastName

/-- Where the first temporary file beside a path is. -/
def temporaryBeside (base : FilePath) (path : Text) : Place :=
  parentPlace base path ++ [temporaryName (spelledLast path) 0]

theorem byteSize_temporaryName (name : Text) :
    FileTree.byteSize (temporaryName name 0) = FileTree.byteSize name + temporaryRoom := by
  have drawn : FileTree.byteSize (drawn 0) = 8 := by decide
  have dot : FileTree.byteSize "." = 1 := by decide
  have suffix : FileTree.byteSize ".tmp" = 4 := by decide
  simp only [temporaryName, FileTree.byteSize_append, drawn, dot, suffix, temporaryRoom]
  omega

/-- The system would not take such a name from a caller. -/
theorem spelled_ne_temporaryName {name : Text} (nameable : FileTree.IsNameable name)
    (other : Text) : FileTree.spelled name ≠ temporaryName other 0 := by
  intro same
  have among : Code.half 0xd830 ∈ (temporaryName other 0).codes := by
    have drawn : Code.half 0xd830 ∈ (drawn 0).codes := by decide
    show _ ∈ ((_ ++ _) ++ _) ++ _
    exact List.mem_append_left _ (List.mem_append_right _ drawn)
  have given := FileTree.half_mem_of_mem_spelled (by decide) (same ▸ among)
  exact absurd (nameable _ given).1 (by decide)

namespace Accommodates

variable {base : FilePath} {paths : Text → Prop} {path other : Text}
  (accommodates : Accommodates base paths)

include accommodates

theorem spelledNames_ne_nil (among : paths path) : spelledNames path ≠ [] := by
  simpa [spelledNames] using (accommodates.canonical among).namesOf_ne_nil

theorem spelledNames_eq (among : paths path) :
    spelledNames path = (spelledNames path).dropLast ++ [spelledLast path] := by
  have nonempty := (accommodates.canonical among).namesOf_ne_nil
  have last : (FilePath.ofText path).lastName = (FilePath.namesOf path).getLast nonempty := by
    simp only [FilePath.lastName, FilePath.ofText, List.getLast?_eq_some_getLast nonempty,
      Option.getD_some]
  rw [spelledNames, spelledLast, last, ← List.map_dropLast,
    ← List.map_singleton (f := FileTree.spelled), ← List.map_append,
    List.dropLast_concat_getLast nonempty]

theorem place_eq (among : paths path) :
    FileTree.placeOf base.names ++ spelledNames path =
      parentPlace base path ++ [spelledLast path] := by
  rw [parentPlace, List.append_assoc, ← accommodates.spelledNames_eq among]

/-- No record is on the way to another one. -/
theorem eq_of_prefix (among : paths path) (amongOther : paths other)
    (leads : spelledNames path <+: spelledNames other) : path = other :=
  (accommodates.canonical among).eq_of_namesOf_eq (accommodates.canonical amongOther)
    (accommodates.apart among amongOther
      (FileTree.prefix_of_map_spelled (accommodates.faithful among amongOther) leads))

theorem short (among : paths path) :
    ∀ name ∈ spelledNames path, FileTree.tooLong name = false := by
  intro name present
  obtain ⟨given, among', rfl⟩ := List.mem_map.mp present
  simpa [FileTree.tooLong, FileTree.byteSize_spelled] using
    (accommodates.room among).names given among'

theorem wayLength_place_le (among : paths path) :
    FileTree.wayLength (FileTree.placeOf base.names ++ spelledNames path) + temporaryRoom ≤
      FileTree.wayLimit + 1 := by
  have way := (accommodates.room among).way
  have nonempty : base.names ++ FilePath.namesOf path ≠ [] := by
    simp [(accommodates.canonical among).namesOf_ne_nil]
  have size := FileTree.byteSize_intercalate nonempty
  have shorter := FileTree.wayLength_placeOf_le base.names
  rw [FileTree.wayLength_append] at size ⊢
  rw [spelledNames, FileTree.wayLength_map_spelled]
  omega

theorem reach (among : paths path) :
    FileTree.outOfReach (FileTree.placeOf base.names ++ spelledNames path) = false := by
  have way := accommodates.wayLength_place_le among
  rw [FileTree.outOfReach_eq_false_iff]
  omega

theorem last_short (among : paths path) :
    FileTree.tooLong (spelledLast path) = false := by
  have last := (accommodates.room among).last
  simp only [FileTree.tooLong, spelledLast, FileTree.byteSize_spelled, decide_eq_false_iff_not]
  omega

theorem temporary_short (among : paths path) :
    FileTree.tooLong (temporaryName (spelledLast path) 0) = false := by
  have last := (accommodates.room among).last
  simp only [FileTree.tooLong, byteSize_temporaryName, spelledLast, FileTree.byteSize_spelled,
    decide_eq_false_iff_not]
  omega

theorem wayLength_le (among : paths path) :
    FileTree.wayLength (parentPlace base path) +
      FileTree.byteSize (spelledLast path) + temporaryRoom ≤ FileTree.wayLimit := by
  have way := accommodates.wayLength_place_le among
  rw [accommodates.place_eq among, FileTree.wayLength_append] at way
  simp only [FileTree.wayLength] at way
  omega

theorem parent_reach (among : paths path) :
    FileTree.outOfReach (parentPlace base path) = false := by
  have way := accommodates.wayLength_le among
  rw [FileTree.outOfReach_eq_false_iff]
  omega

theorem temporary_reach (among : paths path) :
    FileTree.outOfReach (temporaryBeside base path) = false := by
  have way := accommodates.wayLength_le among
  rw [FileTree.outOfReach_eq_false_iff, temporaryBeside, FileTree.wayLength_append]
  simp only [FileTree.wayLength, byteSize_temporaryName]
  omega

theorem parent_short (among : paths path) :
    ∀ name ∈ (spelledNames path).dropLast, FileTree.tooLong name = false :=
  fun name present => accommodates.short among name (List.dropLast_subset _ present)

theorem parent_onward (among : paths path) : (".." : Text) ∉ parentPlace base path := by
  rw [parentPlace, List.mem_append, not_or]
  refine ⟨FileTree.dots_not_mem_placeOf _, fun present => ?_⟩
  obtain ⟨name, given, dots⟩ := List.mem_map.mp (List.dropLast_subset _ present)
  exact (FileTree.isName_spelled ((accommodates.canonical among).isName given)).notDots dots

/-- A way to the parent ends before the place does. -/
theorem proper_of_prefix_parent (among : paths path) {way : List Text}
    (leads : way <+: (spelledNames path).dropLast) :
    way <+: spelledNames path ∧ way ≠ spelledNames path := by
  refine ⟨leads.trans (List.dropLast_prefix _), ?_⟩
  rintro rfl
  have some := List.length_pos_iff.mpr (accommodates.spelledNames_ne_nil among)
  have fewer := leads.length_le
  rw [List.length_dropLast] at fewer
  omega

/-- No place that is needed for the paths is a temporary one. -/
theorem temporary_foreign (among : paths path) {way : List Text}
    (leads : FileTree.placeOf base.names ++ way = temporaryBeside base other) :
    ¬way <+: spelledNames path := by
  intro covered
  rw [temporaryBeside, parentPlace, List.append_assoc] at leads
  have last : temporaryName (spelledLast other) 0 ∈ way := by
    rw [List.append_cancel_left leads]
    simp
  obtain ⟨name, present, same⟩ := List.mem_map.mp (covered.subset last)
  exact spelled_ne_temporaryName
    ((accommodates.room among).nameable _ (List.mem_append_right _ present)) _ same

end Accommodates

/-- What memory and the directory have at the paths is the same, and there is nothing else
below the base but directories on the ways to the paths. -/
structure Mirrors (base : FilePath) (paths : Text → Prop) (memory : Memory) (store : Directory) :
    Prop where
  based : store.base = base
  ground : store.tree.locate (FileTree.placeOf base.names) = .ok .directory
  same {path : Text} : paths path →
    ∀ data, Memory.contents.Has memory path data ↔ contents.Has store path data
  known {path : Text} {record : MemoryRecord} : memory.record? path = some record → paths path
  files {names : List Text} {content : Bytes} {mode : Nat} :
    store.tree.node? (FileTree.placeOf base.names ++ names) = some (.file content mode) →
      ∃ path, paths path ∧ spelledNames path = names
  directories {names : List Text} :
    names ≠ [] → store.tree.node? (FileTree.placeOf base.names ++ names) = some .directory →
      ∃ path, paths path ∧ names <+: spelledNames path ∧ names ≠ spelledNames path
  closed : store.tree.Closed (FileTree.placeOf base.names)

variable {base : FilePath} {paths : Text → Prop} {path : Text} {memory : Memory}
  {store : Directory} {tree : FileTree} {content : Bytes} {mode : Nat}

theorem has_put {target : Place} (named : target ≠ []) {other : Text} {data : Bytes} :
    contents.Has { store with tree := store.tree.put target (.file content mode) } other data ↔
      if store.place other = target then content = data else contents.Has store other data := by
  have placed : contents.Has { store with tree := store.tree.put target (.file content mode) } other
      data ↔ ∃ mode', (store.tree.put target (.file content mode)).node? (store.place other) =
        some (.file data mode') := Iff.rfl
  rw [placed]
  split
  · rename_i here
    rw [here, FileTree.node?_put_self named]
    simp
  · rename_i elsewhere
    rw [FileTree.node?_put_of_ne elsewhere]
    rfl

/-- It only matters what nodes there are. -/
theorem Mirrors.congr (mirrors : Mirrors base paths memory store)
    (nodes : ∀ place, tree.node? place = store.tree.node? place) :
    Mirrors base paths memory { store with tree } where
  based := mirrors.based
  ground := FileTree.locate_of_within (fun place node found => (nodes place).trans found)
    mirrors.ground
  same among data := by
    simp only [contents, nodes]
    exact mirrors.same among data
  known := mirrors.known
  files found := mirrors.files ((nodes _).symm.trans found)
  directories beyond found := mirrors.directories beyond ((nodes _).symm.trans found)
  closed place name node below found :=
    (nodes _).trans (mirrors.closed place name node below ((nodes _).symm.trans found))

section Paths

variable (accommodates : Accommodates base paths)

include accommodates

theorem Mirrors.absent_beside (mirrors : Mirrors base paths memory store) :
    store.tree.node? (temporaryBeside base path) = none := by
  have named : temporaryBeside base path = FileTree.placeOf base.names ++
      ((spelledNames path).dropLast ++ [temporaryName (spelledLast path) 0]) :=
    List.append_assoc ..
  rw [named, Option.eq_none_iff_forall_ne_some]
  rintro (_ | ⟨content, mode⟩) found
  · obtain ⟨other, amongOther, leads, -⟩ := mirrors.directories (by simp) found
    exact accommodates.temporary_foreign amongOther named.symm leads
  · obtain ⟨other, amongOther, same⟩ := mirrors.files found
    exact accommodates.temporary_foreign amongOther named.symm (same ▸ List.prefix_refl _)

variable (among : paths path)

include among

theorem Mirrors.clear (mirrors : Mirrors base paths memory store) :
    store.tree.Clear (FileTree.placeOf base.names) (spelledNames path) := by
  intro way content mode leads proper found
  obtain ⟨other, amongOther, rfl⟩ := mirrors.files found
  exact proper (congrArg spelledNames (accommodates.eq_of_prefix amongOther among leads))

/-- At the place of a path there is nothing, and memory has no record, or there is a file with
the data of the record. -/
theorem Mirrors.found (mirrors : Mirrors base paths memory store) :
    memory.record? path = none ∧ store.tree.node? (store.place path) = none ∧
        store.tree.locate (store.place path) = .error .noEntry ∨
      ∃ record mode, memory.record? path = some record ∧
        store.tree.node? (store.place path) = some (.file record.data mode) ∧
        store.tree.locate (store.place path) = .ok (.file record.data mode) := by
  have placed : store.place path = FileTree.placeOf base.names ++ spelledNames path := by
    rw [← mirrors.based]
    rfl
  have located := FileTree.locate_of_clear mirrors.ground mirrors.closed (accommodates.reach among)
    (accommodates.short among) (mirrors.clear accommodates among)
  rw [← placed] at located
  cases found : store.tree.node? (store.place path) with
  | none =>
    refine .inl ⟨?_, rfl, by rw [located, found]; rfl⟩
    rw [Option.eq_none_iff_forall_ne_some]
    intro record present
    obtain ⟨mode, file⟩ := (mirrors.same among record.data).mp ⟨record.replication, present⟩
    simp [found] at file
  | some node =>
    cases node with
    | file content mode =>
      obtain ⟨replication, present⟩ := (mirrors.same among content).mpr ⟨mode, found⟩
      exact .inr ⟨_, mode, present, rfl, by rw [located, found]; rfl⟩
    | directory =>
      obtain ⟨other, amongOther, leads, proper⟩ := mirrors.directories
        (accommodates.spelledNames_ne_nil among) (placed ▸ found)
      have same := accommodates.eq_of_prefix among amongOther leads
      exact absurd (congrArg spelledNames same) proper

theorem Mirrors.resolve_eq (mirrors : Mirrors base paths memory store) :
    resolve store.base path = .ok (store.base.below (FilePath.namesOf path)) := by
  rw [mirrors.based]
  exact resolve_eq_ok_iff.mpr ⟨(accommodates.canonical among).climbs_eq_false, rfl⟩

theorem Mirrors.checkNames_eq (mirrors : Mirrors base paths memory store) :
    FileTree.checkNames (store.base.below (FilePath.namesOf path)).names = .ok () := by
  rw [mirrors.based]
  exact FileTree.checkNames_eq_ok (accommodates.room among).nameable

theorem Mirrors.contains_eq (mirrors : Mirrors base paths memory store) :
    store.contains path = .ok (memory.record? path).isSome := by
  have resolved := mirrors.resolve_eq accommodates among
  rcases mirrors.found accommodates among with
    ⟨absent, -, located⟩ | ⟨record, mode, present, -, located⟩
  · have held : store.tree.holdsFile (store.place path) = .ok false := by
      rw [FileTree.holdsFile, located]
    simp only [Directory.contains, resolved, Checks.ok_bind, absent]
    split
    · rfl
    · exact congrArg FileTree.coded held
  · rw [present]
    exact contains_of_openRecord (openRecord_eq_ok_iff.mpr
      ⟨_, mode, resolved, mirrors.checkNames_eq accommodates among, located⟩)

theorem Mirrors.openRecord_paired (mirrors : Mirrors base paths memory store) :
    memory.record? path = none ∧ store.openRecord path = .error (.system (.coded .noEntry)) ∨
      ∃ record, memory.record? path = some record ∧ store.openRecord path = .ok record.data := by
  have resolved := mirrors.resolve_eq accommodates among
  have checked := mirrors.checkNames_eq accommodates among
  rcases mirrors.found accommodates among with
    ⟨absent, -, located⟩ | ⟨record, mode, present, -, located⟩
  · refine .inl ⟨absent, ?_⟩
    rw [Directory.openRecord, resolved, Checks.ok_bind, checked, Checks.ok_bind, FileTree.content,
      located]
    rfl
  · exact .inr ⟨record, present, openRecord_eq_ok_iff.mpr ⟨_, mode, resolved, checked, located⟩⟩

/-- When the parents are made there is a directory to put the record in, and otherwise only
directories have come. -/
theorem Mirrors.makeParents (mirrors : Mirrors base paths memory store) :
    ∃ made, Directory.makeParents store.tree path (store.place path) = (.ok (), made) ∧
      Mirrors base paths memory { store with tree := made } ∧
      made.locate (parentPlace base path) = .ok .directory := by
  have parent : (store.place path).dropLast = parentPlace base path := by
    rw [place, mirrors.based]
    exact List.dropLast_append_of_ne_nil (accommodates.spelledNames_ne_nil among)
  have short := accommodates.parent_short among
  have here := FileTree.node?_of_locate mirrors.ground
  obtain ⟨made, makes, paved⟩ := FileTree.makeDirectories_of_clear mirrors.ground
    (accommodates.parent_onward among) (accommodates.parent_reach among) short (by
      intro way content mode leads
      obtain ⟨onward, proper⟩ := accommodates.proper_of_prefix_parent among leads
      exact mirrors.clear accommodates among way content mode onward proper)
  have ground := FileTree.locate_of_within paved.within mirrors.ground
  have closed := paved.closed here mirrors.closed
  refine ⟨made, ?_, ?_, ?_⟩
  · rw [Directory.makeParents, parent, parentPlace, makes]
    rfl
  · exact {
      based := mirrors.based
      ground
      same := fun among data => by
        simp only [contents, paved.file_iff]
        exact mirrors.same among data
      known := mirrors.known
      files := fun found => mirrors.files (paved.file_iff.mp found)
      directories := by
        intro names beyond found
        rcases (paved _ _).mp found with found | ⟨-, way, -, leads, same⟩
        · exact mirrors.directories beyond found
        · obtain rfl := List.append_cancel_left same
          exact ⟨path, among, accommodates.proper_of_prefix_parent among leads⟩
      closed }
  · rw [parentPlace, FileTree.locate_of_clear ground closed (accommodates.parent_reach among) short,
      paved.directory here (List.prefix_refl _)]
    · rfl
    · intro way content mode leads _ found
      simp [paved.directory here leads] at found

theorem Mirrors.place_eq (mirrors : Mirrors base paths memory store) :
    store.place path = parentPlace base path ++ [spelledLast path] := by
  rw [← accommodates.place_eq among, ← mirrors.based]
  rfl

/-- Where the parent is a directory, there can be a temporary file. -/
theorem createTemporary_eq {names : List Text} {target : Place}
    (placed : target = parentPlace base path ++ [spelledLast path])
    (nameable : FileTree.checkNames names = .ok ())
    (absent : tree.node? (temporaryBeside base path) = none)
    (parent : tree.locate (parentPlace base path) = .ok .directory) :
    createTemporary tree names target = .ok (⟨target, temporaryBeside base path⟩,
      tree.put (temporaryBeside base path) (.file [] 0o600)) := by
  have first : temporaryPlace? tree target = some (temporaryBeside base path) := by
    have numbers : List.range temporaryLimit = 0 :: (List.range 9999).map Nat.succ :=
      List.range_succ_eq_map
    rw [temporaryPlace?, numbers, List.map_cons, placed, List.dropLast_concat, List.getLast?_concat]
    exact List.find?_cons_of_pos (by
      show (tree.node? (temporaryBeside base path)).isNone = true
      rw [absent]
      rfl)
  have vacant : tree.checkVacant (temporaryBeside base path) = .ok () := by
    have child := FileTree.checkVacant_child parent (accommodates.temporary_short among)
      (accommodates.temporary_reach among)
    rwa [show tree.node? (_ ++ _) = none from absent] at child
  rw [createTemporary, nameable, first]
  simp only [FileTree.createFile, vacant]
  rfl

/-- A new draft is an empty temporary file beside its target. -/
theorem Mirrors.create_eq (mirrors : Mirrors base paths memory store) (replication : Option Int) :
    ∃ made, Mirrors base paths memory { store with tree := made } ∧
      made.locate (parentPlace base path) = .ok .directory ∧
      store.create path replication =
        ⟨.ok ⟨store.place path, temporaryBeside base path⟩,
          { store with tree := made.put (temporaryBeside base path) (.file [] 0o600) },
          replicationIgnored path replication⟩ := by
  obtain ⟨made, makes, mirrors', parent⟩ := mirrors.makeParents accommodates among
  have creates : Directory.createTemporary made (store.base.below (FilePath.namesOf path)).names
      (store.place path) = .ok (⟨store.place path, temporaryBeside base path⟩,
        made.put (temporaryBeside base path) (.file [] 0o600)) :=
    createTemporary_eq accommodates among (mirrors.place_eq accommodates among)
      (mirrors.checkNames_eq accommodates among) (mirrors'.absent_beside accommodates) parent
  have resolved : (do
      let file ← resolve store.base path
      FileTree.checkNames file.names.dropLast
      return file) = .ok (store.base.below (FilePath.namesOf path)) := by
    have checked : FileTree.checkNames (store.base.below (FilePath.namesOf path)).names.dropLast =
        .ok () := by
      rw [mirrors.based]
      exact FileTree.checkNames_eq_ok fun name present =>
        (accommodates.room among).nameable name (List.dropLast_subset _ present)
    exact Checks.bind_eq_ok_iff.mpr ⟨_, mirrors.resolve_eq accommodates among,
      Checks.bind_eq_ok_iff.mpr ⟨(), checked, rfl⟩⟩
  refine ⟨made, mirrors', parent, ?_⟩
  simp only [Directory.create, resolved, makes, creates]

/-- A record and its file come to both. -/
theorem Mirrors.put (mirrors : Mirrors base paths memory store)
    (absent : memory.record? path = none)
    (parent : store.tree.locate (parentPlace base path) = .ok .directory) (record : MemoryRecord)
    (mode : Nat) :
    Mirrors base paths (memory.put path record)
      { store with tree := store.tree.put (store.place path) (.file record.data mode) } := by
  have placed := mirrors.place_eq accommodates among
  have named : store.place path ≠ [] := by simp [placed]
  have vacant : store.tree.node? (store.place path) = none := by
    rcases mirrors.found accommodates among with ⟨-, vacant, -⟩ | ⟨_, _, present, -⟩
    · exact vacant
    · simp [absent] at present
  have grown : store.tree.Within (store.tree.put (store.place path) (.file record.data mode)) :=
    FileTree.Within.put (.refl _) vacant _
  exact {
    based := mirrors.based
    ground := FileTree.locate_of_within grown mirrors.ground
    same := by
      intro other amongOther data
      rw [Memory.has_put, has_put named]
      by_cases here : other = path
      · simp only [here, if_true]
      · have elsewhere : store.place other ≠ store.place path := by
          intro same
          have spelled : spelledNames other = spelledNames path := List.append_cancel_left same
          exact here (accommodates.eq_of_prefix amongOther among (spelled ▸ List.prefix_rfl))
        simp only [here, elsewhere, if_false]
        exact mirrors.same amongOther data
    known := by
      intro other found present
      by_cases here : other = path
      · exact here ▸ among
      · exact mirrors.known ((Assoc.get?_set_of_ne here).symm.trans present)
    files := by
      intro names content other found
      by_cases here : FileTree.placeOf base.names ++ names = store.place path
      · rw [place, mirrors.based] at here
        exact ⟨path, among, (List.append_cancel_left here).symm⟩
      · exact mirrors.files ((FileTree.node?_put_of_ne here).symm.trans found)
    directories := by
      intro names beyond found
      by_cases here : FileTree.placeOf base.names ++ names = store.place path
      · rw [here, FileTree.node?_put_self named] at found
        cases found
      · exact mirrors.directories beyond ((FileTree.node?_put_of_ne here).symm.trans found)
    closed := by
      intro other name node below found
      refine grown _ _ ?_
      by_cases here : other ++ [name] = store.place path
      · rw [placed] at here
        obtain ⟨rfl, -⟩ := List.append_inj' here rfl
        exact FileTree.node?_of_locate parent
      · exact mirrors.closed other name node below
          ((FileTree.node?_put_of_ne here).symm.trans found) }

end Paths

end Directory

end KeyEnvelope.Storage
