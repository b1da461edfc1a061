import KeyEnvelope.Proofs.Recovery
import KeyEnvelope.Proofs.Storage.Mirroring

/-!
# Memory and a directory are interchangeable

At canonical paths that a directory has room for, it cannot be told from memory: a key store
comes to the same results in both, and leaves the same records behind.
-/

namespace KeyEnvelope

/-- Keys pass for alike only if they are the same, errors also if they are of the same kind. -/
def Tolerance.ofKinds : Tolerance where
  keys := Eq
  errors error other := error.kind = other.kind
  length_of_keys := congrArg _
  keys_take _ := congrArg _
  errors_refl _ := rfl
  kind_of_errors := id

theorem KeyRecord.Alike.eq {record other : Bytes} (alike : KeyRecord.Alike Eq record other) :
    record = other := by
  rw [← List.take_append_drop KeyRecord.headerSize record, alike.header, alike.rest,
    List.take_append_drop]

namespace Storage.Directory

/-- There is a draft for the same path in memory and, in a temporary file, in the directory,
which mirrors memory in all the rest. -/
structure Drafts (base : FilePath) (paths : Text → Prop) (path : Text)
    (writing : Writing Memory.Draft) (writing' : Writing Draft) (memory : Memory)
    (store : Directory) : Prop where
  among : paths path
  draft : ∃ replication, writing.draft = ⟨path, replication, writing.content⟩
  draft' : writing'.draft = ⟨store.place path, temporaryBeside base path⟩
  origin' : writing'.origin = writing'.draft
  file : ∃ mode,
    store.tree.node? (temporaryBeside base path) = some (.file writing'.content mode)
  parent : (store.tree.remove (temporaryBeside base path)).locate (parentPlace base path) =
    .ok .directory
  mirrors : Mirrors base paths memory
    { store with tree := store.tree.remove (temporaryBeside base path) }

/-- Memory and a directory side by side. -/
def mirroring (base : FilePath) (paths : Text → Prop) : Resemblance Memory.client client where
  toTolerance := .ofKinds
  Covers := paths
  visible _ := false
  Related := Mirrors base paths
  Drafted writing writing' memory store :=
    ∃ path, Drafts base paths path writing writing' memory store

variable {base : FilePath} {paths : Text → Prop} {path : Text} {memory : Memory}
  {store : Directory} {writing : Writing Memory.Draft} {writing' : Writing Draft}

theorem temporaryBeside_ne_nil : temporaryBeside base path ≠ [] := by
  simp [temporaryBeside]

/-- That a record was begun does not count. -/
theorem Mirrors.logWrite (mirrors : Mirrors base paths memory store) (path : Text) :
    Mirrors base paths (memory.logWrite path) store :=
  { mirrors with same := mirrors.same, known := mirrors.known }

/-- What is written goes to the end of the draft in memory and to that of the temporary file. -/
theorem Drafts.append (drafts : Drafts base paths path writing writing' memory store)
    (chunk chunk' : Bytes) :
    Drafts base paths path
      (writing.append chunk { writing.draft with content := writing.draft.content ++ chunk })
      (writing'.append chunk' writing'.draft) memory
      { store with tree := store.tree.append writing'.draft.temporary chunk' } := by
  obtain ⟨mode, file⟩ := drafts.file
  have appended : store.tree.append writing'.draft.temporary chunk' =
      store.tree.put (temporaryBeside base path) (.file (writing'.content ++ chunk') mode) := by
    simp only [FileTree.append, drafts.draft', file]
  have nodes : ∀ place, ((store.tree.put (temporaryBeside base path)
      (.file (writing'.content ++ chunk') mode)).remove (temporaryBeside base path)).node? place =
        (store.tree.remove (temporaryBeside base path)).node? place :=
    FileTree.node?_remove_put temporaryBeside_ne_nil _
  obtain ⟨replication, draft⟩ := drafts.draft
  rw [appended]
  exact {
    among := drafts.among
    draft := ⟨replication, by rw [draft]; rfl⟩
    draft' := drafts.draft'
    origin' := drafts.origin'
    file := ⟨mode, FileTree.node?_put_self temporaryBeside_ne_nil⟩
    parent := FileTree.locate_of_within (fun place node found => (nodes place).trans found)
      drafts.parent
    mirrors := drafts.mirrors.congr nodes }

theorem Drafts.placed (accommodates : Accommodates base paths)
    (drafts : Drafts base paths path writing writing' memory store) :
    store.place path = parentPlace base path ++ [spelledLast path] :=
  (drafts.mirrors.place_eq accommodates drafts.among :)

/-- A temporary file never stands where a record is to be. -/
theorem Drafts.apart (accommodates : Accommodates base paths)
    (drafts : Drafts base paths path writing writing' memory store) :
    store.place path ≠ temporaryBeside base path := by
  rw [drafts.placed accommodates, temporaryBeside]
  intro same
  have size := byteSize_temporaryName (spelledLast path)
  rw [← List.singleton_inj.mp (List.append_cancel_left same), temporaryRoom] at size
  omega

/-- The temporary file can be linked to the target if there is no record yet. -/
theorem Drafts.link_eq (accommodates : Accommodates base paths)
    (drafts : Drafts base paths path writing writing' memory store) :
    ∃ mode, store.tree.link (temporaryBeside base path) (store.place path) =
      if (memory.record? path).isSome then .error .alreadyExists
      else .ok (store.tree.put (store.place path) (.file writing'.content mode)) := by
  obtain ⟨mode, file⟩ := drafts.file
  have parent := FileTree.locate_of_within (FileTree.within_remove store.tree _) drafts.parent
  have located : store.tree.locate (temporaryBeside base path) =
      .ok (.file writing'.content mode) := by
    have child := FileTree.locate_child parent (accommodates.temporary_short drafts.among)
      (accommodates.temporary_reach drafts.among)
    rw [temporaryBeside, child, show store.tree.node? (_ ++ _) = _ from file]
    rfl
  have taken : (store.tree.node? (store.place path)).isSome = (memory.record? path).isSome := by
    rw [← FileTree.node?_remove_of_ne (drafts.apart accommodates)]
    rcases drafts.mirrors.found accommodates drafts.among with
      ⟨absent, vacant, -⟩ | ⟨record, _, present, taken, -⟩
    · rw [absent, show (store.tree.remove _).node? (store.place path) = _ from vacant]
      rfl
    · rw [present, show (store.tree.remove _).node? (store.place path) = _ from taken]
      rfl
  have vacancy : store.tree.checkVacant (store.place path) =
      if (memory.record? path).isSome then .error .alreadyExists else .ok () := by
    have reach := accommodates.reach drafts.among
    rw [accommodates.place_eq drafts.among] at reach
    rw [← taken, drafts.placed accommodates]
    exact FileTree.checkVacant_child parent (accommodates.last_short drafts.among) reach
  refine ⟨mode, ?_⟩
  rw [FileTree.link, located, vacancy]
  split <;> rfl

theorem Drafts.publish (accommodates : Accommodates base paths)
    (alike : KeyRecord.Alike Eq writing.content writing'.content)
    (drafts : Drafts base paths path writing writing' memory store) :
    (mirroring base paths).Answers (fun _ _ => Mirrors base paths) (Mirrors base paths)
      (Memory.serve (.publish writing.draft) memory) (serve (.publish writing'.draft) store) := by
  obtain ⟨replication, draft⟩ := drafts.draft
  obtain ⟨mode, linked⟩ := drafts.link_eq accommodates
  refine ⟨?_, rfl⟩
  rw [draft, drafts.draft']
  cases present : memory.record? path with
  | none =>
    rw [present, ← alike.eq] at linked
    have published : memory.publish ⟨path, replication, writing.content⟩ = _ :=
      Memory.publish_of_absent present
    have named : store.place path ≠ [] := by simp [drafts.placed accommodates]
    have mirrors := (drafts.mirrors.put accommodates drafts.among present drafts.parent
      ⟨writing.content, replication⟩ mode).congr (FileTree.node?_remove_put_of_ne
        (drafts.apart accommodates) temporaryBeside_ne_nil named _)
    simp only [serve, Memory.serve, Served.quiet, Directory.publish, linked, published]
    exact .ok mirrors
  | some record =>
    rw [present] at linked
    have refused : memory.publish ⟨path, replication, writing.content⟩ = _ :=
      Memory.publish_of_present present
    simp only [serve, Memory.serve, Served.quiet, Directory.publish, linked, refused]
    exact .error ⟨.system rfl, drafts.mirrors⟩

theorem mirroring_holds (accommodates : Accommodates base paths) :
    (mirroring base paths).Holds where
  visible_errors _ _ _ := rfl
  contains := by
    intro memory store path among mirrors
    refine ⟨?_, rfl⟩
    simp only [serve, Memory.serve, Served.quiet, mirrors.contains_eq accommodates among]
    exact .ok ⟨rfl, mirrors⟩
  create := by
    intro memory store path replication among mirrors
    obtain ⟨made, mirrors', parent, creates⟩ := mirrors.create_eq accommodates among replication
    have absent : made.node? (temporaryBeside base path) = none :=
      mirrors'.absent_beside accommodates
    have nodes : ∀ place, ((made.put (temporaryBeside base path) (.file [] 0o600)).remove
        (temporaryBeside base path)).node? place = made.node? place := by
      intro place
      rw [FileTree.node?_remove_put temporaryBeside_ne_nil, FileTree.node?_remove_of_absent absent]
    simp only [Resemblance.Answers, serve, Memory.serve, creates]
    refine ⟨.ok ⟨path, ?_⟩, by simp [mirroring, Served.quiet]⟩
    exact {
      among
      draft := ⟨replication, rfl⟩
      draft' := rfl
      origin' := rfl
      file := ⟨_, FileTree.node?_put_self temporaryBeside_ne_nil⟩
      parent := FileTree.locate_of_within (fun place node found => (nodes place).trans found) parent
      mirrors := (mirrors'.congr nodes).logWrite path }
  renew := by
    rintro memory store writing writing' ⟨path, drafts⟩
    exact ⟨path, { drafts with origin' := rfl }⟩
  write := by
    rintro memory store writing writing' chunk chunk' - ⟨path, drafts⟩
    exact ⟨.ok ⟨path, drafts.append chunk chunk'⟩, rfl⟩
  publish := by
    rintro memory store writing writing' alike ⟨path, drafts⟩
    exact drafts.publish accommodates alike
  discard := by
    rintro memory store writing writing' ⟨path, drafts⟩
    refine ⟨?_, rfl⟩
    rw [drafts.origin', drafts.draft']
    exact drafts.mirrors
  openRecord := by
    intro memory store path among mirrors
    refine ⟨?_, rfl⟩
    simp only [serve, Memory.serve, Served.quiet, Memory.openRecord]
    rcases mirrors.openRecord_paired accommodates among with
      ⟨absent, fails⟩ | ⟨record, present, opens⟩
    · rw [absent, fails]
      exact .error ⟨.system rfl, mirrors⟩
    · rw [present, opens]
      exact .ok ⟨⟨rfl, rfl⟩, mirrors⟩
  read := by
    intro memory store reader reader' count mirrors
    refine ⟨?_, rfl⟩
    simp only [serve, Memory.serve, Served.quiet, read, Memory.read,
      show ¬(count : Int) < -1 by omega, if_false]
    cases checkCount count with
    | error failure => exact .error ⟨.same _, mirrors⟩
    | ok _ => exact .ok ⟨rfl, rfl, mirrors⟩

/-- The directory is there, with all that its names lead through, and there is nothing in it. -/
structure IsEmpty (store : Directory) : Prop where
  there {front : List Text} : front <+: store.base.names →
    store.tree.locate (FileTree.placeOf front) = .ok .directory
  nothing {names : List Text} :
    names ≠ [] → store.tree.node? (FileTree.placeOf store.base.names ++ names) = none

theorem IsEmpty.mirrors (accommodates : Accommodates store.base paths) (empty : store.IsEmpty) :
    Mirrors store.base paths .empty store where
  based := rfl
  ground := empty.there (List.prefix_refl _)
  same among data := by
    constructor
    · rintro ⟨replication, ⟨⟩⟩
    · rintro ⟨mode, found⟩
      have vacant := empty.nothing (accommodates.spelledNames_ne_nil among)
      cases vacant.symm.trans found
  known := nofun
  files {names content mode} found := by
    by_cases start : names = []
    · rw [start, List.append_nil, FileTree.node?_of_locate (empty.there (List.prefix_refl _))] at found
      cases found
    · cases (empty.nothing start).symm.trans found
  directories beyond found := by cases (empty.nothing beyond).symm.trans found
  closed := by
    rintro _ name node ⟨names, rfl⟩ found
    rw [List.append_assoc] at found
    cases (empty.nothing (by simp)).symm.trans found

/-- Failures of the same class, with the same path. -/
def SameClass (failure other : Failure) : Prop :=
  failure.Like (fun error error' => error.kind = error'.kind) other ∧ failure.path? = other.path?

theorem sameClass_of_like {failure other : Failure}
    (alike : failure.Like (fun error error' => error.kind = error'.kind) other) :
    SameClass failure other := by
  refine ⟨alike, ?_⟩
  cases alike <;> rfl

end Storage.Directory

/-- The call is one of a key store, at one of the paths. -/
def Call.IsOfKeyStore (paths : Text → Prop) : Call → Prop
  | contains path | ensure _ _ path _ | load path => paths path
  | encrypt _ _ | decrypt _ _ => False

namespace Storage.Directory

variable {base : FilePath} {paths : Text → Prop} {memory : Memory} {store : Directory}

theorem Mirrors.call (accommodates : Accommodates base paths)
    (mirrors : Mirrors base paths memory store) {call : Call} (concerned : call.IsOfKeyStore paths)
    (conditions : Conditions) :
    Paired Eq SameClass (Memory.client.perform conditions call.operation memory).1
        (client.perform conditions call.operation store).1 ∧
      Mirrors base paths (Memory.client.perform conditions call.operation memory).2
        (client.perform conditions call.operation store).2 := by
  have holds := (mirroring_holds accommodates).coupled fun generator count =>
    Paired.refl (conditions.source generator count)
  have start : ((mirroring base paths).coupling conditions.source conditions.source).Related
      (memory, conditions.disturbances) (store, conditions.disturbances) := ⟨mirrors, rfl⟩
  have agrees : ((mirroring base paths).coupling conditions.source conditions.source).Agrees Eq
      call.operation call.operation (memory, conditions.disturbances)
      (store, conditions.disturbances) := by
    cases call with
    | contains path => exact KeyStore.contains_agrees holds concerned start
    | ensure generator replication path bits =>
      exact KeyStore.ensure_agrees holds concerned generator replication bits start
    | load path => exact KeyStore.load_agrees holds concerned start
    | encrypt _ _ | decrypt _ _ => exact concerned.elim
  obtain ⟨paired, related, -⟩ := agrees.1.split
  exact ⟨paired.mono (fun _ _ => id) fun _ _ => sameClass_of_like, related⟩

theorem Mirrors.performAll (accommodates : Accommodates base paths)
    (mirrors : Mirrors base paths memory store) (calls : List (Call × Conditions))
    (concerned : ∀ call ∈ calls, call.1.IsOfKeyStore paths) :
    Mirrors base paths (Memory.client.performAll calls memory) (client.performAll calls store) := by
  induction calls generalizing memory store with
  | nil => exact mirrors
  | cons call rest inductionHypothesis =>
    obtain ⟨concernedFirst, concernedRest⟩ := List.forall_mem_cons.mp concerned
    exact inductionHypothesis (mirrors.call accommodates concernedFirst call.2).2 concernedRest

/-- After every run of calls on a key store, memory and a directory that was empty have the same
records, and the next call ends the same way in both. -/
theorem interchangeable_with_memory (store : Directory) (empty : store.IsEmpty)
    (paths : Text → Prop) (accommodates : Accommodates store.base paths)
    (calls : List (Call × Conditions)) (concerned : ∀ call ∈ calls, call.1.IsOfKeyStore paths) :
    let memory := Memory.client.performAll calls .empty
    let after := client.performAll calls store
    (∀ path data,
      Memory.contents.Has memory path data ↔ paths path ∧ contents.Has after path data) ∧
    (∀ names content mode,
      after.tree.node? (FileTree.placeOf store.base.names ++ names) = some (.file content mode) →
        ∃ path, paths path ∧ spelledNames path = names) ∧
    ∀ call : Call, call.IsOfKeyStore paths → ∀ conditions,
      Paired Eq SameClass (Memory.client.perform conditions call.operation memory).1
        (client.perform conditions call.operation after).1 := by
  intro memory after
  have mirrors : Mirrors store.base paths memory after :=
    (empty.mirrors accommodates).performAll accommodates calls concerned
  refine ⟨fun path data => ⟨?_, ?_⟩, ?_, ?_⟩
  · rintro ⟨replication, present⟩
    have among := mirrors.known present
    exact ⟨among, (mirrors.same among data).mp ⟨replication, present⟩⟩
  · rintro ⟨among, has⟩
    exact (mirrors.same among data).mpr has
  · exact fun names content mode => mirrors.files
  · exact fun call concerned conditions => (mirrors.call accommodates concerned conditions).1

/-- Two keys in one directory below the base, of which one is made and found again. -/
theorem interchangeable_at_siblings :
    let paths : Text → Prop := fun path => path = "/keys/clé" ∨ path = "/keys/clef"
    let store : Directory := ⟨⟨.single, ["store"]⟩, ⟨[(["store"], .directory)]⟩⟩
    let calm : Conditions := ⟨Randomness.zeros, []⟩
    let calls : List (Call × Conditions) :=
      [(.contains "/keys/clé", calm), (.ensure .system 5 "/keys/clé" 128, calm),
        (.ensure .system 5 "/keys/clé" 256, calm)]
    let memory := Memory.client.performAll calls .empty
    let after := client.performAll calls store
    Memory.contents.Has memory "/keys/clé" (KeyRecord.encode (List.replicate 16 0)) ∧
    (∀ path data,
      Memory.contents.Has memory path data ↔ paths path ∧ contents.Has after path data) ∧
    (∀ names content mode,
      after.tree.node? (FileTree.placeOf store.base.names ++ names) = some (.file content mode) →
        ∃ path, paths path ∧ spelledNames path = names) ∧
    ∀ call : Call, call.IsOfKeyStore paths → ∀ conditions,
      Paired Eq SameClass (Memory.client.perform conditions call.operation memory).1
        (client.perform conditions call.operation after).1 := by
  intro paths store calm calls
  have canonical (names : List Text) (nonempty : names ≠ [])
      (valid : ∀ name ∈ names, FilePath.IsName name) :
      FilePath.IsCanonical (FilePath.rooted names) := ⟨names, nonempty, valid, rfl⟩
  have accommodates : Accommodates store.base paths :=
    { canonical := by
        rintro _ (rfl | rfl)
        · exact canonical ["keys", "clé"] (by decide) (by decide)
        · exact canonical ["keys", "clef"] (by decide) (by decide)
      apart := by
        rintro _ _ (rfl | rfl) (rfl | rfl)
        · exact fun _ => rfl
        · exact fun leads => absurd leads (by decide)
        · exact fun leads => absurd leads (by decide)
        · exact fun _ => rfl
      faithful := by
        rintro _ _ (rfl | rfl) (rfl | rfl) <;> exact FileTree.eq_of_spelled_eq_of_characters
      room := by
        rintro _ (rfl | rfl)
        · exact ⟨by decide, by decide, by decide, by decide⟩
        · exact ⟨by decide, by decide, by decide, by decide⟩ }
  have empty : store.IsEmpty :=
    { there := by
        intro front leads
        rcases List.prefix_cons_iff.mp leads with rfl | ⟨rest, rfl, last⟩
        · decide
        · obtain rfl := List.prefix_nil.mp last
          decide
      nothing := by
        intro names beyond
        have base : FileTree.placeOf store.base.names = ["store"] := by decide
        simp [base, store, FileTree.node?, Assoc.get?, beyond] }
  have concerned : ∀ call ∈ calls, call.1.IsOfKeyStore paths := by
    simp [calls, Call.IsOfKeyStore, paths]
  refine ⟨⟨some 5, by decide +kernel⟩, ?_⟩
  exact interchangeable_with_memory store empty paths accommodates calls concerned

end Storage.Directory

end KeyEnvelope
