import KeyEnvelope.Proofs.Decryption
import KeyEnvelope.Proofs.FileTree.Obstacles
import KeyEnvelope.Proofs.KeyStore.Complaints
import KeyEnvelope.Proofs.Recovery

/-!
# Whether there is a record

Asking for a record and loading it agree about whether there is one, as long as nothing else is
in the way. Asking takes whatever is in the way for nothing; opening says what it is.
-/

namespace KeyEnvelope.Storage.Directory

variable {store : Directory} {path : Text} {source : Randomness.Source}

/-- What a key store makes of a failure, if it reports errors of the system in a way of its own. -/
def reported (report : SystemError → Failure) : Failure → Failure
  | .system error => report error
  | failure => failure

theorem perform_contains (store : Directory) (path : Text) (source : Randomness.Source) :
    (client.perform ⟨source, []⟩ (KeyStore.contains path) store).1 =
      (store.contains path).mapError (reported fun error => .storage path (.system error)) := by
  suffices asks : (KeyStore.contains path).Meets (client.calm source) (fun result _ => result =
      (store.contains path).mapError (reported fun error => .storage path (.system error)))
      store from client.perform_calm asks
  simp only [KeyStore.contains, Operation.meets_andThen, Operation.meets_contains]
  refine ⟨trivial, ?_⟩
  intro answer next served
  obtain rfl : store.contains path = answer := congrArg Prod.fst served
  cases store.contains path with
  | ok found => rfl
  | error failure =>
    cases failure with
    | system error => exact ⟨trivial, fun _ _ _ => rfl⟩
    | _ => rfl

theorem perform_contains_eq_ok_iff {found : Bool} :
    (client.perform ⟨source, []⟩ (KeyStore.contains path) store).1 = .ok found ↔
      store.contains path = .ok found := by
  rw [perform_contains]
  cases store.contains path with
  | ok _ => exact Iff.rfl
  | error failure => simp [Except.mapError]

theorem perform_load_of_error {failure : Failure}
    (opened : store.openRecord path = .error failure) :
    (client.perform ⟨source, []⟩ (KeyStore.load path) store).1 =
      .error (reported (KeyStore.readFailure path) failure) := by
  suffices loads : (KeyStore.load path).Meets (client.calm source)
      (fun result _ => result = .error (reported (KeyStore.readFailure path) failure))
      store from client.perform_calm loads
  simp only [KeyStore.load, KeyStore.readRecord, Operation.meets_andThen, Operation.meets_bind,
    Operation.meets_openRecord]
  refine ⟨trivial, ?_⟩
  intro answer next served
  obtain rfl : store.openRecord path = answer := congrArg Prod.fst served
  rw [opened]
  cases failure with
  | system error =>
    rw [reported, KeyStore.readFailure]
    dsimp only
    split
    · rfl
    · exact ⟨trivial, fun _ _ _ => rfl⟩
  | _ => rfl

theorem perform_load_of_ok {data : Bytes} (opened : store.openRecord path = .ok data) :
    (client.perform ⟨source, []⟩ (KeyStore.load path) store).1 =
      ((KeyRecord.decode data).map Prod.fst).mapError (.storage path) := by
  have held : Custody.Holds client path data store := opened
  exact (client.perform_calm (KeyStore.load_of_offers (custody.offers source path data) held)).1

/-- Something else is in the way of a record: its names are none for the system, a directory is
in its place, or a file on the way there. -/
inductive Obstructed (store : Directory) (path : Text) : Prop where
  | names : (FileTree.nameFault? (store.base.names ++ FilePath.namesOf path)).isSome →
    Obstructed store path
  | directory : store.tree.locate (store.place path) = .ok .directory → Obstructed store path
  | file {way : Place} {content : Bytes} {mode : Nat} :
      way <+: store.place path → way ≠ store.place path →
      store.tree.locate way = .ok (.file content mode) → Obstructed store path

/-- What names lead to decides both what asking for a record says and how opening it goes. -/
theorem contains_and_openRecord {found : Bool} (asked : store.contains path = .ok found) :
    (found = false ∧ ∃ failure,
        FileTree.nameFault? (store.base.names ++ FilePath.namesOf path) = some failure ∧
        store.openRecord path = .error failure) ∨
      FileTree.nameFault? (store.base.names ++ FilePath.namesOf path) = none ∧
        store.openRecord path = FileTree.coded (store.tree.content (store.place path)) ∧
        FileTree.coded (store.tree.holdsFile (store.place path)) = .ok found := by
  simp only [contains, Checks.bind_eq_ok_iff] at asked
  obtain ⟨file, resolved, asked⟩ := asked
  obtain ⟨-, rfl⟩ := resolve_eq_ok_iff.mp resolved
  have opens : store.openRecord path = (do
      FileTree.checkNames (store.base.names ++ FilePath.namesOf path)
      FileTree.coded (store.tree.content (store.place path))) := by
    rw [openRecord, resolved]
    rfl
  have names : (store.base.below (FilePath.ofText path).names).names =
      store.base.names ++ FilePath.namesOf path := rfl
  rw [names] at asked
  cases fault : FileTree.nameFault? (store.base.names ++ FilePath.namesOf path) with
  | some failure =>
    rw [if_pos (by rw [fault]; rfl)] at asked
    exact .inl ⟨(Except.ok.inj asked).symm, failure, rfl,
      by rw [opens, FileTree.checkNames, fault]; rfl⟩
  | none =>
    rw [if_neg (by rw [fault]; simp)] at asked
    exact .inr ⟨rfl, by rw [opens, FileTree.checkNames, fault]; rfl, asked⟩

theorem obstructed_iff
    (nameable : FileTree.nameFault? (store.base.names ++ FilePath.namesOf path) = none)
    (reach : FileTree.outOfReach (store.place path) = false) :
    Obstructed store path ↔ store.tree.locate (store.place path) = .ok .directory ∨
      store.tree.locate (store.place path) = .error .notDirectory := by
  constructor
  · intro obstructed
    cases obstructed with
    | names fault => simp [nameable] at fault
    | directory located => exact .inl located
    | file leads proper located =>
      exact .inr ((FileTree.locate_eq_notDirectory_iff reach).mpr ⟨_, _, _, leads, proper, located⟩)
  · intro located
    rcases located with located | fails
    · exact .directory located
    · obtain ⟨way, content, mode, leads, proper, located⟩ :=
        (FileTree.locate_eq_notDirectory_iff reach).mp fails
      exact .file leads proper located

theorem missing_iff_of_code {code : ErrorCode}
    (opened : store.openRecord path = .error (.system (.coded code))) :
    (∃ other cause, (client.perform ⟨source, []⟩ (KeyStore.load path) store).1 =
      .error (.kekMissing other cause)) ↔ code = .noEntry := by
  rw [perform_load_of_error opened]
  cases code <;> simp [reported, KeyStore.readFailure, SystemError.kind, ErrorCode.kind]

/-- Where a record can be asked for, loading it says that it is missing if there is none and
nothing else is in the way. If something is, there is none, but loading says otherwise. -/
theorem load_missing_iff (store : Directory) (path : Text) (source : Randomness.Source)
    (found : Bool)
    (asked : (client.perform ⟨source, []⟩ (KeyStore.contains path) store).1 = .ok found) :
    ((∃ other cause, (client.perform ⟨source, []⟩ (KeyStore.load path) store).1 =
        .error (.kekMissing other cause)) ↔ found = false ∧ ¬Obstructed store path) ∧
      (Obstructed store path → found = false) := by
  rcases contains_and_openRecord (perform_contains_eq_ok_iff.mp asked) with
    ⟨rfl, failure, fault, opened⟩ | ⟨nameable, opened, held⟩
  · have obstructed : Obstructed store path := .names (by rw [fault]; rfl)
    have loaded : (client.perform ⟨source, []⟩ (KeyStore.load path) store).1 =
        .error (reported (KeyStore.readFailure path) failure) := perform_load_of_error opened
    refine ⟨?_, fun _ => rfl⟩
    rcases FileTree.eq_of_nameFault? fault with rfl | rfl
    · simp [loaded, reported, obstructed]
    · simp [loaded, reported, obstructed]
  · rw [FileTree.content] at opened
    rw [FileTree.holdsFile] at held
    have reach : FileTree.outOfReach (store.place path) = false := by
      rw [Bool.eq_false_iff]
      intro far
      rw [FileTree.locate, if_pos far] at held
      cases held
    have obstructed := obstructed_iff nameable reach
    rcases located : store.tree.locate (store.place path) with code | _ | ⟨content, mode⟩
    · rw [located] at opened held obstructed
      rw [missing_iff_of_code opened]
      cases code with
      | noEntry =>
        obtain rfl : false = found := Except.ok.inj held
        simp [obstructed]
      | notDirectory =>
        obtain rfl : false = found := Except.ok.inj held
        simp [obstructed]
      | _ => cases held
    · rw [located] at opened held obstructed
      obtain rfl : false = found := Except.ok.inj held
      rw [missing_iff_of_code opened]
      simp [obstructed]
    · rw [located] at opened held obstructed
      obtain rfl : true = found := Except.ok.inj held
      rw [perform_load_of_ok opened]
      cases KeyRecord.decode content with
      | ok key => simp [obstructed, Except.mapError, Except.map]
      | error issue => simp [obstructed, Except.mapError, Except.map]

/-- A base directory with nothing in it. -/
def bare : Directory :=
  ⟨⟨.single, ["base"]⟩, FileTree.empty.put ["base"] .directory⟩

theorem load_missing_in_bare :
    (client.perform ⟨Randomness.zeros, []⟩ (KeyStore.contains "/k") bare).1 = .ok false ∧
      (∃ other cause, (client.perform ⟨Randomness.zeros, []⟩ (KeyStore.load "/k") bare).1 =
        .error (.kekMissing other cause)) ∧ ¬Obstructed bare "/k" := by
  have asked :
      (client.perform ⟨Randomness.zeros, []⟩ (KeyStore.contains "/k") bare).1 = .ok false := rfl
  have missing : ∃ other cause,
      (client.perform ⟨Randomness.zeros, []⟩ (KeyStore.load "/k") bare).1 =
        .error (.kekMissing other cause) := ⟨"/k", some (.coded .noEntry), rfl⟩
  exact ⟨asked, missing, ((load_missing_iff bare "/k" Randomness.zeros false asked).1.mp missing).2⟩

/-- A base directory with a directory where a record could be. -/
def blocked : Directory :=
  { bare with tree := bare.tree.put ["base", "k"] .directory }

theorem not_load_missing_in_blocked :
    (client.perform ⟨Randomness.zeros, []⟩ (KeyStore.contains "/k") blocked).1 = .ok false ∧
      (client.perform ⟨Randomness.zeros, []⟩ (KeyStore.load "/k") blocked).1 =
        .error (.storage "/k" (.system (.coded .isDirectory))) :=
  ⟨rfl, rfl⟩

end KeyEnvelope.Storage.Directory
