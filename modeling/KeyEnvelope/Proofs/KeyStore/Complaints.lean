import KeyEnvelope.Proofs.KeyStore.Loading
import KeyEnvelope.Strategy

/-!
# What is made of complaints

A store may answer every request with an error of the system. What a key store makes of it
depends on the request alone: a record that somebody else has published is none to complain
about, all other errors end the operation with a failure that names the path and holds the
error. A record that was read without a complaint may still not be one.
-/

namespace KeyEnvelope

variable {Draft α : Type}

/-- The failure is one of those that the library has for its users. -/
def Failure.IsOwn : Failure → Prop
  | .configuration _ | .kekMissing _ _ | .kekNotCreated _ _ | .storage _ _ | .wrap _ | .unwrap _ =>
    True
  | _ => False

/-- The failure is one of the library's own, and names no path but the given one. -/
structure Failure.Concerns (failure : Failure) (path : Text) : Prop where
  own : failure.IsOwn
  located : ∀ other, failure.path? = some other → other = path

namespace Failure

variable {path : Text}

@[simp]
theorem concerns_configuration (issue : ConfigurationIssue) :
    (configuration issue).Concerns path :=
  ⟨trivial, by simp [path?]⟩

@[simp]
theorem concerns_storage (path : Text) (issue : StorageIssue) :
    (storage path issue).Concerns path :=
  ⟨trivial, by simp [path?]⟩

@[simp]
theorem concerns_kekMissing (path : Text) (cause : Option SystemError) :
    (kekMissing path cause).Concerns path :=
  ⟨trivial, by simp [path?]⟩

@[simp]
theorem concerns_kekNotCreated (path : Text) (error : SystemError) :
    (kekNotCreated path error).Concerns path :=
  ⟨trivial, by simp [path?]⟩

@[simp]
theorem concerns_wrap (issue : WrapIssue) : (wrap issue).Concerns path :=
  ⟨trivial, by simp [path?]⟩

@[simp]
theorem concerns_unwrap (issue : WrapIssue) : (unwrap issue).Concerns path :=
  ⟨trivial, by simp [path?]⟩

end Failure

/-- What is wrong with a record from which these chunks were read: its header first, and
then its key. -/
def KeyRecord.issue? : List Bytes → Option StorageIssue
  | [] => none
  | header :: later =>
    match keyLength header with
    | .error issue => some issue
    | .ok length =>
      match later with
      | [] => none
      | key :: _ =>
        match checkKey length key with
        | .error issue => some issue
        | .ok _ => none

/-- What a store complains about with an answer, if it does. -/
def Storage.complaint? : (request : Request Draft) → Answer request → Option Failure
  | .contains _, .error failure => some failure
  | .create _ _, .error failure => some failure
  | .write _ _, .error failure => some failure
  | .publish _, .error failure => some failure
  | .openRecord _, .error failure => some failure
  | .read _ _, .error failure => some failure
  | _, _ => none

namespace KeyStore

/-- A record that is there already is no failure to create one. -/
def createFailure? (path : Text) (error : SystemError) : Option Failure :=
  if error.kind = .fileExists then none else some (.kekNotCreated path error)

def readFailure (path : Text) (error : SystemError) : Failure :=
  if error.kind = .fileNotFound then .kekMissing path (some error) else .storage path (.system error)

/-- What becomes of an error that a request was answered with: the failure of the
operation, or nothing. -/
def report? (path : Text) : Storage.Request Draft → SystemError → Option Failure
  | .contains _, error => some (.storage path (.system error))
  | .create _ _, error | .write _ _, error | .publish _, error => createFailure? path error
  | .openRecord _, error | .read _ _, error => some (readFailure path error)
  | .discard _, _ => none

end KeyStore

namespace Surroundings

/-- Stores complain about errors of the system only, and random sources give as many bytes
as they are asked for. -/
def Conforms : (request : Request Draft) → Answer request → Prop
  | .storage request, answer =>
    ∀ failure, Storage.complaint? request answer = some failure → ∃ error, failure = .system error
  | .draw _ count, answer => ∃ key, answer = .ok key ∧ key.length = count
  | .note _, _ => True

/-- No more is asked to be read at once than a store can count. -/
def Request.IsCountable : Request Draft → Prop
  | .storage (.read _ count) => 0 ≤ count ∧ count < 9223372036854775808
  | _ => True

/-- What there is to account for after a history of requests and answers. -/
structure Account where
  /-- The paths of the records that were opened, or were to be. -/
  opened : List Text
  /-- What was read. -/
  chunks : List Bytes
  /-- The failures that errors are to be reported as. -/
  reported : List Failure
  /-- Whether there was an error of which nothing is to become. -/
  absorbed : Bool

namespace Account

def empty : Account := ⟨[], [], [], false⟩

def visit (account : Account) :
    (request : Storage.Request Draft) → Storage.Answer request → Account
  | .openRecord path, _ => { account with opened := account.opened ++ [path] }
  | .read _ _, .ok found => { account with chunks := account.chunks ++ [found.1] }
  | _, _ => account

def complain (account : Account) : Option Failure → Account
  | some failure => { account with reported := account.reported ++ [failure] }
  | none => { account with absorbed := true }

def enter (path : Text) (account : Account) : Exchange (interface Draft) → Account
  | ⟨.storage request, answer⟩ =>
    match Storage.complaint? request answer with
    | some (.system error) =>
      (account.visit request answer).complain (KeyStore.report? path request error)
    | _ => account.visit request answer
  | _ => account

@[simp]
theorem enter_note (path : Text) (account : Account) (event : Log.Event) :
    account.enter path (⟨.note event, ()⟩ : Exchange (interface Draft)) = account := rfl

/-- What has become of a history is a result that the account explains: every error is
reported as it is to be, a record that is none is reported as such, and a record that was
there already was gone on to. -/
structure Explains (account : Account) (path : Text) (result : Except Failure α) : Prop where
  concerns : ∀ failure, result = .error failure → failure.Concerns path
  reported : ∀ failure ∈ account.reported, result = .error failure
  undecodable : ∀ issue, KeyRecord.issue? account.chunks = some issue →
    result = .error (.storage path issue)
  opened : account.absorbed = true → path ∈ account.opened

section Explains

variable {β : Type} {account : Account} {path : Text}

theorem Explains.error {failure : Failure}
    (explains : account.Explains path (.error failure : Except Failure α)) :
    account.Explains path (.error failure : Except Failure β) :=
  ⟨by simpa using explains.concerns failure rfl, by simpa using explains.reported,
    by simpa using explains.undecodable, explains.opened⟩

/-- If nothing stood in the way so far, anything can come of it. -/
theorem Explains.of_ok {value : α} (explains : account.Explains path (.ok value))
    {result : Except Failure β}
    (concerns : ∀ failure, result = .error failure → failure.Concerns path) :
    account.Explains path result where
  concerns := concerns
  reported failure among := by cases explains.reported failure among
  undecodable issue wrong := by cases explains.undecodable issue wrong
  opened := explains.opened

theorem explains_empty {result : Except Failure α}
    (concerns : ∀ failure, result = .error failure → failure.Concerns path) :
    empty.Explains path result where
  concerns := concerns
  reported failure among := by cases among
  undecodable issue wrong := by cases wrong
  opened absorbed := by cases absorbed

theorem explains_complain {failure : Failure} (concerns : failure.Concerns path) :
    (empty.complain (some failure)).Explains path (.error failure : Except Failure α) where
  concerns := by simpa using concerns
  reported other among := by rw [List.mem_singleton.mp among]
  undecodable issue wrong := by cases wrong
  opened absorbed := by cases absorbed

end Explains

end Account

/-- Keeps account of what conforming surroundings answer. -/
def accounting (path : Text) : Contract (interface Draft) Account where
  permits request := request.IsCountable
  serves request account answer next :=
    Conforms request answer ∧ next = account.enter path ⟨request, answer⟩

/-- What was read in the course of a history. -/
def chunksRead (history : List (Exchange (interface Draft))) : List Bytes :=
  history.filterMap fun
    | ⟨.storage (.read _ _), .ok found⟩ => some found.1
    | _ => none

namespace Account

variable {path : Text} {account : Account} {history : List (Exchange (interface Draft))}
  {request : Storage.Request Draft} {answer : Storage.Answer request} {error : SystemError}

def enterAll (path : Text) (account : Account) (history : List (Exchange (interface Draft))) :
    Account :=
  history.foldl (enter path) account

theorem eq_enterAll_of_follows {final : Account}
    (follows : (accounting path).Follows account history final) :
    final = account.enterAll path history := by
  induction follows with
  | nil => rfl
  | cons served _ inductionHypothesis =>
    rw [inductionHypothesis, served.2]
    rfl

@[simp]
theorem reported_visit : (account.visit request answer).reported = account.reported := by
  unfold visit
  split <;> rfl

@[simp]
theorem absorbed_visit : (account.visit request answer).absorbed = account.absorbed := by
  unfold visit
  split <;> rfl

@[simp]
theorem opened_complain (failure? : Option Failure) :
    (account.complain failure?).opened = account.opened := by
  cases failure? <;> rfl

@[simp]
theorem chunks_complain (failure? : Option Failure) :
    (account.complain failure?).chunks = account.chunks := by
  cases failure? <;> rfl

/-- A failure that is to be reported is in the account, and so is that there was nothing to
report. -/
def Has (account : Account) : Option Failure → Prop
  | some failure => failure ∈ account.reported
  | none => account.absorbed = true

theorem has_complain (failure? : Option Failure) : (account.complain failure?).Has failure? := by
  cases failure? <;> simp [complain, Has]

theorem Has.complain {failure? : Option Failure} (has : account.Has failure?)
    (other? : Option Failure) : (account.complain other?).Has failure? := by
  cases failure? <;> cases other? <;> simp_all [Account.complain, Has]

theorem Has.visit {failure? : Option Failure} (has : account.Has failure?)
    (request : Storage.Request Draft) (answer : Storage.Answer request) :
    (account.visit request answer).Has failure? := by
  cases failure? <;> simpa [Has] using has

theorem Has.enter {failure? : Option Failure} (has : account.Has failure?)
    (exchange : Exchange (interface Draft)) : (account.enter path exchange).Has failure? := by
  unfold Account.enter
  split
  · split
    · exact (has.visit _ _).complain _
    · exact has.visit _ _
  · exact has

theorem has_enter (complains : Storage.complaint? request answer = some (.system error)) :
    (account.enter path ⟨.storage request, answer⟩).Has (KeyStore.report? path request error) := by
  simp only [enter, complains]
  exact has_complain _

theorem Has.enterAll {failure? : Option Failure} (has : account.Has failure?) :
    (account.enterAll path history).Has failure? := by
  induction history generalizing account with
  | nil => exact has
  | cons exchange rest inductionHypothesis => exact inductionHypothesis (has.enter exchange)

/-- Every complaint of a history is in its account. -/
theorem has_enterAll (among : ⟨.storage request, answer⟩ ∈ history)
    (complains : Storage.complaint? request answer = some (.system error)) :
    (account.enterAll path history).Has (KeyStore.report? path request error) := by
  induction history generalizing account with
  | nil => cases among
  | cons exchange rest inductionHypothesis =>
    rcases List.mem_cons.mp among with rfl | later
    · exact (has_enter complains).enterAll
    · exact inductionHypothesis later

theorem enter_storage (request : Storage.Request Draft) (answer : Storage.Answer request) :
    (account.enter path ⟨.storage request, answer⟩).opened = (account.visit request answer).opened ∧
      (account.enter path ⟨.storage request, answer⟩).chunks =
        (account.visit request answer).chunks := by
  simp only [enter]
  split <;> simp

theorem opened_enter (exchange : Exchange (interface Draft)) {other : Text}
    (visited : other ∈ (account.enter path exchange).opened) :
    other ∈ account.opened ∨ ∃ answer, exchange = ⟨.storage (.openRecord other), answer⟩ := by
  rcases exchange with ⟨request | _ | _, answer⟩
  · rw [(enter_storage request answer).1] at visited
    cases request with
    | openRecord given =>
      rcases List.mem_append.mp visited with earlier | now
      · exact .inl earlier
      · obtain rfl := List.mem_singleton.mp now
        exact .inr ⟨answer, rfl⟩
    | read reader count => cases answer <;> exact .inl visited
    | _ => exact .inl visited
  · exact .inl visited
  · exact .inl visited

theorem chunks_enter (exchange : Exchange (interface Draft)) :
    (account.enter path exchange).chunks = account.chunks ++ chunksRead [exchange] := by
  rcases exchange with ⟨request | _ | _, answer⟩
  · rw [(enter_storage request answer).2]
    cases request with
    | read reader count => cases answer <;> simp [visit, chunksRead]
    | _ => exact (List.append_nil _).symm
  · exact (List.append_nil _).symm
  · exact (List.append_nil _).symm

theorem opened_enterAll {other : Text}
    (visited : other ∈ (account.enterAll path history).opened) :
    other ∈ account.opened ∨ ∃ answer, ⟨.storage (.openRecord other), answer⟩ ∈ history := by
  induction history generalizing account with
  | nil => exact .inl visited
  | cons exchange rest inductionHypothesis =>
    rcases inductionHypothesis visited with earlier | ⟨answer, among⟩
    · rcases opened_enter exchange earlier with first | ⟨answer, rfl⟩
      · exact .inl first
      · exact .inr ⟨answer, List.mem_cons_self⟩
    · exact .inr ⟨answer, List.mem_cons_of_mem _ among⟩

theorem chunks_enterAll :
    (account.enterAll path history).chunks = account.chunks ++ chunksRead history := by
  induction history generalizing account with
  | nil => simp [Account.enterAll, chunksRead]
  | cons exchange rest inductionHypothesis =>
    have split : chunksRead (exchange :: rest) = chunksRead [exchange] ++ chunksRead rest :=
      List.filterMap_append (l := [exchange])
    rw [split, ← List.append_assoc, ← chunks_enter]
    exact inductionHypothesis

end Account

end Surroundings

open Surroundings Operation

namespace KeyStore

variable {path : Text} {account : Account}

/-- There is nothing to account for in a note. -/
theorem note_accounts {event : Log.Event} {rest : Operation Draft α}
    {goal : Except Failure α → Account → Prop}
    (meets : rest.Meets (accounting path) goal account) :
    (note event >>= fun _ => rest).Meets (accounting path) goal account := by
  refine meets_bind.mpr ⟨trivial, ?_⟩
  intro answer next served
  obtain ⟨-, rfl⟩ := served
  exact meets

theorem contains_accounts (path : Text) (account : Account) :
    (contains path : Operation Draft Bool).Meets (accounting path) (fun result next =>
      (∃ found, result = .ok found ∧ next = account) ∨
      ∃ failure, result = .error failure ∧ failure.Concerns path ∧
        next = account.complain (some failure)) account := by
  simp only [contains, meets_andThen, meets_contains]
  refine ⟨trivial, ?_⟩
  rintro (failure | found) _ ⟨conforms, rfl⟩
  · obtain ⟨error, rfl⟩ := conforms failure rfl
    apply note_accounts
    exact .inr ⟨_, rfl, Failure.concerns_storage path _, rfl⟩
  · exact .inl ⟨found, rfl, rfl⟩

theorem writeRecord_accounts {key : Bytes} (fitting : key.length < 2147483648) (draft : Draft) :
    (writeRecord draft key).Meets (accounting path) (fun result next =>
      (∃ written, result = .ok written ∧ next = account) ∨
      ∃ error, result = .error (.system error) ∧
        next = account.complain (createFailure? path error)) account := by
  simp only [writeRecord, meets_bind, meets_ofExcept, meets_write,
    KeyRecord.checkLength_eq_ok_iff.mpr fitting]
  refine ⟨trivial, ?_⟩
  rintro (failure | begun) _ ⟨conforms, rfl⟩
  · obtain ⟨error, rfl⟩ := conforms failure rfl
    exact .inr ⟨error, rfl, rfl⟩
  · refine ⟨trivial, ?_⟩
    rintro (failure | written) _ ⟨conforms, rfl⟩
    · obtain ⟨error, rfl⟩ := conforms failure rfl
      exact .inr ⟨error, rfl, rfl⟩
    · exact .inl ⟨written, rfl, rfl⟩

theorem createRecord_accounts {key : Bytes} (fitting : key.length < 2147483648)
    (replication : Int) :
    (createRecord path replication key : Operation Draft Unit).Meets (accounting path)
      (fun result next => (result = .ok () ∧ next = account) ∨
        ∃ error, result = .error (.system error) ∧
          next = account.complain (createFailure? path error)) account := by
  apply meets_bind.mpr
  refine meets_create.mpr ⟨trivial, ?_⟩
  rintro (failure | draft) _ ⟨conforms, rfl⟩
  · obtain ⟨error, rfl⟩ := conforms failure rfl
    exact .inr ⟨error, rfl, rfl⟩
  · apply meets_andThen.mpr
    apply (writeRecord_accounts fitting draft).mono
    rintro _ _ (⟨written, rfl, rfl⟩ | ⟨error, rfl, rfl⟩)
    · refine ⟨trivial, ?_⟩
      rintro (failure | _) _ ⟨conforms, rfl⟩
      · obtain ⟨error, rfl⟩ := conforms failure rfl
        exact .inr ⟨error, rfl, rfl⟩
      · exact .inl ⟨rfl, rfl⟩
    · refine ⟨trivial, ?_⟩
      rintro _ _ ⟨-, rfl⟩
      exact .inr ⟨error, rfl, rfl⟩

/-- An account after which it goes on: nothing new, but perhaps a record that was there
already. -/
def GoesOn (account next : Account) : Prop :=
  next = account ∨ next = account.complain none

theorem afterCreation_accounts (bits replication : Int) {result : Except Failure Unit}
    {created : Account}
    (outcome : (result = .ok () ∧ created = account) ∨
      ∃ error, result = .error (.system error) ∧
        created = account.complain (createFailure? path error)) :
    (afterCreation path bits replication result : Operation Draft Bool).Meets (accounting path)
      (fun result next => (∃ created, result = .ok created ∧ GoesOn account next) ∨
        ∃ failure, result = .error failure ∧ failure.Concerns path ∧
          next = account.complain (some failure)) created := by
  rcases outcome with ⟨rfl, rfl⟩ | ⟨error, rfl, rfl⟩
  · apply note_accounts
    exact .inl ⟨true, rfl, .inl rfl⟩
  · unfold afterCreation createFailure?
    by_cases published : error.kind = .fileExists
    · simp only [published, if_true]
      apply note_accounts
      exact .inl ⟨false, rfl, .inr rfl⟩
    · simp only [published, if_false]
      apply note_accounts
      exact .inr ⟨_, rfl, Failure.concerns_kekNotCreated path error, rfl⟩

/-- Making sure of a key goes on with a record that was there already, and otherwise ends with
what a complaint is to be reported as. -/
theorem ensure_accounts (generator : Randomness.Generator) (replication : Int) {bits : Int}
    (fitting : (bits / 8).toNat < 2147483648) :
    (ensure generator replication path bits : Operation Draft Bool).Meets (accounting path)
      (fun result next => (∃ created, result = .ok created ∧ GoesOn account next) ∨
        ∃ failure, result = .error failure ∧ failure.Concerns path ∧
          (next = account ∨ next = account.complain (some failure))) account := by
  unfold ensure
  split
  · exact .inr ⟨_, rfl, Failure.concerns_configuration _, .inl rfl⟩
  · apply meets_bind.mpr
    apply (contains_accounts path account).mono
    rintro _ _ (⟨found, rfl, rfl⟩ | ⟨failure, rfl, concerns, rfl⟩)
    · cases found with
      | true => exact .inl ⟨false, rfl, .inl rfl⟩
      | false =>
        apply meets_bind.mpr
        refine meets_draw.mpr ⟨trivial, ?_⟩
        rintro _ _ ⟨⟨key, rfl, length⟩, rfl⟩
        apply meets_andThen.mpr
        apply (createRecord_accounts (by omega) replication).mono
        intro result created outcome
        apply (afterCreation_accounts bits replication outcome).mono
        rintro result next (goesOn | ⟨failure, fails, concerns, complained⟩)
        · exact .inl goesOn
        · exact .inr ⟨failure, fails, concerns, .inr complained⟩
    · exact .inr ⟨failure, rfl, concerns, .inr rfl⟩

section Loading

variable (clean : account.reported = []) (unread : account.chunks = [])

include clean unread

theorem readRecord_accounts :
    (readRecord path : Operation Draft Bytes).Meets (accounting path) (fun result next =>
      path ∈ next.opened ∧
        ((∃ key, result = .ok key ∧ next.reported = [] ∧ KeyRecord.issue? next.chunks = none) ∨
        (∃ error, result = .error (.system error) ∧ next.reported = [readFailure path error] ∧
          KeyRecord.issue? next.chunks = none) ∨
        ∃ issue, result = .error (.storage path issue) ∧ next.reported = [] ∧
          KeyRecord.issue? next.chunks = some issue)) account := by
  obtain ⟨opened, _, _, absorbed⟩ := account
  obtain rfl := clean
  obtain rfl := unread
  have visited : path ∈ opened ++ [path] := by simp
  simp only [readRecord, meets_bind, meets_openRecord, meets_read, meets_ofRecord]
  refine ⟨trivial, ?_⟩
  rintro (failure | reader) _ ⟨conforms, rfl⟩
  · obtain ⟨error, rfl⟩ := conforms failure rfl
    exact ⟨visited, .inr (.inl ⟨error, rfl, rfl, rfl⟩)⟩
  · refine ⟨⟨by decide, by decide⟩, ?_⟩
    rintro (failure | ⟨header, reader⟩) _ ⟨conforms, rfl⟩
    · obtain ⟨error, rfl⟩ := conforms failure rfl
      exact ⟨visited, .inr (.inl ⟨error, rfl, rfl, rfl⟩)⟩
    · cases announced : KeyRecord.keyLength header with
      | error issue =>
        have wrong : KeyRecord.issue? [header] = some issue := by
          simp [KeyRecord.issue?, announced]
        simp only [announced, Except.mapError]
        exact ⟨visited, .inr (.inr ⟨issue, rfl, rfl, wrong⟩)⟩
      | ok length =>
        have bound := KeyRecord.length_lt_of_keyLength announced
        have headerFine : KeyRecord.issue? [header] = none := by
          simp [KeyRecord.issue?, announced]
        simp only [announced, Except.mapError]
        refine ⟨⟨by omega, by omega⟩, ?_⟩
        rintro (failure | ⟨key, reader⟩) _ ⟨conforms, rfl⟩
        · obtain ⟨error, rfl⟩ := conforms failure rfl
          exact ⟨visited, .inr (.inl ⟨error, rfl, rfl, headerFine⟩)⟩
        · cases checked : KeyRecord.checkKey length key with
          | error issue =>
            have wrong : KeyRecord.issue? [header, key] = some issue := by
              simp [KeyRecord.issue?, announced, checked]
            exact ⟨visited, .inr (.inr ⟨issue, by rw [checked], rfl, wrong⟩)⟩
          | ok found =>
            have fine : KeyRecord.issue? [header, key] = none := by
              simp [KeyRecord.issue?, announced, checked]
            exact ⟨visited, .inl ⟨found, by rw [checked], rfl, fine⟩⟩

/-- Loading a key ends with what a complaint is to be reported as, or with what is wrong with
the record. -/
theorem load_accounts :
    (load path : Operation Draft Bytes).Meets (accounting path) (fun result next =>
      next.Explains path result) account := by
  apply meets_andThen.mpr
  apply (readRecord_accounts clean unread).mono
  rintro _ next ⟨visited, ⟨key, rfl, silent, fine⟩ | ⟨error, rfl, reported, fine⟩ |
    ⟨issue, rfl, silent, wrong⟩⟩
  · exact ⟨by simp, by simp [silent], by simp [fine], fun _ => visited⟩
  · unfold readFailure at reported
    by_cases missing : error.kind = .fileNotFound
    · rw [if_pos missing] at reported
      simp only [missing, if_true]
      exact ⟨by simp, by simp [reported], by simp [fine], fun _ => visited⟩
    · rw [if_neg missing] at reported
      simp only [missing, if_false]
      apply note_accounts
      exact ⟨by simp, by simp [reported], by simp [fine], fun _ => visited⟩
  · exact ⟨by simp, by simp [silent], by simp [wrong], fun _ => visited⟩

end Loading

end KeyStore

end KeyEnvelope
