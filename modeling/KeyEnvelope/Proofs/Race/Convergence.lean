import KeyEnvelope.Proofs.KeyStore.Requests
import KeyEnvelope.Proofs.KeyWrap.Wrapping
import KeyEnvelope.Proofs.Race.Callers

/-!
# Races converge

However callers come between each other, at most one of them publishes a key
encryption key at a path, and it alone is told that it did. All of them wrap under
the key that was published, or that was there before.
-/

namespace KeyEnvelope.Contest

open Storage

variable {ι : Type} {contest : Contest ι} {memory : Memory} {race : Race ι} {who : ι}
  {plan : Strategy.Plan}

/-- The key that a caller has to offer as the key encryption key of its plan. -/
def candidate (contest : Contest ι) (who : ι) (plan : Strategy.Plan) : Bytes :=
  contest.bytes who plan.generator ((contest.parameters who).keyLength / 8).toNat

/-- The drafts that a caller may publish. -/
def Offered (contest : Contest ι) (who : ι) (draft : Memory.Draft) : Prop :=
  ∃ plan, Strategy.plan .builtIn (contest.parameters who) = .ok plan ∧
    draft = (plan.provision (contest.parameters who)).draft (contest.candidate who plan)

def Publishes (race : Race ι) (who : ι) (path : Text) : Prop :=
  ∃ draft ∈ Memory.published (race.callers who).history, draft.path = path

/-- To the caller, making sure of the key encryption key at the path has returned
the result. -/
def Ensured (contest : Contest ι) (race : Race ι) (who : ι) (path : Text)
    (result : Except Failure Bool) : Prop :=
  ∃ plan, Strategy.plan .builtIn (contest.parameters who) = .ok plan ∧ plan.path = path ∧
    ∃ first, first <+: (race.callers who).history ∧
      (plan.provision (contest.parameters who)).ensure.run.Leads first (.done result)

theorem task_of_plan (planned : Strategy.plan .builtIn (contest.parameters who) = .ok plan) :
    contest.task who = (plan.provision (contest.parameters who)).ensure >>= fun _ =>
      Strategy.wrapPlanned .builtIn (contest.parameters who) plan :=
  Strategy.wrap_of_plan planned

theorem keyLength_of_plan {parameters : Parameters}
    (planned : Strategy.plan .builtIn parameters = .ok plan) :
    parameters.keyLength = 128 ∨ parameters.keyLength = 192 ∨ parameters.keyLength = 256 := by
  obtain ⟨suite, targeted, admitted, -, -⟩ := Strategy.plan_eq_ok_iff.mp planned
  obtain ⟨-, -, resolved⟩ := Strategy.target_eq_ok_iff.mp targeted
  obtain ⟨-, found⟩ := KeyWrap.Registry.resolve_eq_ok_iff.mp resolved
  exact KeyWrap.Suite.bits_of_admitsKekBits (KeyWrap.Registry.get_builtIn found) admitted

theorem task_publishes (contest : Contest ι) (who : ι) (drafts : List Memory.Draft) :
    (contest.task who).Meets (Memory.tally (contest.source who) (contest.Offered who))
      (fun _ _ => True) drafts := by
  cases planned : Strategy.plan .builtIn (contest.parameters who) with
  | error failure =>
    show (Strategy.wrap _ _).Meets _ _ _
    rw [Strategy.wrap_of_plan_eq_error planned]
    trivial
  | ok plan =>
    rw [task_of_plan planned]
    have offers (key : Bytes)
        (draws : (plan.provision (contest.parameters who)).Draws (contest.source who) key) :
        contest.Offered who ((plan.provision (contest.parameters who)).draft key) := by
      obtain rfl : contest.candidate who plan = key := Except.ok.inj draws.drawn
      exact ⟨plan, planned, rfl⟩
    apply Operation.meets_bind.mpr
    apply (Provision.ensure_publishes offers).mono
    intro result next _
    cases result with
    | error failure => trivial
    | ok created =>
      exact (Strategy.wrapPlanned_onlyReads _ _ _).publishes_nothing.mono fun _ _ _ => trivial

theorem Sound.offered (sound : Sound contest memory race) {draft : Memory.Draft}
    (publishes : draft ∈ Memory.published (race.callers who).history) : contest.Offered who draft :=
  Memory.wanted_of_published
    ((task_publishes contest who []).leads (sound.leads who) (sound.tallied who _)).2 publishes

/-- What a caller asks for after it has made sure of its key encryption key
publishes nothing. -/
theorem published_after_ensure
    (planned : Strategy.plan .builtIn (contest.parameters who) = .ok plan)
    {first later : List (Exchange (Surroundings.interface Memory.Draft))}
    {result : Except Failure Bool}
    {rest : Procedure (Surroundings.interface Memory.Draft) (Except Failure Parameters)}
    (finishes : (plan.provision (contest.parameters who)).ensure.run.Leads first (.done result))
    (leads : (contest.task who).run.Leads (first ++ later) rest) : Memory.published later = [] := by
  rw [task_of_plan planned] at leads
  have afterwards := Procedure.Leads.of_bind finishes leads
  refine Memory.published_of_isReading ?_
  cases result with
  | error failure =>
    cases afterwards
    simp
  | ok created => exact (Strategy.wrapPlanned_onlyReads _ _ _).leads afterwards

/-- Making sure of a key reports to a caller whether it published the record, unless
the key was too long for one. -/
theorem Sound.ensured (sound : Sound contest memory race)
    (planned : Strategy.plan .builtIn (contest.parameters who) = .ok plan)
    {first : List (Exchange (Surroundings.interface Memory.Draft))} {result : Except Failure Bool}
    (begins : first <+: (race.callers who).history)
    (finishes : (plan.provision (contest.parameters who)).ensure.run.Leads first (.done result)) :
    (result = .ok true ∧ Publishes race who plan.path) ∨
      ¬Publishes race who plan.path ∧
        (result = .ok false ∨ result = .error tooLong ∧
          2147483648 ≤ (contest.candidate who plan).length) := by
  obtain ⟨later, whole⟩ := begins
  have silent := published_after_ensure planned finishes (whole ▸ sound.leads who)
  have published : Memory.published (race.callers who).history = Memory.published first := by
    rw [← whole, Memory.published_append, silent, List.append_nil]
  obtain ⟨drafts, tallied, -⟩ :=
    Contract.follows_append_iff.mp (whole ▸ sound.tallied who fun _ => True)
  obtain ⟨seen, follows, -⟩ := sound.follows who
  obtain ⟨state, shared, -⟩ := Contract.follows_append_iff.mp (whole ▸ follows)
  obtain rfl : drafts = Memory.published first := Memory.eq_append_published tallied
  have admitted := keyLength_of_plan planned
  have positive : 0 < (contest.parameters who).keyLength := by omega
  have wholeBytes : (contest.parameters who).keyLength % 8 = 0 := by omega
  have present := ((ensure_meets positive wholeBytes rfl).leads finishes shared).1
  rcases ((Provision.ensure_publishes fun _ _ => trivial).leads finishes tallied).1 with
    ⟨key, created, -, drafts⟩ | ⟨failed, drafts⟩
  · refine .inl ⟨created, (plan.provision (contest.parameters who)).draft key, ?_, rfl⟩
    rw [published, drafts]
    exact List.mem_singleton_self _
  · refine .inr ⟨?_, ?_⟩
    · rintro ⟨draft, publishes, -⟩
      rw [published, drafts] at publishes
      cases publishes
    · rcases present with ⟨-, created, rfl⟩ | tooLong
      · cases created with
        | true => exact absurd rfl failed
        | false => exact .inl rfl
      · exact .inr tooLong

theorem Sound.record_of_publishes (sound : Sound contest memory race) {path : Text}
    (publishes : Publishes race who path) :
    ∃ plan, Strategy.plan .builtIn (contest.parameters who) = .ok plan ∧ plan.path = path ∧
      race.memory.record? path =
        some ⟨KeyRecord.encode (contest.candidate who plan), some plan.replication⟩ := by
  obtain ⟨draft, published, rfl⟩ := publishes
  obtain ⟨plan, planned, rfl⟩ := sound.offered published
  exact ⟨plan, planned, rfl, sound.recorded who _ published⟩

theorem Sound.unwraps (sound : Sound contest memory race) {outcome : Parameters}
    (finished : (race.callers who).rest = .done (.ok outcome)) :
    ∃ plan record kek rest wrapped, Strategy.plan .builtIn (contest.parameters who) = .ok plan ∧
      outcome.encryptedKey = some wrapped ∧ race.memory.record? plan.path = some record ∧
      KeyRecord.decode record.data = .ok (kek, rest) ∧
      KeyWrap.Registry.builtIn.unwrap (Strategy.algorithmName (contest.parameters who))
        (Strategy.suiteName (contest.parameters who)) kek wrapped = .ok plan.key := by
  obtain ⟨seen, follows, within⟩ := sound.follows who
  have leads := sound.leads who
  rw [finished] at leads
  have meets := Strategy.wrap_meets (shared_reveals (contest.source who)) .builtIn
    (contest.parameters who) memory
  obtain ⟨plan, data, planned, ⟨replication, held⟩, kek, rest, wrapped, decoded, wrapping, rfl⟩ :=
    (meets.leads leads follows).1 outcome rfl
  obtain ⟨suite, resolved, -⟩ := KeyWrap.Registry.wrap_eq_ok_iff.mp wrapping
  obtain ⟨named, -⟩ := KeyWrap.Registry.resolve_eq_ok_iff.mp resolved
  exact ⟨plan, _, kek, rest, wrapped, planned, rfl, within _ _ held, decoded,
    KeyWrap.Registry.unwrap_of_wrap named wrapping⟩

/-- No caller ends because a key encryption key is not there, or could not be
created. -/
theorem Sound.keepsKek (sound : Sound contest memory race) {failure : Failure}
    (finished : (race.callers who).rest = .done (.error failure)) : ¬LosesKek failure := by
  obtain ⟨seen, follows, -⟩ := sound.follows who
  have leads := sound.leads who
  rw [finished] at leads
  have meets : (contest.task who).Meets (shared (contest.source who)) (fun result _ =>
      ∀ failure, result = .error failure → ¬LosesKek failure) memory := by
    cases planned : Strategy.plan .builtIn (contest.parameters who) with
    | error failure =>
      obtain ⟨issue, rfl⟩ := Strategy.configuration_of_plan_eq_error planned
      show (Strategy.wrap _ _).Meets _ _ _
      rw [Strategy.wrap_of_plan_eq_error planned]
      rintro _ ⟨⟩
      exact id
    | ok plan =>
      have admitted := keyLength_of_plan planned
      have positive : 0 < (contest.parameters who).keyLength := by omega
      have wholeBytes : (contest.parameters who).keyLength % 8 = 0 := by omega
      rw [task_of_plan planned]
      apply Operation.meets_bind.mpr
      apply (ensure_meets positive wholeBytes rfl).mono
      intro result next ensured
      rcases ensured with ⟨present, created, rfl⟩ | ⟨rfl, -⟩
      · exact wrapPlanned_keepsKek _ _ present
      · rintro _ ⟨⟩
        exact id
  exact (meets.leads leads follows).1 failure rfl

theorem Sound.exists_ensured (sound : Sound contest memory race)
    (planned : Strategy.plan .builtIn (contest.parameters who) = .ok plan)
    {value : Except Failure Parameters} (finished : (race.callers who).rest = .done value) :
    ∃ result, Ensured contest race who plan.path result := by
  have leads := sound.leads who
  rw [finished, task_of_plan planned] at leads
  obtain ⟨first, result, begins, finishes⟩ := Procedure.Leads.exists_done leads
  exact ⟨result, plan, planned, rfl, first, begins, finishes⟩

section Play

variable [DecidableEq ι]

theorem finished_of_turns (contest : Contest ι) (memory : Memory) {order : List ι} {who : ι}
    (turns : 13 ≤ order.count who) :
    ∃ value, ((contest.play order memory).callers who).rest = .done value := by
  rcases done_or_count_le contest order memory who with finished | counted
  · exact finished
  · have ends := (Strategy.wrap_endsWithin .builtIn (contest.parameters who)).leads
      ((sound_play contest order memory).leads who)
    exact Procedure.done_of_endsWithin_zero (ends.mono (by omega))

/-- At every point of every race: at each path at most one caller has published, and
its candidate is the record from then on; making sure of the key tells a caller
whether it was the one; nobody misses the key; and whatever was wrapped is unwrapped
under the record. Everyone is done after a fixed number of turns. Only a source that
gives two gigabytes where it was asked for at most 32 bytes makes a caller fail, and
then it has published nothing. -/
theorem play_converges (contest : Contest ι) (memory : Memory) (order : List ι) :
    let race := contest.play order memory
    (∀ who other path, Publishes race who path → Publishes race other path → who = other) ∧
    (∀ who path, Publishes race who path →
      ∃ plan, Strategy.plan .builtIn (contest.parameters who) = .ok plan ∧ plan.path = path ∧
        ∀ later, (contest.play (order ++ later) memory).memory.record? path =
          some ⟨KeyRecord.encode (contest.candidate who plan), some plan.replication⟩) ∧
    (∀ who path result, Ensured contest race who path result →
      (result = .ok true ∧ Publishes race who path) ∨
      (result = .ok false ∧ ¬Publishes race who path) ∨
      (result = .error tooLong ∧ ¬Publishes race who path ∧
        ∃ plan, Strategy.plan .builtIn (contest.parameters who) = .ok plan ∧
          ((contest.parameters who).keyLength / 8).toNat ≤ 32 ∧
          2147483648 ≤ (contest.candidate who plan).length)) ∧
    (∀ who failure, (race.callers who).rest = .done (.error failure) →
      (∀ path cause, failure ≠ .kekMissing path cause) ∧
        ∀ path cause, failure ≠ .kekNotCreated path cause) ∧
    (∀ who outcome, (race.callers who).rest = .done (.ok outcome) →
      ∃ path plaintext wrapped record kek rest,
        Strategy.keyPath (contest.parameters who) = .ok path ∧
        (contest.parameters who).plaintextKey = some plaintext ∧
        outcome.encryptedKey = some wrapped ∧
        race.memory.record? path = some record ∧ KeyRecord.decode record.data = .ok (kek, rest) ∧
        KeyWrap.Registry.builtIn.unwrap (Strategy.algorithmName (contest.parameters who))
          (Strategy.suiteName (contest.parameters who)) kek wrapped = .ok plaintext) ∧
    (∀ who, 13 ≤ order.count who →
      (∃ value, (race.callers who).rest = .done value) ∧
      ∀ plan, Strategy.plan .builtIn (contest.parameters who) = .ok plan →
        ∃ result, Ensured contest race who plan.path result) := by
  have sound := sound_play contest order memory
  refine ⟨?_, ?_, ?_, ?_, ?_, ?_⟩
  · rintro who other path ⟨draft, publishes, rfl⟩ ⟨rival, rivals, samePath⟩
    exact sound.alone who other draft rival publishes rivals samePath.symm
  · intro who path publishes
    obtain ⟨plan, planned, located, recorded⟩ := sound.record_of_publishes publishes
    exact ⟨plan, planned, located, fun later =>
      within_play_append contest order later memory _ _ recorded⟩
  · rintro who path result ⟨plan, planned, rfl, first, begins, finishes⟩
    rcases sound.ensured planned begins finishes with published | ⟨silent, rfl | ⟨rfl, long⟩⟩
    · exact .inl published
    · exact .inr (.inl ⟨rfl, silent⟩)
    · have admitted := keyLength_of_plan planned
      have requested : ((contest.parameters who).keyLength / 8).toNat ≤ 32 := by omega
      exact .inr (.inr ⟨rfl, silent, plan, planned, requested, long⟩)
  · intro who failure finished
    have kept := sound.keepsKek finished
    constructor
    all_goals
      rintro path cause rfl
      exact kept trivial
  · intro who outcome finished
    obtain ⟨plan, record, kek, rest, wrapped, planned, carries, recorded, decoded, unwraps⟩ :=
      sound.unwraps finished
    obtain ⟨suite, targeted, -⟩ := Strategy.plan_eq_ok_iff.mp planned
    obtain ⟨located, given, -⟩ := Strategy.target_eq_ok_iff.mp targeted
    exact ⟨plan.path, plan.key, wrapped, record, kek, rest, located, given, carries, recorded,
      decoded, unwraps⟩
  · intro who turns
    obtain ⟨value, finished⟩ := finished_of_turns contest memory turns
    exact ⟨⟨value, finished⟩, fun plan planned => sound.exists_ensured planned finished⟩

end Play

end KeyEnvelope.Contest
