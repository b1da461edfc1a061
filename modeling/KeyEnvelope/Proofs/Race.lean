import KeyEnvelope.Proofs.KeyStore.Publishing
import KeyEnvelope.Proofs.Storage.Memory
import Mathlib.Data.List.Induction
import Mathlib.Logic.Function.Basic

/-!
# Keys wrapped at the same time

Any number of callers wrap keys at the same time in one memory. They take turns in
any order; in its turn a caller has one request served. Each caller's requests and
answers are kept, so that what it has done can be told from them.
-/

namespace KeyEnvelope

open Storage

/-- A caller with what is left for it to do and what it has done so far. -/
structure Caller where
  rest : Procedure (Surroundings.interface Memory.Draft) (Except Failure Parameters)
  history : List (Exchange (Surroundings.interface Memory.Draft))

/-- The callers, each with the parameters of its key and its own random bytes. -/
structure Contest (ι : Type) where
  parameters : ι → Parameters
  bytes : ι → Randomness.Generator → Nat → Bytes

structure Race (ι : Type) where
  memory : Memory
  callers : ι → Caller

namespace Contest

variable {ι : Type}

def source (contest : Contest ι) (who : ι) : Randomness.Source :=
  fun generator count => .ok (contest.bytes who generator count)

def task (contest : Contest ι) (who : ι) : Operation Memory.Draft Parameters :=
  (Strategy.enveloping .builtIn).encrypt (contest.parameters who)

def start (contest : Contest ι) (memory : Memory) : Race ι :=
  ⟨memory, fun who => ⟨(contest.task who).run, []⟩⟩

def serve (source : Randomness.Source) :
    (request : Surroundings.Request Memory.Draft) → Memory → Surroundings.Answer request × Memory
  | .storage request, memory =>
    let served := Memory.serve request memory
    (served.answer, served.state)
  | .draw generator count, memory => (source generator count, memory)
  | .note _, memory => ((), memory)

/-- Serves the next request of a caller, if it has not finished. -/
def turn [DecidableEq ι] (contest : Contest ι) (race : Race ι) (who : ι) : Race ι :=
  match (race.callers who).rest with
  | .done _ => race
  | .ask request resume =>
    let (answer, memory) := serve (contest.source who) request race.memory
    let history := (race.callers who).history ++ [⟨request, answer⟩]
    ⟨memory, Function.update race.callers who ⟨resume answer, history⟩⟩

/-- The race after the callers have taken turns in the given order. -/
def play [DecidableEq ι] (contest : Contest ι) (order : List ι) (memory : Memory) : Race ι :=
  order.foldl contest.turn (contest.start memory)

/-- A request is served by memory, to which others may have added records before. -/
def shared (source : Randomness.Source) :
    Contract (Surroundings.interface Memory.Draft) Memory where
  permits _ := True
  serves request memory answer next :=
    ∃ seen, memory.Within seen ∧ serve source request seen = (answer, next)

section Serving

variable {source : Randomness.Source} {memory : Memory}

theorem within_serve (request : Surroundings.Request Memory.Draft) :
    memory.Within (serve source request memory).2 := by
  cases request with
  | storage request => exact Memory.within_serve request memory
  | draw generator count => exact .refl memory
  | note event => exact .refl memory

theorem fits_serve (request : Surroundings.Request Memory.Draft) :
    Memory.Fits source request (serve source request memory).1 := by
  rcases request with request | ⟨generator, count⟩ | event
  · cases request <;> trivial
  · show Memory.Fits source (.draw generator count) (source generator count)
    cases drawn : source generator count with
    | error failure => trivial
    | ok key => exact drawn
  · trivial

/-- A draft that is published was none before, and is a record from then on. -/
theorem publishedBy_serve {request : Surroundings.Request Memory.Draft} {draft : Memory.Draft}
    (publishes : draft ∈ Memory.publishedBy request (serve source request memory).1) :
    memory.record? draft.path = none ∧
      (serve source request memory).2.record? draft.path = some draft.record := by
  rcases request with request | _ | _
  · cases request with
    | publish other =>
      cases found : memory.record? other.path with
      | some record =>
        simp [serve, Memory.serve, Memory.publish_of_present found, Served.quiet,
          Memory.publishedBy] at publishes
      | none =>
        simp only [serve, Memory.serve, Memory.publish_of_absent found, Served.quiet,
          Memory.publishedBy, List.mem_singleton] at publishes
        subst publishes
        simp [serve, Memory.serve, Memory.publish_of_absent found, Served.quiet, found]
    | _ => cases publishes
  · cases publishes
  · cases publishes

end Serving

variable {contest : Contest ι} {memory : Memory} {race : Race ι}

/-- What the race has come to is what the callers have done, and every draft that
one of them has published is the record of its path. -/
structure Sound (contest : Contest ι) (memory : Memory) (race : Race ι) : Prop where
  leads (who : ι) : (contest.task who).run.Leads (race.callers who).history (race.callers who).rest
  tallied (who : ι) (wanted : Memory.Draft → Prop) :
    (Memory.tally (contest.source who) wanted).Follows [] (race.callers who).history
      (Memory.published (race.callers who).history)
  follows (who : ι) : ∃ seen,
    (shared (contest.source who)).Follows memory (race.callers who).history seen ∧
      seen.Within race.memory
  recorded (who : ι) (draft : Memory.Draft) :
    draft ∈ Memory.published (race.callers who).history →
      race.memory.record? draft.path = some draft.record
  alone (who other : ι) (draft rival : Memory.Draft) :
    draft ∈ Memory.published (race.callers who).history →
      rival ∈ Memory.published (race.callers other).history →
        draft.path = rival.path → who = other

theorem sound_start (contest : Contest ι) (memory : Memory) :
    Sound contest memory (contest.start memory) where
  leads _ := .nil
  tallied _ _ := .nil
  follows _ := ⟨memory, .nil, .refl memory⟩
  recorded _ _ publishes := by cases publishes
  alone _ _ _ _ publishes := by cases publishes

variable [DecidableEq ι]

section Turn

variable {who : ι} {request : Surroundings.Request Memory.Draft}
  {resume : Surroundings.Answer request →
    Procedure (Surroundings.interface Memory.Draft) (Except Failure Parameters)}
  (waiting : (race.callers who).rest = .ask request resume)

include waiting

theorem memory_turn :
    (contest.turn race who).memory = (serve (contest.source who) request race.memory).2 := by
  simp [turn, waiting]

theorem callers_turn_self : (contest.turn race who).callers who =
    ⟨resume (serve (contest.source who) request race.memory).1,
      (race.callers who).history ++
        [⟨request, (serve (contest.source who) request race.memory).1⟩]⟩ := by
  simp [turn, waiting]

theorem callers_turn_of_ne {other : ι} (different : other ≠ who) :
    (contest.turn race who).callers other = race.callers other := by
  simp [turn, waiting, different]

theorem published_turn : Memory.published ((contest.turn race who).callers who).history =
    Memory.published (race.callers who).history ++
      Memory.publishedBy request (serve (contest.source who) request race.memory).1 := by
  rw [callers_turn_self waiting, Memory.published_append]
  simp [Memory.published]

theorem mem_published_turn {other : ι} {draft : Memory.Draft}
    (publishes : draft ∈ Memory.published ((contest.turn race who).callers other).history) :
    draft ∈ Memory.published (race.callers other).history ∨
      other = who ∧ race.memory.record? draft.path = none ∧
        (contest.turn race who).memory.record? draft.path = some draft.record := by
  by_cases same : other = who
  · subst same
    rw [published_turn waiting] at publishes
    rcases List.mem_append.mp publishes with earlier | now
    · exact .inl earlier
    · rw [memory_turn waiting]
      exact .inr ⟨rfl, publishedBy_serve now⟩
  · rw [callers_turn_of_ne waiting same] at publishes
    exact .inl publishes

end Turn

theorem turn_of_done {who : ι} {value : Except Failure Parameters}
    (finished : (race.callers who).rest = .done value) : contest.turn race who = race := by
  simp [turn, finished]

theorem within_turn (contest : Contest ι) (race : Race ι) (who : ι) :
    race.memory.Within (contest.turn race who).memory := by
  cases waiting : (race.callers who).rest with
  | done value =>
    rw [turn_of_done waiting]
    exact .refl _
  | ask request resume =>
    rw [memory_turn waiting]
    exact within_serve request

theorem Sound.turn (sound : Sound contest memory race) (who : ι) :
    Sound contest memory (contest.turn race who) := by
  cases waiting : (race.callers who).rest with
  | done value =>
    rwa [turn_of_done waiting]
  | ask request resume =>
    have grows := within_turn contest race who
    constructor
    case leads =>
      intro other
      by_cases same : other = who
      · subst same
        rw [callers_turn_self waiting]
        exact (waiting ▸ sound.leads other).snoc _
      · rw [callers_turn_of_ne waiting same]
        exact sound.leads other
    case tallied =>
      intro other wanted
      by_cases same : other = who
      · subst same
        rw [published_turn waiting, callers_turn_self waiting]
        exact (sound.tallied other wanted).snoc ⟨fits_serve request, rfl⟩
      · rw [callers_turn_of_ne waiting same]
        exact sound.tallied other wanted
    case follows =>
      intro other
      obtain ⟨seen, follows, within⟩ := sound.follows other
      by_cases same : other = who
      · subst same
        rw [callers_turn_self waiting, memory_turn waiting]
        exact ⟨_, follows.snoc ⟨race.memory, within, rfl⟩, .refl _⟩
      · rw [callers_turn_of_ne waiting same]
        exact ⟨seen, follows, within.trans grows⟩
    case recorded =>
      intro other draft publishes
      rcases mem_published_turn waiting publishes with earlier | ⟨-, -, now⟩
      · exact grows _ _ (sound.recorded other draft earlier)
      · exact now
    case alone =>
      -- a path whose record was published before has one, so that nothing more is
      -- published there now
      intro other another draft rival publishes rivals samePath
      rcases mem_published_turn waiting publishes with earlier | ⟨rfl, absent, -⟩
      · rcases mem_published_turn waiting rivals with rivalEarlier | ⟨rfl, absent, -⟩
        · exact sound.alone other another draft rival earlier rivalEarlier samePath
        · have present := sound.recorded other draft earlier
          rw [samePath, absent] at present
          cases present
      · rcases mem_published_turn waiting rivals with rivalEarlier | ⟨rfl, -, -⟩
        · have present := sound.recorded another rival rivalEarlier
          rw [← samePath, absent] at present
          cases present
        · rfl

theorem sound_play (contest : Contest ι) (order : List ι) (memory : Memory) :
    Sound contest memory (contest.play order memory) := by
  unfold play
  generalize started : contest.start memory = race
  have sound : Sound contest memory race := started ▸ sound_start contest memory
  clear started
  induction order generalizing race with
  | nil => exact sound
  | cons who rest inductionHypothesis => exact inductionHypothesis _ (sound.turn who)

theorem play_concat (contest : Contest ι) (order : List ι) (who : ι) (memory : Memory) :
    contest.play (order ++ [who]) memory = contest.turn (contest.play order memory) who := by
  simp [play]

theorem within_play_append (contest : Contest ι) (order later : List ι) (memory : Memory) :
    (contest.play order memory).memory.Within (contest.play (order ++ later) memory).memory := by
  induction later using List.reverseRecOn with
  | nil =>
    rw [List.append_nil]
    exact .refl _
  | append_singleton later who inductionHypothesis =>
    rw [← List.append_assoc, play_concat]
    exact inductionHypothesis.trans (within_turn _ _ _)

/-- A caller that is not done has had a request served in each of its turns. -/
theorem done_or_count_le (contest : Contest ι) (order : List ι) (memory : Memory) (who : ι) :
    (∃ value, ((contest.play order memory).callers who).rest = .done value) ∨
      order.count who ≤ ((contest.play order memory).callers who).history.length := by
  induction order using List.reverseRecOn with
  | nil => exact .inr (Nat.zero_le _)
  | append_singleton order other inductionHypothesis =>
    rw [play_concat]
    cases waiting : ((contest.play order memory).callers other).rest with
    | done value =>
      rw [turn_of_done waiting]
      by_cases same : other = who
      · subst same
        exact .inl ⟨value, waiting⟩
      · simpa [same] using inductionHypothesis
    | ask request resume =>
      by_cases same : who = other
      · subst same
        rw [callers_turn_self waiting]
        refine .inr ?_
        rcases inductionHypothesis with ⟨value, finished⟩ | counted
        · cases waiting.symm.trans finished
        · simpa using counted
      · rw [callers_turn_of_ne waiting same]
        simpa [Ne.symm same] using inductionHypothesis

end Contest

end KeyEnvelope
