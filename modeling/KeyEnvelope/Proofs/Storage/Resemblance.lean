import KeyEnvelope.Proofs.Calls
import KeyEnvelope.Proofs.KeyStore.Coupling

/-!
# Stores that resemble each other

Two stores resemble each other if every request that both are asked is answered alike. They
still do so if the same befalls the requests to both, and all that is seen of an operation
on the one, apart from the bytes it writes and reads, is seen of it on the other.
-/

namespace KeyEnvelope.Storage

/-- What is seen of a request: how many bytes are written, but not which. -/
def Request.masked {Draft : Type} : Request Draft → Request Unit
  | contains path => .contains path
  | create path replication => .create path replication
  | write _ chunk => .write () (List.replicate chunk.length 0)
  | publish _ => .publish ()
  | discard _ => .discard ()
  | openRecord path => .openRecord path
  | read _ count => .read [] count

namespace Client

/-- The events on the way to the answer of a request, given what befalls it. -/
def events (client : Client) :
    Option Disturbance → Request client.Draft → client.State → List Log.Event
  | some (.fault _), .publish draft, state => (client.serve (.discard draft) state).events
  | some (.fault _), .discard draft, state => (client.serve (.discard draft) state).events
  | some (.fault _), _, _ => []
  | some .oversight, .contains _, _ => []
  | _, request, state => (client.serve request state).events

/-- The client as it serves a single request that something may befall. -/
abbrev disturb (client : Client) (disturbance : Option Disturbance) : Client where
  Draft := client.Draft
  State := client.State
  serve request state :=
    let (answer, next) := client.handleDisturbed disturbance request state
    ⟨answer, next, client.events disturbance request state⟩

/-- What is seen of a request, with the events that are worth looking at. -/
def sight (client : Client) (visible : Log.Event → Bool) :
    Surroundings.Request client.Draft → client.State × List (Option Disturbance) →
      List (Surroundings.Request Unit)
  | .storage request, (state, disturbances) =>
    .storage request.masked ::
      ((client.events disturbances.head?.join request state).filter visible).map .note
  | .draw generator count, _ => [.draw generator count]
  | .note event, _ => ([event].filter visible).map .note

/-- What is seen of a procedure: its requests and all that is logged. -/
def sights (client : Client) (conditions : Conditions) {α : Type}
    (procedure : Procedure (Surroundings.interface client.Draft) α) (state : client.State) :
    List (Surroundings.Request Unit) :=
  procedure.observe (client.attend conditions.source) (client.sight fun _ => true)
    (state, conditions.disturbances)

end Client

/-- How the states of two stores are related at the paths that are of interest. -/
structure Resemblance (first second : Client) extends Tolerance where
  Covers : Text → Prop
  visible : Log.Event → Bool
  Related : first.State → second.State → Prop
  /-- There is a draft in each store. -/
  Drafted : Writing first.Draft → Writing second.Draft → first.State → second.State → Prop

namespace Resemblance

variable {first second : Client} (resemblance : Resemblance first second)

/-- Both answers are values that are related, with the states, or failures that are alike;
after these the states are related in a way of their own. -/
def Answers {α β : Type} (values : α → β → first.State → second.State → Prop)
    (failed : first.State → second.State → Prop) (served : Served (Except Failure α) first.State)
    (served' : Served (Except Failure β) second.State) : Prop :=
  Paired (fun value value' => values value value' served.state served'.state)
      (fun failure failure' =>
        failure.Like resemblance.errors failure' ∧ failed served.state served'.state)
      served.answer served'.answer ∧
    served.events.filter resemblance.visible = served'.events.filter resemblance.visible

/-- The stores answer alike when nothing befalls them. -/
structure Holds : Prop where
  visible_errors {error error' : SystemError} (text : String) (path : Text) :
    resemblance.errors error error' →
    [KeyStore.errorEvent text path error].filter resemblance.visible =
      [KeyStore.errorEvent text path error'].filter resemblance.visible
  contains {state : first.State} {other : second.State} {path : Text} :
    resemblance.Covers path → resemblance.Related state other →
    resemblance.Answers
      (fun found found' state other => found = found' ∧ resemblance.Related state other)
      resemblance.Related (first.serve (.contains path) state) (second.serve (.contains path) other)
  create {state : first.State} {other : second.State} {path : Text} (replication : Option Int) :
    resemblance.Covers path → resemblance.Related state other →
    resemblance.Answers (fun draft draft' => resemblance.Drafted (.start draft) (.start draft'))
      resemblance.Related (first.serve (.create path replication) state)
      (second.serve (.create path replication) other)
  /-- A draft that something was written into is as good as a new one with that content. -/
  renew {state : first.State} {other : second.State} {writing : Writing first.Draft}
      {writing' : Writing second.Draft} :
    resemblance.Drafted writing writing' state other →
    resemblance.Drafted { writing with origin := writing.draft }
      { writing' with origin := writing'.draft } state other
  write {state : first.State} {other : second.State} {writing : Writing first.Draft}
      {writing' : Writing second.Draft} {chunk chunk' : Bytes} :
    chunk.length = chunk'.length → resemblance.Drafted writing writing' state other →
    resemblance.Answers
      (fun written written' =>
        resemblance.Drafted (writing.append chunk written) (writing'.append chunk' written'))
      (resemblance.Drafted writing writing') (first.serve (.write writing.draft chunk) state)
      (second.serve (.write writing'.draft chunk') other)
  publish {state : first.State} {other : second.State} {writing : Writing first.Draft}
      {writing' : Writing second.Draft} :
    KeyRecord.Alike resemblance.keys writing.content writing'.content →
    resemblance.Drafted writing writing' state other →
    resemblance.Answers (fun _ _ => resemblance.Related) resemblance.Related
      (first.serve (.publish writing.draft) state) (second.serve (.publish writing'.draft) other)
  discard {state : first.State} {other : second.State} {writing : Writing first.Draft}
      {writing' : Writing second.Draft} :
    resemblance.Drafted writing writing' state other →
    resemblance.Related (first.serve (.discard writing.origin) state).state
        (second.serve (.discard writing'.origin) other).state ∧
      (first.serve (.discard writing.origin) state).events.filter resemblance.visible =
        (second.serve (.discard writing'.origin) other).events.filter resemblance.visible
  openRecord {state : first.State} {other : second.State} {path : Text} :
    resemblance.Covers path → resemblance.Related state other →
    resemblance.Answers
      (fun reader reader' state other =>
        KeyRecord.Alike resemblance.keys reader reader' ∧ resemblance.Related state other)
      resemblance.Related (first.serve (.openRecord path) state)
      (second.serve (.openRecord path) other)
  read {state : first.State} {other : second.State} (reader reader' : Reader) (count : Nat) :
    resemblance.Related state other →
    resemblance.Answers
      (fun found found' state other => found = readFrom reader count ∧
        found' = readFrom reader' count ∧ resemblance.Related state other)
      resemblance.Related (first.serve (.read reader count) state)
      (second.serve (.read reader' count) other)

/-- The same for stores whose next request is disturbed. -/
def disturb (disturbance : Option Disturbance) :
    Resemblance (first.disturb disturbance) (second.disturb disturbance) :=
  { resemblance with }

variable {resemblance}

theorem answers_fault {α β : Type} {values : α → β → first.State → second.State → Prop}
    {failed : first.State → second.State → Prop} (error : SystemError) {state : first.State}
    {other : second.State} (related : failed state other) :
    resemblance.Answers values failed ⟨.error (.system error), state, []⟩
      ⟨.error (.system error), other, []⟩ :=
  ⟨.error ⟨.same _, related⟩, rfl⟩

theorem Holds.disturb (holds : resemblance.Holds) (disturbance : Option Disturbance) :
    (resemblance.disturb disturbance).Holds where
  visible_errors := holds.visible_errors
  renew := holds.renew
  contains := by
    intro state other path covered related
    rcases disturbance with _ | error | _
    · exact holds.contains covered related
    · exact answers_fault error related
    · exact ⟨.ok ⟨rfl, related⟩, rfl⟩
  create := by
    intro state other path replication covered related
    rcases disturbance with _ | error | _
    · exact holds.create replication covered related
    · exact answers_fault error related
    · exact holds.create replication covered related
  write := by
    intro state other writing writing' chunk chunk' same drafted
    rcases disturbance with _ | error | _
    · exact holds.write same drafted
    · exact answers_fault error drafted
    · exact holds.write same drafted
  publish := by
    intro state other writing writing' alike drafted
    rcases disturbance with _ | error | _
    · exact holds.publish alike drafted
    · obtain ⟨related, events⟩ := holds.discard (holds.renew drafted)
      exact ⟨.error ⟨.same _, related⟩, events⟩
    · exact holds.publish alike drafted
  discard := by
    intro state other writing writing' drafted
    rcases disturbance with _ | error | _
    · exact holds.discard drafted
    · exact holds.discard drafted
    · exact holds.discard drafted
  openRecord := by
    intro state other path covered related
    rcases disturbance with _ | error | _
    · exact holds.openRecord covered related
    · exact answers_fault error related
    · exact holds.openRecord covered related
  read := by
    intro state other reader reader' count related
    rcases disturbance with _ | error | _
    · exact holds.read reader reader' count related
    · exact answers_fault error related
    · exact holds.read reader reader' count related

variable (resemblance)

/-- Two runs on the stores, with a source each. The same befalls the requests of both. -/
def coupling (source source' : Randomness.Source) :
    Coupling first.Draft second.Draft (first.State × List (Option Disturbance))
      (second.State × List (Option Disturbance)) (Surroundings.Request Unit) where
  toTolerance := resemblance.toTolerance
  serve := first.attend source
  serveOther := second.attend source'
  see := first.sight resemblance.visible
  seeOther := second.sight resemblance.visible
  Covers := resemblance.Covers
  Related surroundings other :=
    resemblance.Related surroundings.1 other.1 ∧ surroundings.2 = other.2
  Drafted writing writing' surroundings other :=
    resemblance.Drafted writing writing' surroundings.1 other.1 ∧ surroundings.2 = other.2

variable {resemblance} {source source' : Randomness.Source}

theorem seen_of_events {masked masked' : Request Unit} {visible : Log.Event → Bool}
    {events events' : List Log.Event}
    (same : masked = masked') (sameEvents : events.filter visible = events'.filter visible) :
    (.storage masked :: (events.filter visible).map .note :
        List (Surroundings.Request Unit)) ++ [] =
      (.storage masked' :: (events'.filter visible).map .note) ++ [] := by
  rw [same, sameEvents]

theorem Holds.coupled (holds : resemblance.Holds)
    (draws : ∀ generator count,
      Paired resemblance.keys Eq (source generator count) (source' generator count)) :
    (resemblance.coupling source source').Holds where
  note := by
    rintro surroundings other event ⟨related, same⟩
    exact ⟨.ok ⟨rfl, related, same⟩, rfl⟩
  noteError := by
    rintro surroundings other error error' text path alike ⟨related, same⟩
    refine ⟨.ok ⟨rfl, related, same⟩, ?_⟩
    show ([_].filter _).map _ ++ [] = ([_].filter _).map _ ++ []
    rw [holds.visible_errors text path alike]
  draw := by
    rintro surroundings other generator count ⟨related, same⟩
    refine ⟨(draws generator count).mono ?_ ?_, rfl⟩
    · exact fun _ _ alike => ⟨alike, related, same⟩
    · rintro failure _ rfl
      exact ⟨.same _, related, same⟩
  contains := by
    rintro ⟨state, disturbances⟩ ⟨other, _⟩ path covered ⟨related, rfl⟩
    obtain ⟨paired, events⟩ := (holds.disturb disturbances.head?.join).contains covered related
    refine ⟨paired.mono ?_ ?_, seen_of_events rfl events⟩
    · exact fun _ _ alike => ⟨alike.1, alike.2, rfl⟩
    · exact fun _ _ alike => ⟨alike.1, alike.2, rfl⟩
  create := by
    rintro ⟨state, disturbances⟩ ⟨other, _⟩ path replication covered ⟨related, rfl⟩
    obtain ⟨paired, events⟩ :=
      (holds.disturb disturbances.head?.join).create replication covered related
    refine ⟨paired.mono ?_ ?_, seen_of_events rfl events⟩
    · exact fun _ _ drafted => ⟨drafted, rfl⟩
    · exact fun _ _ alike => ⟨alike.1, alike.2, rfl⟩
  write := by
    rintro ⟨state, disturbances⟩ ⟨other, _⟩ writing writing' chunk chunk' same ⟨drafted, rfl⟩
    obtain ⟨paired, events⟩ := (holds.disturb disturbances.head?.join).write same drafted
    refine ⟨paired.mono ?_ ?_, seen_of_events ?_ events⟩
    · exact fun _ _ drafted => ⟨drafted, rfl⟩
    · exact fun _ _ alike => ⟨alike.1, writing, writing', rfl, rfl, alike.2, rfl⟩
    · exact congrArg (fun count => Request.write () (List.replicate count 0)) same
  publish := by
    rintro ⟨state, disturbances⟩ ⟨other, _⟩ writing writing' alike ⟨drafted, rfl⟩
    obtain ⟨paired, events⟩ := (holds.disturb disturbances.head?.join).publish alike drafted
    refine ⟨paired.mono ?_ ?_, seen_of_events rfl events⟩
    · exact fun _ _ related => ⟨rfl, related, rfl⟩
    · exact fun _ _ alike => ⟨alike.1, alike.2, rfl⟩
  discard := by
    rintro ⟨state, disturbances⟩ ⟨other, _⟩ writing writing' ⟨drafted, rfl⟩
    obtain ⟨related, events⟩ := (holds.disturb disturbances.head?.join).discard drafted
    exact ⟨.ok ⟨rfl, related, rfl⟩, seen_of_events rfl events⟩
  openRecord := by
    rintro ⟨state, disturbances⟩ ⟨other, _⟩ path covered ⟨related, rfl⟩
    obtain ⟨paired, events⟩ := (holds.disturb disturbances.head?.join).openRecord covered related
    refine ⟨paired.mono ?_ ?_, seen_of_events rfl events⟩
    · exact fun _ _ alike => ⟨alike.1, alike.2, rfl⟩
    · exact fun _ _ alike => ⟨alike.1, alike.2, rfl⟩
  read := by
    rintro ⟨state, disturbances⟩ ⟨other, _⟩ reader reader' count ⟨related, rfl⟩
    obtain ⟨paired, events⟩ :=
      (holds.disturb disturbances.head?.join).read reader reader' count related
    refine ⟨paired.mono ?_ ?_, seen_of_events rfl events⟩
    · exact fun _ _ alike => ⟨⟨alike.1, alike.2.1⟩, alike.2.2, rfl⟩
    · exact fun _ _ alike => ⟨alike.1, alike.2, rfl⟩

end Resemblance

end KeyEnvelope.Storage
