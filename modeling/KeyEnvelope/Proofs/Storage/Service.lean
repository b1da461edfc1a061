import KeyEnvelope.Proofs.Calls
import KeyEnvelope.Proofs.KeyStore.Loading
import KeyEnvelope.Proofs.Storage.Directory
import KeyEnvelope.Storage.Location

/-!
# Operations on a store

What is performed on a store keeps to what the store answers, be it disturbed or left
alone. A store that keeps its records shows in either case what is in it, and what is
only read stays as it is.
-/

namespace KeyEnvelope

namespace Storage

def Location.client : Location → Client
  | .memory => Memory.client
  | .directory _ => Directory.client

def Location.custody : (location : Location) → Custody location.client
  | .memory => Memory.custody
  | .directory _ => Directory.custody

namespace Client

variable {client : Client} {source : Randomness.Source} {α : Type}

/-- Any disturbance may befall any request. -/
def disturbed (client : Client) (source : Randomness.Source) :
    Contract (Surroundings.interface client.Draft) client.State where
  permits _ := True
  serves
    | .storage request, state, answer, next =>
      ∃ disturbance, client.handleDisturbed disturbance request state = (answer, next)
    | .draw generator count, state, answer, next => answer = source generator count ∧ next = state
    | .note _, state, _, next => next = state

/-- Nothing befalls any request. -/
def calm (client : Client) (source : Randomness.Source) :
    Contract (Surroundings.interface client.Draft) client.State where
  permits _ := True
  serves
    | .storage request, state, answer, next => client.handle request state = (answer, next)
    | .draw generator count, state, answer, next => answer = source generator count ∧ next = state
    | .note _, state, _, next => next = state

theorem calm_of_disturbed {goal : Except Failure α → client.State → Prop}
    {operation : Operation client.Draft α} {state : client.State}
    (meets : operation.Meets (client.disturbed source) goal state) :
    operation.Meets (client.calm source) goal state := by
  apply Procedure.Meets.narrow (fun _ _ => trivial) ?_ meets
  intro request state answer next served
  cases request with
  | storage request => exact ⟨none, served⟩
  | draw generator count => exact served
  | note event => exact served

theorem perform_disturbed {conditions : Conditions} {goal : Except Failure α → client.State → Prop}
    {operation : Operation client.Draft α} {state : client.State}
    (meets : operation.Meets (client.disturbed conditions.source) goal state) :
    goal (client.perform conditions operation state).1
      (client.perform conditions operation state).2 := by
  have served (disturbance : Option Disturbance) (request : Request client.Draft)
      (state ghost : client.State)
      (_ : (client.disturbed conditions.source).permits (.storage request)) (same : state = ghost) :
      ∃ next, (client.disturbed conditions.source).serves (.storage request) ghost
        (client.handleDisturbed disturbance request state).1 next ∧
          (client.handleDisturbed disturbance request state).2 = next := by
    subst same
    exact ⟨_, ⟨disturbance, rfl⟩, rfl⟩
  obtain ⟨next, met, same⟩ := client.perform_meets served
    (fun _ _ _ _ same => ⟨_, ⟨rfl, rfl⟩, same⟩) (fun _ _ _ same => ⟨_, rfl, same⟩) rfl meets
  exact same ▸ met

theorem perform_calm {goal : Except Failure α → client.State → Prop}
    {operation : Operation client.Draft α} {state : client.State}
    (meets : operation.Meets (client.calm source) goal state) :
    goal (client.perform ⟨source, []⟩ operation state).1
      (client.perform ⟨source, []⟩ operation state).2 := by
  have keeps (request : Surroundings.Request client.Draft)
      (surroundings : client.State × List (Option Disturbance)) (ghost : client.State)
      (_ : (client.calm source).permits request)
      (same : surroundings.1 = ghost ∧ surroundings.2 = []) :
      ∃ next, (client.calm source).serves request ghost
        (client.attend source request surroundings).1 next ∧
        (client.attend source request surroundings).2.1 = next ∧
        (client.attend source request surroundings).2.2 = [] := by
    obtain ⟨state, disturbances⟩ := surroundings
    obtain ⟨rfl, rfl⟩ := same
    cases request with
    | storage request => exact ⟨_, rfl, rfl, rfl⟩
    | draw generator count => exact ⟨_, ⟨rfl, rfl⟩, rfl, rfl⟩
    | note event => exact ⟨_, rfl, rfl, rfl⟩
  obtain ⟨next, met, same, -⟩ := Procedure.Meets.run keeps (state, []) ⟨rfl, rfl⟩ meets
  have after : (client.perform ⟨source, []⟩ operation state).2 = next := same
  rw [after]
  exact met

end Client

namespace Custody

variable {client : Client} (custody : Custody client)

def Holds (client : Client) (path : Text) (data : Bytes) (state : client.State) : Prop :=
  (client.serve (.openRecord path) state).answer = .ok data

include custody

/-- Reading leaves a store as it is, whatever befalls it. -/
theorem handleDisturbed_snd (disturbance : Option Disturbance) (request : Request client.Draft)
    (state : client.State) (reading : (Surroundings.Request.storage request).IsReading) :
    (client.handleDisturbed disturbance request state).2 = state := by
  have unchanged := custody.unchanged request state reading
  rcases disturbance with _ | _ | _
  · exact unchanged
  · cases request <;> first | rfl | exact reading.elim
  · cases request <;> first | rfl | exact unchanged

/-- A store that was only read is as it was. -/
theorem unchanged_of_reading {conditions : Conditions} {α : Type}
    {procedure : Procedure (Surroundings.interface client.Draft) α} {state : client.State}
    (reading : ∀ exchange ∈ client.exchanges conditions procedure state, exchange.1.IsReading) :
    (procedure.run (client.attend conditions.source) (state, conditions.disturbances)).2.1 =
      state := by
  refine Procedure.run_keeps (fun surroundings => surroundings.1 = state) ?_ reading rfl
  rintro request ⟨reached, disturbances⟩ permitted rfl
  cases request with
  | storage request => exact custody.handleDisturbed_snd _ request reached permitted
  | draw generator count => exact permitted.elim
  | note event => rfl

theorem perform_of_onlyReads {operation : Operation client.Draft α}
    (onlyReads : operation.OnlyReads) (conditions : Conditions) (state : client.State) :
    (client.perform conditions operation state).2 = state :=
  custody.unchanged_of_reading (onlyReads.trace _)

theorem meets_of_onlyReads {source : Randomness.Source} {α : Type}
    {operation : Operation client.Draft α} {state : client.State}
    (onlyReads : operation.OnlyReads) :
    operation.Meets (client.disturbed source) (fun _ next => next = state) state := by
  refine onlyReads.meets (fun _ _ => trivial) ?_ rfl
  rintro request reached answer next reading served rfl
  cases request with
  | storage request =>
    obtain ⟨disturbance, handled⟩ := served
    have same := custody.handleDisturbed_snd disturbance request reached reading
    rwa [handled] at same
  | draw generator count => exact served.2
  | note event => exact served

/-- Even a store that is disturbed shows only what is in it. -/
theorem reveals (source : Randomness.Source) :
    Reveals (client.disturbed source) (Holds client) where
  permits _ := trivial
  opens := by
    rintro path data state next ⟨disturbance, handled⟩
    have same := custody.handleDisturbed_snd disturbance (.openRecord path) state trivial
    rw [handled] at same
    obtain rfl : next = state := same
    rcases disturbance with _ | _ | _
    · exact congrArg Prod.fst handled
    · cases congrArg Prod.fst handled
    · exact congrArg Prod.fst handled
  reads := by
    rintro reader count found state next ⟨disturbance, handled⟩
    rcases disturbance with _ | _ | _
    · exact custody.eq_readFrom (congrArg Prod.fst handled)
    · cases congrArg Prod.fst handled
    · exact custody.eq_readFrom (congrArg Prod.fst handled)
  keepsRead := by
    rintro path data reader count state next answer ⟨disturbance, handled⟩
    have same := custody.handleDisturbed_snd disturbance (.read reader count) state trivial
    rw [handled] at same
    obtain rfl : next = state := same
    exact id
  keepsNote := by
    rintro path data event state next answer rfl
    exact id

/-- A store that is left alone can be read, and is as it was. -/
theorem readable (source : Randomness.Source) (state : client.State) :
    Readable (client.calm source) (fun reached => reached = state) where
  permits _ := trivial
  reads := by
    rintro reader count before next answer handled small rfl
    obtain ⟨rfl, rfl⟩ := Prod.mk.inj handled
    exact ⟨(custody.reads before reader small).trans
      (congrArg Except.ok (readFrom_ofNat reader count)),
      custody.unchanged (.read reader count) before trivial⟩

theorem offers (source : Randomness.Source) (path : Text) (data : Bytes) :
    Offers (client.calm source) path data (Holds client path data) where
  permits _ := trivial
  contains := by
    rintro state next answer handled holds
    obtain ⟨rfl, rfl⟩ := Prod.mk.inj handled
    refine ⟨custody.finds holds, ?_⟩
    rwa [custody.unchanged (.contains path) state trivial]
  opens := by
    rintro state next answer handled holds
    obtain ⟨rfl, rfl⟩ := Prod.mk.inj handled
    refine ⟨holds, ?_⟩
    rwa [custody.unchanged (.openRecord path) state trivial]
  reads := by
    intro reader count state next answer handled small holds
    obtain ⟨answered, rfl⟩ := (custody.readable source state).reads handled small rfl
    exact ⟨answered, holds⟩
  notes := by
    rintro event state next answer rfl holds
    exact holds

theorem keeps_perform {α : Type} {operation : Operation client.Draft α}
    {before state : client.State} (careful : operation.IsCareful (custody.Fresh before))
    (conditions : Conditions) (keeps : custody.Keeps before state) :
    custody.Keeps before (client.perform conditions operation state).2 := by
  have served (disturbance : Option Disturbance) (request : Request client.Draft)
      (state : client.State) (ghost : Unit)
      (within : (Surroundings.careful (custody.Fresh before)).permits (.storage request))
      (keeps : custody.Keeps before state) :
      ∃ next, (Surroundings.careful (custody.Fresh before)).serves (.storage request) ghost
        (client.handleDisturbed disturbance request state).1 next ∧
          custody.Keeps before (client.handleDisturbed disturbance request state).2 := by
    refine ⟨(), ?_⟩
    have handled := custody.handsOut request keeps within
    have kept := custody.keeps request keeps within
    rcases disturbance with _ | _ | _
    · exact ⟨handled, kept⟩
    · cases request with
      | publish draft => exact ⟨trivial, custody.keeps (.discard draft) keeps within⟩
      | discard draft => exact ⟨trivial, custody.keeps (.discard draft) keeps within⟩
      | _ => exact ⟨trivial, keeps⟩
    · cases request with
      | contains path => exact ⟨trivial, keeps⟩
      | _ => exact ⟨handled, kept⟩
  obtain ⟨-, -, kept⟩ := client.perform_meets served (fun _ _ _ _ keeps => ⟨(), trivial, keeps⟩)
    (fun _ _ _ keeps => ⟨(), trivial, keeps⟩) keeps careful
  exact kept

end Custody

end Storage

end KeyEnvelope
