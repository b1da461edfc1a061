import KeyEnvelope.Procedure

/-!
# Contracts for procedures

A contract says what may be asked for and how that may be answered. A procedure
meets a goal under a contract if it asks only for what is permitted and comes to the
goal whatever the answers are. It then does so in every run that keeps to the
contract, and at every point of a history that keeps to it, however far that history
goes.
-/

namespace KeyEnvelope

/-- What may be asked for, and which answers may come in a state and lead to which. -/
structure Contract (I : Interface) (σ : Type) where
  permits : I.Request → Prop
  serves : (request : I.Request) → σ → I.Answer request → σ → Prop

abbrev Exchange (I : Interface) : Type :=
  (request : I.Request) × I.Answer request

/-- The history can have led from one state to the other. -/
inductive Contract.Follows {I : Interface} {σ : Type} (contract : Contract I σ) :
    σ → List (Exchange I) → σ → Prop where
  | nil {state} : Follows contract state [] state
  | cons {request state answer next history final} :
      contract.serves request state answer next →
      Follows contract next history final →
      Follows contract state (⟨request, answer⟩ :: history) final

namespace Procedure

variable {I : Interface} {α β σ τ : Type}

def Meets (contract : Contract I σ) (goal : α → σ → Prop) : Procedure I α → σ → Prop
  | done value, state => goal value state
  | ask request resume, state =>
    contract.permits request ∧
      ∀ answer next, contract.serves request state answer next →
        (resume answer).Meets contract goal next

/-- The procedure is left over from another one after a history. -/
inductive Leads : Procedure I α → List (Exchange I) → Procedure I α → Prop where
  | nil {procedure} : Leads procedure [] procedure
  | cons {request resume answer history rest} :
      Leads (resume answer) history rest →
      Leads (ask request resume) (⟨request, answer⟩ :: history) rest

variable {contract : Contract I σ} {goal : α → σ → Prop}

@[simp]
theorem meets_done {value : α} {state : σ} :
    (done value : Procedure I α).Meets contract goal state ↔ goal value state := Iff.rfl

@[simp]
theorem meets_request {request : I.Request} {goal : I.Answer request → σ → Prop} {state : σ} :
    (Procedure.request request).Meets contract goal state ↔
      contract.permits request ∧
        ∀ answer next, contract.serves request state answer next → goal answer next := Iff.rfl

theorem Meets.mono {weaker : α → σ → Prop}
    (implies : ∀ value state, goal value state → weaker value state)
    {procedure : Procedure I α} {state : σ} (meets : procedure.Meets contract goal state) :
    procedure.Meets contract weaker state := by
  induction procedure generalizing state with
  | done value => exact implies value state meets
  | ask request resume inductionHypothesis =>
    exact ⟨meets.1, fun answer next served =>
      inductionHypothesis answer (meets.2 answer next served)⟩

theorem Meets.and {other : α → σ → Prop} {procedure : Procedure I α} {state : σ}
    (meets : procedure.Meets contract goal state)
    (otherMeets : procedure.Meets contract other state) :
    procedure.Meets contract (fun value state => goal value state ∧ other value state) state := by
  induction procedure generalizing state with
  | done value => exact ⟨meets, otherMeets⟩
  | ask request resume inductionHypothesis =>
    exact ⟨meets.1, fun answer next served =>
      inductionHypothesis answer (meets.2 answer next served) (otherMeets.2 answer next served)⟩

/-- A goal that is met whatever the answers are is met also if fewer of them can come. -/
theorem Meets.narrow {narrow : Contract I σ}
    (permits : ∀ request, contract.permits request → narrow.permits request)
    (serves : ∀ request state answer next, narrow.serves request state answer next →
      contract.serves request state answer next)
    {procedure : Procedure I α} {state : σ} (meets : procedure.Meets contract goal state) :
    procedure.Meets narrow goal state := by
  induction procedure generalizing state with
  | done value => exact meets
  | ask request resume inductionHypothesis =>
    exact ⟨permits request meets.1, fun answer next served =>
      inductionHypothesis answer (meets.2 answer next (serves request state answer next served))⟩

theorem meets_trivial (permits : ∀ request, contract.permits request)
    (procedure : Procedure I α) (state : σ) :
    procedure.Meets contract (fun _ _ => True) state := by
  induction procedure generalizing state with
  | done value => trivial
  | ask request resume inductionHypothesis =>
    exact ⟨permits request, fun answer next _ => inductionHypothesis answer next⟩

/-- The procedure makes only requests of a certain kind. -/
def Asks (allowed : I.Request → Prop) (procedure : Procedure I α) : Prop :=
  procedure.Meets ⟨allowed, fun _ _ _ _ => True⟩ (fun _ _ => True) ()

/-- Requests that are permitted and change nothing about a state change nothing
about it in any number. -/
theorem Asks.meets {allowed : I.Request → Prop} {held : σ → Prop}
    (permits : ∀ request, allowed request → contract.permits request)
    (keeps : ∀ request state answer next, allowed request →
      contract.serves request state answer next →
      held state → held next)
    {procedure : Procedure I α} {state : σ} (asks : procedure.Asks allowed) (holds : held state) :
    procedure.Meets contract (fun _ next => held next) state := by
  induction procedure generalizing state with
  | done value => exact holds
  | ask request resume inductionHypothesis =>
    exact ⟨permits request asks.1, fun answer next served =>
      inductionHypothesis answer (asks.2 answer () trivial)
        (keeps request state answer next asks.1 served holds)⟩

/-- A procedure that makes only requests of a kind keeps to a contract that permits no others. -/
theorem Meets.restrict {allowed : I.Request → Prop} {procedure : Procedure I α} {state : σ}
    (meets : procedure.Meets contract goal state) (asks : procedure.Asks allowed) :
    procedure.Meets ⟨fun request => contract.permits request ∧ allowed request, contract.serves⟩
      goal state := by
  induction procedure generalizing state with
  | done value => exact meets
  | ask request resume inductionHypothesis =>
    exact ⟨⟨meets.1, asks.1⟩, fun answer next served =>
      inductionHypothesis answer (meets.2 answer next served) (asks.2 answer () trivial)⟩

theorem Asks.mono {allowed weaker : I.Request → Prop}
    (implies : ∀ request, allowed request → weaker request) {procedure : Procedure I α}
    (asks : procedure.Asks allowed) : procedure.Asks weaker := by
  have meets : procedure.Meets ⟨allowed, fun _ _ _ _ => True⟩ (fun _ _ => True) () := asks
  exact meets.narrow implies fun _ _ _ _ _ => trivial

theorem meets_bind {goal : β → σ → Prop} (procedure : Procedure I α)
    (next : α → Procedure I β) (state : σ) :
    (procedure.bind next).Meets contract goal state ↔
      procedure.Meets contract (fun value state =>
        (next value).Meets contract goal state) state := by
  induction procedure generalizing state with
  | done value => exact Iff.rfl
  | ask request resume inductionHypothesis => simp only [bind, Meets, inductionHypothesis]

theorem bind_assoc {γ : Type} (procedure : Procedure I α) (next : α → Procedure I β)
    (last : β → Procedure I γ) :
    (procedure.bind next).bind last = procedure.bind fun value => (next value).bind last := by
  induction procedure with
  | done value => rfl
  | ask request resume inductionHypothesis =>
    exact congrArg (ask request) (funext inductionHypothesis)

/-- A run keeps to a contract if every request that the contract permits is served
as it says, up to a relation between the states of the run and those of the
contract. -/
theorem Meets.run {contract : Contract I τ} {goal : α → τ → Prop}
    {serve : (request : I.Request) → σ → I.Answer request × σ} {relates : σ → τ → Prop}
    (keeps : ∀ request state ghost, contract.permits request → relates state ghost →
      ∃ next, contract.serves request ghost (serve request state).1 next ∧
        relates (serve request state).2 next)
    {procedure : Procedure I α} (state : σ) {ghost : τ} (related : relates state ghost)
    (meets : procedure.Meets contract goal ghost) :
    ∃ next, goal (procedure.run serve state).1 next ∧
      relates (procedure.run serve state).2 next := by
  induction procedure generalizing state ghost with
  | done value => exact ⟨ghost, meets, related⟩
  | ask request resume inductionHypothesis =>
    obtain ⟨next, served, nextRelated⟩ := keeps request state ghost meets.1 related
    exact inductionHypothesis _ _ nextRelated (meets.2 _ next served)

theorem run_bind (serve : (request : I.Request) → σ → I.Answer request × σ)
    (procedure : Procedure I α) (next : α → Procedure I β) (state : σ) :
    (procedure.bind next).run serve state =
      (next (procedure.run serve state).1).run serve (procedure.run serve state).2 := by
  induction procedure generalizing state with
  | done value => rfl
  | ask request resume inductionHypothesis => exact inductionHypothesis _ _

/-- What is left over after a history still meets the goal, and the history holds
only permitted requests. -/
theorem Meets.leads {procedure rest : Procedure I α} {history : List (Exchange I)} {state final : σ}
    (meets : procedure.Meets contract goal state) (leads : procedure.Leads history rest)
    (follows : contract.Follows state history final) :
    rest.Meets contract goal final ∧ ∀ exchange ∈ history, contract.permits exchange.1 := by
  induction leads generalizing state with
  | nil =>
    cases follows
    exact ⟨meets, by simp⟩
  | cons leads inductionHypothesis =>
    cases follows with
    | cons served follows =>
      obtain ⟨restMeets, permitted⟩ := inductionHypothesis (meets.2 _ _ served) follows
      exact ⟨restMeets, List.forall_mem_cons.mpr ⟨meets.1, permitted⟩⟩

theorem Asks.leads {allowed : I.Request → Prop} {procedure rest : Procedure I α}
    {history : List (Exchange I)}
    (asks : procedure.Asks allowed) (leads : procedure.Leads history rest) :
    ∀ exchange ∈ history, allowed exchange.1 := by
  induction leads with
  | nil => simp
  | cons _ inductionHypothesis =>
    exact List.forall_mem_cons.mpr ⟨asks.1, inductionHypothesis (asks.2 _ () trivial)⟩

/-- A sequence that is done has gone through its first procedure. -/
theorem Leads.exists_done {procedure : Procedure I α} {next : α → Procedure I β}
    {history : List (Exchange I)}
    {value : β} (leads : (procedure.bind next).Leads history (done value)) :
    ∃ first result, first <+: history ∧ procedure.Leads first (done result) := by
  induction procedure generalizing history with
  | done result => exact ⟨[], result, List.nil_prefix, .nil⟩
  | ask request resume inductionHypothesis =>
    cases leads with
    | cons leads =>
      obtain ⟨first, result, begins, finishes⟩ := inductionHypothesis _ leads
      exact ⟨_, result, List.cons_prefix_cons.mpr ⟨rfl, begins⟩, .cons finishes⟩

def EndsWithin : Nat → Procedure I α → Prop
  | _, done _ => True
  | 0, ask _ _ => False
  | bound + 1, ask _ resume => ∀ answer, (resume answer).EndsWithin bound

theorem EndsWithin.mono {least bound : Nat} (most : least ≤ bound) {procedure : Procedure I α}
    (ends : procedure.EndsWithin least) : procedure.EndsWithin bound := by
  induction procedure generalizing least bound with
  | done value => cases bound <;> trivial
  | ask request resume inductionHypothesis =>
    cases least with
    | zero => exact ends.elim
    | succ least =>
      obtain ⟨bound, rfl⟩ : ∃ smaller, bound = smaller + 1 := ⟨bound - 1, by omega⟩
      exact fun answer => inductionHypothesis answer (by omega) (ends answer)

theorem EndsWithin.bind {first second : Nat} {procedure : Procedure I α} {next : α → Procedure I β}
    (ends : procedure.EndsWithin first) (nextEnds : ∀ value, (next value).EndsWithin second) :
    (procedure.bind next).EndsWithin (second + first) := by
  induction procedure generalizing first with
  | done value => exact (nextEnds value).mono (by omega)
  | ask request resume inductionHypothesis =>
    cases first with
    | zero => exact ends.elim
    | succ first => exact fun answer => inductionHypothesis answer (ends answer)

theorem EndsWithin.leads {bound : Nat} {procedure rest : Procedure I α}
    {history : List (Exchange I)}
    (ends : procedure.EndsWithin bound) (leads : procedure.Leads history rest) :
    rest.EndsWithin (bound - history.length) := by
  induction leads generalizing bound with
  | nil => exact ends
  | cons _ inductionHypothesis =>
    cases bound with
    | zero => exact ends.elim
    | succ bound => simpa using inductionHypothesis (ends _)

theorem done_of_endsWithin_zero {procedure : Procedure I α} (ends : procedure.EndsWithin 0) :
    ∃ value, procedure = done value := by
  cases procedure with
  | done value => exact ⟨value, rfl⟩
  | ask request resume => exact ends.elim

theorem Leads.snoc {procedure : Procedure I α} {history : List (Exchange I)} {request : I.Request}
    {resume : I.Answer request → Procedure I α}
    (leads : procedure.Leads history (ask request resume)) (answer : I.Answer request) :
    procedure.Leads (history ++ [⟨request, answer⟩]) (resume answer) := by
  generalize asked : ask request resume = rest at leads
  induction leads with
  | nil =>
    subst asked
    exact .cons .nil
  | cons _ inductionHypothesis => exact .cons (inductionHypothesis asked)

theorem Leads.of_bind {procedure : Procedure I α} {next : α → Procedure I β} {value : α}
    {first second : List (Exchange I)} {rest : Procedure I β}
    (finishes : procedure.Leads first (done value))
    (leads : (procedure.bind next).Leads (first ++ second) rest) :
    (next value).Leads second rest := by
  generalize finished : done value = result at finishes
  induction finishes with
  | nil =>
    subst finished
    exact leads
  | cons _ inductionHypothesis =>
    cases leads with
    | cons leads => exact inductionHypothesis leads finished

end Procedure

theorem Contract.Follows.snoc {I : Interface} {σ : Type} {contract : Contract I σ}
    {state final next : σ}
    {history : List (Exchange I)} {request : I.Request} {answer : I.Answer request}
    (follows : contract.Follows state history final)
    (served : contract.serves request final answer next) :
    contract.Follows state (history ++ [⟨request, answer⟩]) next := by
  induction follows with
  | nil => exact .cons served .nil
  | cons first _ inductionHypothesis => exact .cons first (inductionHypothesis served)

theorem Contract.follows_append_iff {I : Interface} {σ : Type} {contract : Contract I σ}
    {state final : σ} {first second : List (Exchange I)} :
    contract.Follows state (first ++ second) final ↔
      ∃ middle, contract.Follows state first middle ∧ contract.Follows middle second final := by
  constructor
  · intro follows
    induction first generalizing state with
    | nil => exact ⟨state, .nil, follows⟩
    | cons exchange rest inductionHypothesis =>
      cases follows with
      | cons served follows =>
        obtain ⟨middle, before, after⟩ := inductionHypothesis follows
        exact ⟨middle, .cons served before, after⟩
  · rintro ⟨middle, before, after⟩
    induction before with
    | nil => exact after
    | cons served _ inductionHypothesis => exact .cons served (inductionHypothesis after)

end KeyEnvelope
