import KeyEnvelope.Proofs.KeyWrap.Registry
import KeyEnvelope.Proofs.Race
import KeyEnvelope.Proofs.Strategy

/-!
# One caller among others

What one caller can rely on while others add records: once it has made sure of a key
there is a record at the path, and whatever record there is stays. It therefore
loads what everyone loads, and never misses it.
-/

namespace KeyEnvelope.Contest

open Storage Operation

variable {source : Randomness.Source} {memory : Memory}

def Holds (path : Text) (data : Bytes) (memory : Memory) : Prop :=
  ∃ replication, memory.record? path = some ⟨data, replication⟩

theorem Holds.within {path : Text} {data : Bytes} {next : Memory} (holds : Holds path data memory)
    (within : memory.Within next) : Holds path data next :=
  holds.imp fun replication => within path ⟨data, replication⟩

/-- Nothing that is served takes a record away. -/
theorem Holds.served {path : Text} {data : Bytes} {request : Surroundings.Request Memory.Draft}
    {answer : Surroundings.Answer request} {next : Memory} (holds : Holds path data memory)
    (served : (shared source).serves request memory answer next) : Holds path data next := by
  obtain ⟨seen, within, serving⟩ := served
  have grows : seen.Within (serve source request seen).2 := within_serve request
  rw [serving] at grows
  exact (holds.within within).within grows

theorem shared_reveals (source : Randomness.Source) : Reveals (shared source) Holds where
  permits _ := trivial
  opens := by
    rintro path data state next ⟨seen, -, serving⟩
    obtain ⟨opened, rfl⟩ := Prod.mk.inj serving
    exact Memory.openRecord_eq_ok_iff.mp opened
  reads := by
    rintro reader count found state next ⟨seen, -, serving⟩
    obtain ⟨read, -⟩ := Prod.mk.inj serving
    exact Memory.eq_readFrom_of_read read
  keepsRead served holds := holds.served served
  keepsNote served holds := holds.served served

theorem shared_offers (path : Text) (data : Bytes) :
    Offers (shared source) path data (Holds path data) where
  permits _ := trivial
  contains := by
    rintro state next answer served holds
    refine ⟨?_, holds.served served⟩
    obtain ⟨seen, within, serving⟩ := served
    obtain ⟨replication, present⟩ := holds.within within
    obtain ⟨rfl, -⟩ := Prod.mk.inj serving
    exact congrArg (fun found : Option MemoryRecord => Except.ok found.isSome) present
  opens := by
    rintro state next answer served holds
    refine ⟨?_, holds.served served⟩
    obtain ⟨seen, within, serving⟩ := served
    obtain ⟨rfl, -⟩ := Prod.mk.inj serving
    exact Memory.openRecord_eq_ok_iff.mpr (holds.within within)
  reads := by
    rintro reader count state next answer served small holds
    refine ⟨?_, holds.served served⟩
    obtain ⟨seen, within, serving⟩ := served
    obtain ⟨rfl, -⟩ := Prod.mk.inj serving
    exact (Memory.read_of_lt small).trans (congrArg Except.ok (readFrom_ofNat reader count))
  notes served holds := holds.served served

def Present (path : Text) (memory : Memory) : Prop :=
  ∃ data, Holds path data memory

theorem present_of_isSome {path : Text} (found : (memory.record? path).isSome = true) :
    Present path memory := by
  obtain ⟨⟨data, replication⟩, found⟩ := Option.isSome_iff_exists.mp found
  exact ⟨data, replication, found⟩

/-- How writing the record of a key ends that is too long for its header. -/
def tooLong : Failure :=
  .badFormat "'i' format requires -2147483648 <= number <= 2147483647"

theorem publish_meets (draft : Memory.Draft) :
    (publish draft).Meets (shared source) (fun result next => Present draft.path next ∧
      (result = .ok () ∨ result = .error (.system (.described .fileExists draft.path none))))
        memory := by
  refine ⟨trivial, ?_⟩
  rintro answer next ⟨seen, -, serving⟩
  obtain ⟨rfl, rfl⟩ := Prod.mk.inj serving
  cases found : seen.record? draft.path with
  | none =>
    simp only [Memory.serve, Memory.publish_of_absent found, Served.quiet]
    exact ⟨⟨_, _, Memory.record?_put_self⟩, .inl rfl⟩
  | some record =>
    simp only [Memory.serve, Memory.publish_of_present found, Served.quiet]
    exact ⟨⟨_, _, found⟩, .inr rfl⟩

theorem served_eq {request : Surroundings.Request Memory.Draft}
    {answer : Surroundings.Answer request} {next : Memory}
    (served : (shared source).serves request memory answer next) :
    ∃ seen, memory.Within seen ∧ answer = (serve source request seen).1 ∧
      next = (serve source request seen).2 := by
  obtain ⟨seen, within, serving⟩ := served
  exact ⟨seen, within, by rw [serving], by rw [serving]⟩

theorem writeRecord_meets (draft : Memory.Draft) (key : Bytes) :
    (KeyStore.writeRecord draft key).Meets (shared source) (fun result _ =>
      (∃ written, result = .ok written ∧ written.path = draft.path) ∨
        result = .error tooLong ∧ 2147483648 ≤ key.length) memory := by
  simp only [KeyStore.writeRecord, meets_bind, meets_ofExcept, meets_write]
  by_cases fitting : key.length < 2147483648
  · rw [KeyRecord.checkLength_eq_ok_iff.mpr fitting]
    refine ⟨trivial, ?_⟩
    intro answer next served
    obtain ⟨_, -, rfl, rfl⟩ := served_eq served
    refine ⟨trivial, ?_⟩
    intro answer next served
    obtain ⟨_, -, rfl, rfl⟩ := served_eq served
    exact .inl ⟨_, rfl, rfl⟩
  · have long : 2147483648 ≤ key.length := by omega
    simp only [KeyRecord.checkLength, long, if_true]
    exact .inr ⟨rfl, trivial⟩

theorem createRecord_meets (path : Text) (replication : Int) (key : Bytes) :
    (KeyStore.createRecord path replication key).Meets (shared source) (fun result next =>
      (Present path next ∧
        (result = .ok () ∨ result = .error (.system (.described .fileExists path none)))) ∨
        result = .error tooLong ∧ 2147483648 ≤ key.length) memory := by
  apply meets_bind.mpr
  refine meets_create.mpr ⟨trivial, ?_⟩
  intro answer next served
  obtain ⟨_, -, rfl, rfl⟩ := served_eq served
  apply meets_andThen.mpr
  apply (writeRecord_meets _ key).mono
  intro result written outcome
  rcases outcome with ⟨record, rfl, samePath⟩ | ⟨rfl, long⟩
  · obtain rfl : record.path = path := samePath
    exact (publish_meets record).mono fun result next => .inl
  · exact meets_bind.mpr (meets_discard.mpr ⟨trivial, fun _ _ _ => .inr ⟨rfl, long⟩⟩)

theorem afterCreation_meets (path : Text) (bits replication : Int) {key : Bytes}
    {result : Except Failure Unit}
    (created :
      (Present path memory ∧
        (result = .ok () ∨ result = .error (.system (.described .fileExists path none)))) ∨
        result = .error tooLong ∧ 2147483648 ≤ key.length) :
    (KeyStore.afterCreation path bits replication result).Meets (shared source) (fun outcome next =>
      (Present path next ∧ ∃ created, outcome = .ok created) ∨
        outcome = .error tooLong ∧ 2147483648 ≤ key.length) memory := by
  have noted {event : Log.Event} {next : Memory} {answer : Unit} (present : Present path memory)
      (served : (shared source).serves (.note event) memory answer next) : Present path next :=
    present.imp fun data holds => holds.served served
  rcases created with ⟨present, rfl | rfl⟩ | ⟨rfl, long⟩
  · exact meets_bind.mpr ⟨trivial, fun answer next served => .inl ⟨noted present served, true, rfl⟩⟩
  · exact meets_bind.mpr ⟨trivial, fun answer next served =>
      .inl ⟨noted present served, false, rfl⟩⟩
  · exact .inr ⟨rfl, long⟩

/-- Making sure of a key leaves a record at the path, unless the key that was drawn
is too long. -/
theorem ensure_meets {provision : Provision} (positive : 0 < provision.bits)
    (whole : provision.bits % 8 = 0)
    {drawn : Bytes} (draws : source provision.generator (provision.bits / 8).toNat = .ok drawn) :
    provision.ensure.Meets (shared source) (fun result next =>
      (Present provision.path next ∧ ∃ created, result = .ok created) ∨
        result = .error tooLong ∧ 2147483648 ≤ drawn.length) memory := by
  unfold Provision.ensure KeyStore.ensure
  rw [if_neg (by omega)]
  simp only [KeyStore.contains, meets_bind, meets_andThen, meets_contains]
  refine ⟨trivial, ?_⟩
  intro answer next served
  obtain ⟨_, -, rfl, rfl⟩ := served_eq served
  simp only [serve, Memory.serve, Served.quiet, meets_pure]
  cases found : (next.record? provision.path).isSome with
  | true => exact .inl ⟨present_of_isSome found, false, rfl⟩
  | false =>
    apply meets_bind.mpr
    refine meets_draw.mpr ⟨trivial, ?_⟩
    intro answer next served
    obtain ⟨_, -, rfl, rfl⟩ := served_eq served
    simp only [serve, draws, meets_andThen]
    exact (createRecord_meets _ _ drawn).mono fun result next created =>
      afterCreation_meets _ _ _ created

/-- The failures that say that a key encryption key is not there, or could not be
created. -/
def LosesKek : Failure → Prop
  | .kekMissing _ _ | .kekNotCreated _ _ => True
  | _ => False

theorem not_losesKek_of_wrap_eq_error {registry : KeyWrap.Registry} {algorithm descriptor : Text}
    {kek key : Bytes}
    {failure : Failure} (fails : registry.wrap algorithm descriptor kek key = .error failure) :
    ¬LosesKek failure := by
  simp only [KeyWrap.Registry.wrap, Checks.bind_eq_error_iff] at fails
  rcases fails with fails | ⟨suite, -, fails⟩
  · obtain ⟨issue, rfl⟩ := KeyWrap.Registry.configuration_of_resolve_eq_error fails
    exact id
  · split at fails
    · obtain rfl := Except.error.inj fails
      exact id
    · simp only [Checks.pure_eq_ok] at fails
      split at fails
      · cases fails
      all_goals
        obtain rfl := Except.error.inj fails
        exact id

/-- Under a record that is there a key is wrapped, or it fails for another reason
than that there is none. -/
theorem wrapPlanned_keepsKek (registry : KeyWrap.Registry) (parameters : Parameters)
    {plan : Strategy.Plan} (present : Present plan.path memory) :
    (Strategy.wrapPlanned registry parameters plan).Meets (shared source) (fun result _ =>
      ∀ failure, result = .error failure → ¬LosesKek failure) memory := by
  obtain ⟨data, holds⟩ := present
  cases decoding : KeyRecord.decode data with
  | error issue =>
    simp only [Strategy.wrapPlanned, meets_bind]
    apply (KeyStore.load_of_offers (shared_offers plan.path data) holds).mono
    rintro _ loaded ⟨rfl, -⟩
    simp only [decoding, Except.map, Except.mapError]
    rintro failure ⟨⟩
    exact id
  | ok decoded =>
    apply (Strategy.wrapPlanned_of_offers (shared_offers plan.path data) decoding holds).mono
    rintro _ next rfl
    cases wrapping : registry.wrap (Strategy.algorithmName parameters)
      (Strategy.suiteName parameters) decoded.1 plan.key with
    | error failure =>
      rintro _ ⟨⟩
      exact not_losesKek_of_wrap_eq_error wrapping
    | ok wrapped => rintro _ ⟨⟩

end KeyEnvelope.Contest
