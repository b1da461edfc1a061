import KeyEnvelope.Proofs.Assoc
import KeyEnvelope.Proofs.Storage.Client
import KeyEnvelope.Storage.Memory

/-!
# Memory only grows

A request to memory changes no record that is there. One is added only where there
was none, by publishing a draft.
-/

namespace KeyEnvelope.Storage.Memory

/-- The record that a draft is to become. -/
def Draft.record (draft : Draft) : MemoryRecord :=
  ⟨draft.content, draft.replication⟩

variable {memory next : Memory} {path : Text} {record : MemoryRecord} {draft : Draft}

/-- Every record of the first memory is a record of the second one. -/
def Within (memory next : Memory) : Prop :=
  ∀ path record, memory.record? path = some record → next.record? path = some record

theorem Within.refl (memory : Memory) : memory.Within memory := fun _ _ => id

theorem Within.trans {last : Memory} (first : memory.Within next) (second : next.Within last) :
    memory.Within last :=
  fun path record found => second path record (first path record found)

theorem publish_of_absent (absent : memory.record? draft.path = none) :
    memory.publish draft = (.ok (), memory.put draft.path draft.record) := by
  simp only [publish, absent, Draft.record]

theorem publish_of_present (present : memory.record? draft.path = some record) :
    memory.publish draft = (.error (.system (.described .fileExists draft.path none)), memory) := by
  simp only [publish, present]

@[simp]
theorem record?_put_self : (memory.put path record).record? path = some record :=
  Assoc.get?_set_self

theorem within_put (absent : memory.record? path = none) :
    memory.Within (memory.put path record) := by
  intro other found present
  by_cases same : other = path
  · subst same
    simp [absent] at present
  · exact (Assoc.get?_set_of_ne same).trans present

theorem records_put (absent : memory.record? path = none) :
    (memory.put path record).records = memory.records ++ [(path, record)] :=
  Assoc.set_of_get?_eq_none absent

theorem within_publish : memory.Within (memory.publish draft).2 := by
  cases found : memory.record? draft.path with
  | none =>
    rw [publish_of_absent found]
    exact within_put found
  | some record =>
    rw [publish_of_present found]
    exact .refl memory

theorem within_serve (request : Request Draft) (memory : Memory) :
    memory.Within (serve request memory).state := by
  cases request with
  | publish draft => exact within_publish
  | _ => exact fun _ _ => id

theorem openRecord_eq_ok_iff {data : Bytes} :
    memory.openRecord path = .ok data ↔
      ∃ replication, memory.record? path = some ⟨data, replication⟩ := by
  unfold openRecord
  rcases memory.record? path with _ | ⟨found, replication⟩ <;> simp

theorem eq_readFrom_of_read {reader : Reader} {count : Int} {found : Bytes × Reader}
    (reads : read reader count = .ok found) : found = readFrom reader count := by
  obtain ⟨-, -, rest⟩ := Checks.bind_eq_ok_iff.mp reads
  exact (Except.ok.inj rest).symm

theorem read_of_lt {reader : Reader} {count : Nat} (small : count < 9223372036854775808) :
    read reader count = .ok (readFrom reader count) := by
  simp [read, checkCount_of_lt small]

end KeyEnvelope.Storage.Memory
