import KeyEnvelope.Log.Output
import KeyEnvelope.Proofs.Log.Fields
import Mathlib.Data.List.Forall2

/-!
# Key material stays out of log lines

Events that differ in the values of key material only are followed through all that makes a line of
them: their fields stay alike, and once they are masked they are the same. So the lines are the
same, and so is the output for all events behind them. What a line shows apart from key material
is what the caller gave, or what every line has of its own where that goes first.
-/

namespace KeyEnvelope.Log

/-- The fields have the same names in the same order, and under all names but these the same
values. -/
def AlikeBut (names : List String) (fields others : Fields) : Prop :=
  List.Forall₂ (fun field other => field.1 = other.1 ∧ (field.1 ∉ names → field.2 = other.2))
    fields others

namespace AlikeBut

variable {names : List String} {name question : String} {value other : Value}
  {fields others later laters : Fields}

theorem refl (names : List String) (fields : Fields) : AlikeBut names fields fields :=
  List.forall₂_same.mpr fun _ _ => ⟨rfl, fun _ => rfl⟩

theorem eq (alike : AlikeBut [] fields others) : fields = others := by
  induction alike with
  | nil => rfl
  | cons alike _ inductionHypothesis =>
    rw [inductionHypothesis, Prod.ext alike.1 (alike.2 List.not_mem_nil)]

theorem get?_isSome (alike : AlikeBut names fields others) (name : String) :
    (Assoc.get? name fields).isSome = (Assoc.get? name others).isSome := by
  induction alike with
  | nil => rfl
  | cons alike _ inductionHypothesis =>
    simp only [Assoc.get?, alike.1]
    split
    · rfl
    · exact inductionHypothesis

theorem get?_eq (alike : AlikeBut names fields others) (outside : name ∉ names) :
    Assoc.get? name fields = Assoc.get? name others := by
  induction alike with
  | nil => rfl
  | @cons field other _ _ alike _ inductionHypothesis =>
    obtain ⟨named, valued⟩ := alike
    simp only [Assoc.get?, ← named]
    split
    · rename_i same
      rw [valued (same ▸ outside)]
    · exact inductionHypothesis

theorem set (alike : AlikeBut names fields others) (valued : name ∉ names → value = other) :
    AlikeBut names (Assoc.set name value fields) (Assoc.set name other others) := by
  induction alike with
  | nil => exact .cons ⟨rfl, valued⟩ .nil
  | @cons field other _ _ alike rest inductionHypothesis =>
    simp only [Assoc.set, ← alike.1]
    split
    · rename_i same
      exact .cons ⟨rfl, fun outside => valued (same ▸ outside)⟩ rest
    · exact .cons ⟨rfl, alike.2⟩ inductionHypothesis

theorem overlay (alike : AlikeBut names fields others) (behind : AlikeBut names later laters) :
    AlikeBut names (Assoc.overlay fields later) (Assoc.overlay others laters) := by
  induction behind generalizing fields others with
  | nil => exact alike
  | @cons field other _ _ same _ inductionHypothesis =>
    obtain ⟨name, value⟩ := field
    obtain ⟨_, value'⟩ := other
    obtain ⟨rfl, valued⟩ := same
    exact inductionHypothesis (alike.set valued)

theorem erase (alike : AlikeBut names fields others) (name : String) :
    AlikeBut names (Assoc.erase name fields) (Assoc.erase name others) := by
  induction alike with
  | nil => exact .nil
  | @cons field other _ _ alike _ inductionHypothesis =>
    simp only [Assoc.erase, List.filter_cons, ← alike.1]
    split
    · exact .cons alike inductionHypothesis
    · exact inductionHypothesis

theorem setDefault (alike : AlikeBut names fields others) (name : String) (value : Value) :
    AlikeBut names (Log.setDefault name value fields) (Log.setDefault name value others) := by
  unfold Log.setDefault
  rw [alike.get?_isSome]
  split
  · exact alike
  · exact alike.set fun _ => rfl

/-- Masked fields are alike under the names of key material, too. -/
theorem redact (alike : AlikeBut (keyMaterial ++ names) fields others) :
    AlikeBut names (Log.redact fields) (Log.redact others) := by
  simp only [redact_eq_map]
  refine List.forall₂_map_left_iff.mpr (List.forall₂_map_right_iff.mpr (alike.imp ?_))
  intro field other ⟨named, valued⟩
  refine ⟨named, fun outside => ?_⟩
  simp only [shown, ← named]
  split
  · rfl
  · rename_i plain
    exact valued fun among => (List.mem_append.mp among).elim plain outside

theorem nameMessage (alike : AlikeBut names fields others) (text : "event" ∉ names) :
    AlikeBut names (Log.nameMessage fields) (Log.nameMessage others) := by
  unfold Log.nameMessage
  rw [alike.get?_isSome, alike.get?_eq text]
  split
  · exact alike
  · exact (alike.erase "event").set fun _ => rfl

theorem showTrace (alike : AlikeBut names fields others) (asked : question ∉ names)
    (name : String) (trace : Option Text) :
    AlikeBut names (Log.showTrace question name trace fields)
      (Log.showTrace question name trace others) := by
  have same : saysSo question fields = saysSo question others := by
    rw [saysSo, saysSo, alike.get?_eq asked]
  unfold Log.showTrace
  rw [same]
  split
  · exact (alike.erase question).set fun _ => rfl
  · exact alike.erase question

end AlikeBut

/-- The events are the same but for the values of key material. -/
structure Event.SameButKeys (event other : Event) : Prop where
  component : event.component = other.component
  level : event.level = other.level
  text : event.text = other.text
  fields : AlikeBut keyMaterial event.fields other.fields

namespace Event.SameButKeys

variable {event other : Event} {occasion later : Occasion} {names : List String}

/-- It does not matter for the rest of a line when an event is logged. -/
theorem lineFields_alike (alike : event.SameButKeys other) (calls : occasion.calls = later.calls)
    (exception : occasion.exception = later.exception)
    (time : "ts" ∉ names → occasion.time = later.time)
    (outside : ∀ name ∈ ["event", "stack_info", "exc_info"], name ∉ names) :
    AlikeBut names (event.lineFields occasion) (other.lineFields later) := by
  have fields : AlikeBut (keyMaterial ++ names) event.fields other.fields :=
    alike.fields.imp fun _ _ ⟨named, valued⟩ =>
      ⟨named, fun outside => valued fun among => outside (List.mem_append_left names among)⟩
  have gathered : AlikeBut (keyMaterial ++ names) (event.gathered occasion)
      (other.gathered later) := by
    unfold gathered
    rw [alike.component, alike.level, alike.text]
    apply AlikeBut.setDefault
    refine (((AlikeBut.refl _ []).overlay fields).set fun _ => rfl).set ?_ |>.set fun _ => rfl
    intro untimed
    rw [time fun among => untimed (List.mem_append_right keyMaterial among)]
  unfold lineFields
  rw [calls, exception]
  exact ((gathered.redact.nameMessage (outside _ (by simp))).showTrace (outside _ (by simp))
    _ _).showTrace (outside _ (by simp)) _ _

theorem line_eq (alike : event.SameButKeys other) (occasion : Occasion) :
    event.line occasion = other.line occasion := by
  have same : AlikeBut [] (event.lineFields occasion) (other.lineFields occasion) :=
    alike.lineFields_alike rfl rfl (fun _ => rfl) (by simp)
  rw [line, line, same.eq]

theorem emit_eq (alike : event.SameButKeys other) (output : Output) (occasion : Occasion) :
    output.emit event occasion = output.emit other occasion := by
  unfold Output.emit
  rw [alike.component, alike.level, alike.line_eq occasion]

end Event.SameButKeys

/-- The steps are the same but for the values of key material in what is logged. -/
inductive Step.SameButKeys : Step → Step → Prop where
  | configure (level : Option Text) : SameButKeys (.configure level) (.configure level)
  | log {event other : Event} (alike : event.SameButKeys other) (occasion : Occasion) :
      SameButKeys (.log event occasion) (.log other occasion)

theorem Step.SameButKeys.step_eq {step other : Step} (alike : step.SameButKeys other)
    (output : Output) : output.step step = output.step other := by
  cases alike with
  | configure level => rfl
  | log alike occasion => exact alike.emit_eq output occasion

/-- Nothing that is written in the course of many steps depends on key material. -/
theorem Output.run_eq_of_sameButKeys {steps others : List Step}
    (alike : List.Forall₂ Step.SameButKeys steps others) (output : Output) :
    output.run steps = output.run others := by
  induction alike generalizing output with
  | nil => rfl
  | cons alike _ inductionHypothesis => simp only [run, alike.step_eq, inductionHypothesis]

namespace Output

variable {event other : Event} {occasion later : Occasion}

/-- Both the level of its handle and the level that is set let the event pass. -/
def lets (output : Output) (event : Event) : Bool :=
  event.level.passes (output.withHandle event.component).2 && event.level.passes output.least

theorem least_withHandle (output : Output) (component : String) :
    (output.withHandle component).1.least = output.least := by
  unfold withHandle
  split <;> rfl

theorem emit_eq (output : Output) (event : Event) (occasion : Occasion) :
    output.emit event occasion = ((output.withHandle event.component).1,
      if output.lets event then (ofFields (event.lineFields occasion)).line.toList else []) := by
  unfold emit lets Event.line
  cases handled : output.withHandle event.component with
  | mk behind own =>
    have least : behind.least = output.least := by
      rw [← output.least_withHandle event.component, handled]
    simp only [least]
    split <;> rfl

/-- Whatever output an event goes to, the values of key material do not matter for what is written,
nor for the output behind it; at another time nothing but the time differs. What is written, if the
levels let it pass, is the line of the fields that the event is shown by, and there is one unless a
value has none that is not key material. -/
theorem emit_of_same_but_keys (named : event.component ≠ "") (alike : event.SameButKeys other)
    (calls : occasion.calls = later.calls) (exception : occasion.exception = later.exception)
    (output : Output) :
    output.emit event occasion = output.emit other occasion ∧
    AlikeBut ["ts"] (event.lineFields occasion) (other.lineFields later) ∧
    output.emit event occasion = ((output.withHandle event.component).1,
      if output.lets event then (ofFields (event.lineFields occasion)).line.toList else []) ∧
    output.emit other later = ((output.withHandle event.component).1,
      if output.lets event then (ofFields (other.lineFields later)).line.toList else []) ∧
    event.IsShownBy occasion (event.lineFields occasion) ∧
    ((∀ name ∉ keyMaterial, ∀ value, event.given? name = some value →
        ∃ line, value.line = some line) →
      ∃ line, (ofFields (event.lineFields occasion)).line = some line) := by
  have timeless : AlikeBut ["ts"] (event.lineFields occasion) (other.lineFields later) :=
    alike.lineFields_alike calls exception (fun untimed => absurd (by simp) untimed) (by simp)
  have behind : output.emit other later = ((output.withHandle event.component).1,
      if output.lets event then (ofFields (other.lineFields later)).line.toList else []) := by
    rw [emit_eq, lets, lets, alike.component, alike.level]
  exact ⟨alike.emit_eq output occasion, timeless, emit_eq output event occasion, behind,
    Event.isShownBy_lineFields named, Event.exists_line⟩

/-- Two values of a `kek` that fails to open a record make the same line, which shows neither. -/
theorem emit_of_two_keks :
    let failure (kek : Value) : Event :=
      ⟨"storage", .error, "cannot open", [("kek", kek), ("path", .text "a/kek")]⟩
    initial.emit (failure (.text "one")) = initial.emit (failure (.text "two")) ∧
      (initial.emit (failure (.text "one"))).2.length = 1 ∧
      Assoc.get? "kek" ((failure (.text "one")).lineFields) = some mask ∧
      Assoc.get? "path" ((failure (.text "one")).lineFields) = some (.text "a/kek") := by
  intro failure
  have alike : (failure (.text "one")).SameButKeys (failure (.text "two")) :=
    ⟨rfl, rfl, rfl, .cons ⟨rfl, fun plain => absurd (by decide) plain⟩
      (.cons ⟨rfl, fun _ => rfl⟩ .nil)⟩
  obtain ⟨same, -, -, -, shown, -⟩ :=
    emit_of_same_but_keys (by decide) alike (Eq.refl ({} : Occasion).calls) rfl initial
  refine ⟨same, by decide +kernel, shown.masked "kek" (by decide), ?_⟩
  exact shown.kept "path" (by decide) (by decide) _ rfl

/-- A field that is bound as `event` gives way to the text of the event, which becomes the
message. -/
theorem bound_event_gives_way :
    let event : Event := ⟨"service", .info, "text", [("event", .text "mine")]⟩
    "event" ∉ keyMaterial ++ ["ts", "level", "exc_info", "stack_info"] ∧
      event.given? "event" = some (.text "mine") ∧
      Assoc.get? "event" event.lineFields = none ∧
      Assoc.get? "msg" event.lineFields = some (.text "text") :=
  ⟨by decide, rfl, rfl, rfl⟩

end Output

end KeyEnvelope.Log
