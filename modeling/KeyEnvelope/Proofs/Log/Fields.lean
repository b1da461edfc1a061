import KeyEnvelope.Log.Line
import KeyEnvelope.Proofs.Assoc

/-!
# Fields of a line

What a line shows under each name: what every line has of its own under a few names, the trace
that the caller asks for, and otherwise what the caller gave last, masked where it may be key
material. No name comes twice.
-/

namespace KeyEnvelope.Log

variable {name other question : String} {value : Value} {fields : Fields} {trace : Option Text}
  {event : Event} {occasion : Occasion}

/-- What is shown of a value under a name. -/
def shown (name : String) (value : Value) : Value :=
  if name ∈ keyMaterial then mask else value

theorem shown_of_plain (plain : name ∉ keyMaterial) : shown name value = value :=
  if_neg plain

theorem redact_eq_map :
    redact fields = fields.map fun field => (field.1, shown field.1 field.2) := by
  apply List.map_congr_left
  intro field _
  by_cases key : field.1 ∈ keyMaterial <;> simp [shown, key]

theorem get?_redact :
    Assoc.get? name (redact fields) = (Assoc.get? name fields).map (shown name) := by
  rw [redact_eq_map]
  induction fields with
  | nil => rfl
  | cons field rest inductionHypothesis =>
    by_cases same : field.1 = name
    · simp [Assoc.get?, same]
    · simp [Assoc.get?, same, inductionHypothesis]

theorem get?_setDefault :
    Assoc.get? other (setDefault name value fields) =
      if other = name then some ((Assoc.get? name fields).getD value)
      else Assoc.get? other fields := by
  unfold setDefault
  cases found : Assoc.get? name fields with
  | none => simp [Assoc.get?_set]
  | some given =>
    simp only [Option.isSome_some, if_true, Option.getD_some]
    split
    · rename_i same
      rw [same, found]
    · rfl

theorem get?_nameMessage :
    Assoc.get? name (nameMessage fields) =
      if name = "msg" then
        some ((Assoc.get? "msg" fields).getD ((Assoc.get? "event" fields).getD (.text "")))
      else if name = "event" then
        (Assoc.get? "msg" fields).bind fun _ => Assoc.get? "event" fields
      else Assoc.get? name fields := by
  unfold nameMessage
  cases given : Assoc.get? "msg" fields with
  | none =>
    simp only [Option.isSome_none, Bool.false_eq_true, if_false, Assoc.get?_set, Assoc.get?_erase,
      Option.getD_none, Option.bind_none]
  | some message =>
    simp only [Option.isSome_some, if_true, Option.getD_some, Option.bind_some]
    split
    · rename_i same
      rw [same, given]
    · split
      · rename_i same
        rw [same]
      · rfl

theorem get?_showTrace :
    Assoc.get? other (showTrace question name trace fields) =
      if other = name ∧ saysSo question fields ∧ trace.isSome then trace.map Value.text
      else if other = question then none
      else Assoc.get? other fields := by
  unfold showTrace
  cases asked : saysSo question fields <;> cases trace <;>
    simp [Assoc.get?_set, Assoc.get?_erase]

theorem nodup_redact (distinct : (fields.map Prod.fst).Nodup) :
    ((redact fields).map Prod.fst).Nodup := by
  rw [redact_eq_map, List.map_map]
  exact distinct

theorem nodup_setDefault (distinct : (fields.map Prod.fst).Nodup) :
    ((setDefault name value fields).map Prod.fst).Nodup := by
  unfold setDefault
  split
  · exact distinct
  · exact Assoc.nodup_set distinct

theorem nodup_nameMessage (distinct : (fields.map Prod.fst).Nodup) :
    ((nameMessage fields).map Prod.fst).Nodup := by
  unfold nameMessage
  split
  · exact distinct
  · exact Assoc.nodup_set (Assoc.nodup_erase distinct)

theorem nodup_showTrace (distinct : (fields.map Prod.fst).Nodup) :
    ((showTrace question name trace fields).map Prod.fst).Nodup := by
  unfold showTrace
  split
  · exact Assoc.nodup_set (Assoc.nodup_erase distinct)
  · exact Assoc.nodup_erase distinct

/-- Fields have a line if each of their values has one. -/
theorem exists_line_ofFields_iff :
    (∃ line, (ofFields fields).line = some line) ↔
      ∀ field ∈ fields, ∃ line, field.2.line = some line := by
  have entries : (∃ lines, Value.lineEntries (fields.map fun field => (.text field.1, field.2)) =
      some lines) ↔ ∀ field ∈ fields, ∃ line, field.2.line = some line := by
    induction fields with
    | nil => simp [Value.lineEntries]
    | cons field rest inductionHypothesis =>
      rw [List.forall_mem_cons, ← inductionHypothesis]
      simp [Value.lineEntries, Value.lineKey, Option.bind_eq_some_iff]
  rw [← entries]
  simp [ofFields, Value.line]

namespace Event

/-- What the caller gives under a name: of several values the last one. -/
def given? (event : Event) (name : String) : Option Value :=
  (event.fields.reverse.find? fun field => field.1 = name).map Prod.snd

/-- Does the caller ask for the trace that a field stands for? -/
def asksFor (event : Event) (question : String) : Bool :=
  (event.given? question).any fun value => !value.isVoid

theorem get?_gathered :
    Assoc.get? name (event.gathered occasion) =
      if name = "component" then
        some ((event.given? "component").getD (.text (shownComponent event.component)))
      else if name = "level" then some (.text event.level.name)
      else if name = "ts" then some (.text occasion.time)
      else if name = "event" then some (.text event.text)
      else event.given? name := by
  have given (name : String) :
      Assoc.get? name (Assoc.overlay [] event.fields) = event.given? name := by
    rw [Assoc.get?_overlay, Assoc.get?, Option.or_none, given?]
  simp [gathered, get?_setDefault, Assoc.get?_set, given]

/-- What is shown before the traces are. -/
theorem get?_named :
    Assoc.get? name (nameMessage (redact (event.gathered occasion))) =
      if name = "msg" then some ((event.given? "msg").getD (.text event.text))
      else if name = "event" then (event.given? "msg").map fun _ => .text event.text
      else if name = "component" then
        some ((event.given? "component").getD (.text (shownComponent event.component)))
      else if name = "level" then some (.text event.level.name)
      else if name = "ts" then some (.text occasion.time)
      else (event.given? name).map (shown name) := by
  have plain : ∀ name ∈ ["msg", "event", "component", "level", "ts"], shown name = id := by
    intro name among
    funext value
    apply shown_of_plain
    revert name
    decide
  rw [get?_nameMessage]
  simp only [get?_redact, get?_gathered]
  split
  · cases event.given? "msg" <;> simp [plain]
  · split
    · cases event.given? "msg" <;> simp [plain]
    · split
      · simp_all
      · split
        · simp_all
        · split <;> simp_all

theorem saysSo_named (trace : question ∈ ["stack_info", "exc_info"]) :
    saysSo question (nameMessage (redact (event.gathered occasion))) = event.asksFor question := by
  have plain : question ∉ keyMaterial := by
    revert question
    decide
  have kept : shown question = id := funext fun value => shown_of_plain plain
  rw [saysSo, get?_named, asksFor, kept]
  simp only [List.mem_cons, List.not_mem_nil, or_false] at trace
  rcases trace with rfl | rfl <;> simp

/-- A trace goes before what is shown otherwise, and the fields that ask for one are left out. -/
theorem get?_lineFields :
    Assoc.get? name (event.lineFields occasion) =
      if name = "exception" ∧ event.asksFor "exc_info" ∧ occasion.exception.isSome then
        occasion.exception.map Value.text
      else if name = "stack" ∧ event.asksFor "stack_info" then some (.text occasion.calls)
      else if name = "exc_info" ∨ name = "stack_info" then none
      else Assoc.get? name (nameMessage (redact (event.gathered occasion))) := by
  have later : saysSo "exc_info" (showTrace "stack_info" "stack" (some occasion.calls)
      (nameMessage (redact (event.gathered occasion)))) = event.asksFor "exc_info" := by
    have named : saysSo "exc_info" (nameMessage (redact (event.gathered occasion))) =
        event.asksFor "exc_info" := saysSo_named (by simp)
    rw [← named, saysSo, saysSo, get?_showTrace]
    simp
  rw [lineFields, get?_showTrace, later, get?_showTrace, saysSo_named (by simp)]
  simp only [Option.isSome_some, and_true, Option.map_some]
  grind

theorem nodup_lineFields : ((event.lineFields occasion).map Prod.fst).Nodup := by
  have given : ((Assoc.overlay [] event.fields).map Prod.fst).Nodup :=
    Assoc.nodup_overlay event.fields List.nodup_nil
  have gathered : ((event.gathered occasion).map Prod.fst).Nodup :=
    nodup_setDefault (Assoc.nodup_set (Assoc.nodup_set (Assoc.nodup_set given)))
  exact nodup_showTrace (nodup_showTrace (nodup_nameMessage (nodup_redact gathered)))

/-- A value in a line is a text, or else what the caller gives under a name that is not masked. -/
theorem text_or_given_of_mem (among : (name, value) ∈ event.lineFields occasion) :
    (∃ text, value = .text text) ∨ name ∉ keyMaterial ∧ event.given? name = some value := by
  have found := (Assoc.get?_eq_some_iff_mem nodup_lineFields).mpr among
  rw [get?_lineFields, get?_named] at found
  have plain : "msg" ∉ keyMaterial ∧ "component" ∉ keyMaterial := by decide
  have of_given {given : Option Value} {text : Text} (given_eq : event.given? name = given)
      (unmasked : name ∉ keyMaterial) (found : given.getD (.text text) = value) :
      (∃ text, value = .text text) ∨ name ∉ keyMaterial ∧ event.given? name = some value := by
    cases given with
    | none => exact .inl ⟨text, found.symm⟩
    | some given => exact .inr ⟨unmasked, found ▸ given_eq⟩
  split_ifs at found with exception stack asking message text component level time
  · obtain ⟨trace, -, rfl⟩ := Option.map_eq_some_iff.mp found
    exact .inl ⟨trace, rfl⟩
  · exact .inl ⟨_, (Option.some.inj found).symm⟩
  · exact of_given (by rw [message]) (message ▸ plain.1) (Option.some.inj found)
  · obtain ⟨_, -, rfl⟩ := Option.map_eq_some_iff.mp found
    exact .inl ⟨_, rfl⟩
  · exact of_given (by rw [component]) (component ▸ plain.2) (Option.some.inj found)
  · exact .inl ⟨_, (Option.some.inj found).symm⟩
  · exact .inl ⟨_, (Option.some.inj found).symm⟩
  · obtain ⟨given, given_eq, rfl⟩ := Option.map_eq_some_iff.mp found
    by_cases key : name ∈ keyMaterial
    · exact .inl ⟨_, if_pos key⟩
    · exact .inr ⟨key, by rw [given_eq, shown_of_plain key]⟩

/-- An event has a line if all that the caller gives has one, the values of key material aside. -/
theorem exists_line (lined : ∀ name ∉ keyMaterial, ∀ value, event.given? name = some value →
    ∃ line, value.line = some line) : ∃ line, event.line occasion = some line := by
  refine exists_line_ofFields_iff.mpr fun (name, value) among => ?_
  obtain ⟨text, rfl⟩ | ⟨plain, given⟩ := text_or_given_of_mem among
  · exact ⟨_, rfl⟩
  · exact lined name plain value given

/-- Whatever the caller gives under the name, the line has something of its own there, or nothing:
the time, the level, the text of the event, the fields that ask for traces, and traces that are
asked for. -/
def Overrides (event : Event) (occasion : Occasion) (name : String) : Prop :=
  name ∈ ["ts", "level", "event", "stack_info", "exc_info"] ∨
    name = "stack" ∧ event.asksFor "stack_info" = true ∨
    name = "exception" ∧ event.asksFor "exc_info" = true ∧ occasion.exception.isSome = true

instance : Decidable (event.Overrides occasion name) :=
  inferInstanceAs (Decidable (_ ∨ _ ∨ _))

/-- The event is shown by these fields. -/
structure IsShownBy (event : Event) (occasion : Occasion) (fields : Fields) : Prop where
  distinct : (fields.map Prod.fst).Nodup
  time : Assoc.get? "ts" fields = some (.text occasion.time)
  level : Assoc.get? "level" fields = some (.text event.level.name)
  message : Assoc.get? "msg" fields = some ((event.given? "msg").getD (.text event.text))
  component : Assoc.get? "component" fields =
    some ((event.given? "component").getD (.text event.component))
  masked : ∀ name ∈ keyMaterial,
    Assoc.get? name fields = (event.given? name).map fun _ => mask
  kept : ∀ name ∉ keyMaterial, ¬event.Overrides occasion name → ∀ value,
    event.given? name = some value → Assoc.get? name fields = some value

theorem isShownBy_lineFields (named : event.component ≠ "") :
    event.IsShownBy occasion (event.lineFields occasion) where
  distinct := nodup_lineFields
  time := by simp [get?_lineFields, get?_named]
  level := by simp [get?_lineFields, get?_named]
  message := by simp [get?_lineFields, get?_named]
  component := by simp [get?_lineFields, get?_named, shownComponent, named]
  masked := by
    have others : ∀ name ∈ keyMaterial, name ∉ ["exception", "stack", "exc_info", "stack_info",
        "msg", "event", "component", "level", "ts"] := by
      decide
    intro name key
    have masks : shown name = fun _ => mask := funext fun value => if_pos key
    have other := others name key
    simp only [List.mem_cons, List.not_mem_nil, or_false, not_or] at other
    simp [get?_lineFields, get?_named, other, masks]
  kept := by
    intro name plain untouched value given
    simp only [Overrides, List.mem_cons, List.not_mem_nil, or_false, not_or] at untouched
    rw [get?_lineFields, get?_named]
    grind [shown_of_plain]

end Event

end KeyEnvelope.Log
