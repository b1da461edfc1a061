import KeyEnvelope.Yaml.Cursor

/-!
# Texts that break off

Where a text breaks off there is a fault in place of its end. Whatever is read of such a text, what
is left of it breaks off just so, and no character that is looked at is its end.
-/

namespace KeyEnvelope.Yaml

variable {α β : Type} {scan : Scan α} {value : α} {property : α → Prop}

/-- What the scan comes to has the property, unless it fails. -/
def Yields (scan : Scan α) (property : α → Prop) : Prop :=
  match scan with
  | .ok value => property value
  | .error _ => True

theorem Yields.of_eq_ok (yields : Yields scan property) (found : scan = .ok value) :
    property value := by
  rwa [found] at yields

theorem yields_ok (holds : property value) : Yields (.ok value) property :=
  holds

theorem yields_pure (holds : property value) : Yields (pure value) property :=
  holds

theorem yields_error {fault : DocumentFault} : Yields (.error fault) property :=
  trivial

theorem yields_throw {fault : DocumentFault} : Yields (throw fault) property :=
  trivial

/-- Nothing comes after a scan that fails. -/
theorem yields_throw_bind {fault : DocumentFault} {next : β → Scan α} :
    Yields (throw fault >>= next) property :=
  trivial

/-- What comes after a scan need only do with what is known of it. -/
theorem Yields.bind {next : α → Scan β} {goal : β → Prop} (first : Yields scan property)
    (rest : ∀ value, property value → Yields (next value) goal) :
    Yields (scan >>= next) goal := by
  cases scan with
  | error fault => exact yields_error
  | ok value => exact rest value first

/-- If nothing is known of a scan, what comes after it must do with anything. -/
theorem yields_bind {next : α → Scan β} {goal : β → Prop}
    (rest : ∀ value, Yields (next value) goal) : Yields (scan >>= next) goal := by
  cases scan with
  | error fault => exact yields_error
  | ok value => exact rest value

namespace Cursor

/-- The text is at fault where it stops, and has no end before. -/
structure BreaksOff (cursor : Cursor) : Prop where
  faulty : cursor.missing ≠ none
  unmarked : endMark ∉ cursor.rest

theorem firstOf_yields {missing : Option DocumentFault} {text : List Char}
    (faulty : missing ≠ none) (unmarked : endMark ∉ text) :
    Yields (firstOf missing text) fun c => c ≠ endMark := by
  cases text with
  | nil =>
    cases missing with
    | none => exact absurd rfl faulty
    | some fault => exact yields_error
  | cons c rest =>
    apply yields_ok
    rintro rfl
    exact unmarked List.mem_cons_self

theorem breaksOff_start {text : List Char} {missing : Option DocumentFault}
    (faulty : missing ≠ none) (unmarked : endMark ∉ text) : (start text missing).BreaksOff :=
  ⟨faulty, unmarked⟩

section

variable {cursor : Cursor} (breaks : cursor.BreaksOff)

include breaks

theorem next_yields : Yields cursor.next fun c => c ≠ endMark :=
  firstOf_yields breaks.faulty breaks.unmarked

theorem breaksOff_pass : cursor.pass.BreaksOff := by
  obtain ⟨text, missing, line, column, index⟩ := cursor
  obtain ⟨faulty, unmarked⟩ := breaks
  cases text with
  | nil => exact ⟨faulty, unmarked⟩
  | cons c rest =>
    have unmarked : endMark ∉ rest := fun among => unmarked (List.mem_cons_of_mem c among)
    simp only [pass]
    split
    · exact ⟨faulty, unmarked⟩
    · exact ⟨faulty, unmarked⟩

theorem breaksOff_passMany (count : Nat) : (cursor.passMany count).BreaksOff := by
  induction count generalizing cursor with
  | zero => exact breaks
  | succ count inductionHypothesis => exact inductionHypothesis (breaksOff_pass breaks)

theorem advance_yields (count : Nat) : Yields (cursor.advance count) BreaksOff :=
  yields_bind fun _ => yields_pure (breaksOff_passMany breaks count)

theorem step_yields : Yields cursor.step BreaksOff :=
  advance_yields breaks 1

theorem takeWhile_yields (p : Char → Bool) :
    Yields (cursor.takeWhile p) fun taken => taken.2.BreaksOff :=
  (advance_yields breaks _).bind fun _ breaks => yields_pure breaks

theorem skipWhile_yields (p : Char → Bool) : Yields (cursor.skipWhile p) BreaksOff :=
  (takeWhile_yields breaks p).bind fun _ breaks => yields_pure breaks

theorem skipSpaces_yields : Yields cursor.skipSpaces BreaksOff :=
  skipWhile_yields breaks _

theorem skipComment_yields : Yields cursor.skipComment BreaksOff := by
  apply yields_bind
  intro c
  split
  · exact skipWhile_yields breaks _
  · exact yields_pure breaks

theorem takeBreak_yields : Yields cursor.takeBreak fun taken => taken.2.BreaksOff := by
  apply yields_bind
  intro c
  split
  · exact yields_pure breaks
  · exact (step_yields breaks).bind fun _ breaks => yields_pure breaks

theorem finishLine_yields : Yields cursor.finishLine BreaksOff := by
  apply (skipSpaces_yields breaks).bind
  intro text breaks
  apply (skipComment_yields breaks).bind
  intro last breaks
  apply yields_bind
  intro c
  split
  · exact (takeBreak_yields breaks).bind fun _ breaks => yields_pure breaks
  · exact yields_throw

end

end Cursor

end KeyEnvelope.Yaml
