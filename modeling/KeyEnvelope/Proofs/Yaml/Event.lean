import KeyEnvelope.Proofs.Yaml.Token
import KeyEnvelope.Yaml.Event

/-!
# Events without an end

The events of a document come to their end with the token for the end, and with nothing else. Where
this token is missing, a fault ends them.
-/

namespace KeyEnvelope.Yaml

/-- The end is not among the tokens that are left. -/
def Parser.Endless (parser : Parser) : Prop :=
  Token.streamEnd ∉ parser.tokens

variable {α β : Type} {parse : Parse α} {property : α → Prop}

/-- No tokens are put in front of those that are left if these are endless, and what is parsed has
the property then. -/
structure Keeps (parse : Parse α) (property : α → Prop) : Prop where
  yields (parser : Parser) : parser.Endless →
    Yields (parse.run parser) fun read => property read.1 ∧ read.2.Endless

theorem keeps_pure {value : α} (holds : property value) : Keeps (pure value) property :=
  ⟨fun _ endless => yields_ok ⟨holds, endless⟩⟩

theorem keeps_throw {fault : DocumentFault} : Keeps (throw fault : Parse α) property :=
  ⟨fun _ _ => yields_error⟩

theorem keeps_throw_bind {fault : DocumentFault} {next : β → Parse α} :
    Keeps (throw fault >>= next) property :=
  ⟨fun _ _ => yields_error⟩

theorem keeps_get : Keeps get Parser.Endless :=
  ⟨fun _ endless => yields_ok ⟨endless, endless⟩⟩

theorem keeps_modify {change : Parser → Parser}
    (keeps : ∀ parser : Parser, parser.Endless → (change parser).Endless) :
    Keeps (modify change) fun _ => True :=
  ⟨fun parser endless => yields_ok ⟨trivial, keeps parser endless⟩⟩

theorem Keeps.bind {next : α → Parse β} {goal : β → Prop} (first : Keeps parse property)
    (rest : ∀ value, property value → Keeps (next value) goal) : Keeps (parse >>= next) goal :=
  ⟨fun parser endless =>
    (first.yields parser endless).bind fun read held => (rest read.1 held.1).yields read.2 held.2⟩

namespace Parser

/-- The event does not end the document. -/
def IsInner (event : Event) : Prop :=
  event ≠ .streamEnd

theorem peek_keeps : Keeps peek fun token => token ≠ .streamEnd := by
  apply keeps_get.bind
  intro parser endless
  split
  · rename_i token rest split
    apply keeps_pure
    rintro rfl
    exact endless (split ▸ List.mem_cons_self)
  · exact keeps_throw

theorem skip_keeps : Keeps skip fun _ => True :=
  keeps_modify fun _ endless among => endless (List.mem_of_mem_tail among)

/-- The end is never skipped. -/
theorem skipIf_keeps (token : Token) :
    Keeps (skipIf token) fun skipped => token = .streamEnd → skipped = false := by
  apply peek_keeps.bind
  intro found inner
  split
  · rename_i same
    exact skip_keeps.bind fun _ _ => keeps_pure fun ends => absurd (same.trans ends) inner
  · exact keeps_pure fun _ => rfl

theorem meets_keeps (tokens : List Token) : Keeps (meets tokens) fun _ => True :=
  peek_keeps.bind fun _ _ => keeps_pure trivial

theorem expect_keeps (next : Expectation) : Keeps (expect next) fun _ => True :=
  keeps_modify fun _ endless => endless

theorem wait_keeps (next : Expectation) : Keeps (wait next) fun _ => True :=
  keeps_modify fun _ endless => endless

theorem resume_keeps : Keeps resume fun _ => True := by
  apply keeps_modify
  intro parser endless
  split
  · exact endless
  · exact endless

theorem leaveOut_keeps (next : Expectation) : Keeps (leaveOut next) IsInner :=
  (expect_keeps next).bind fun _ _ => keeps_pure Event.noConfusion

theorem properties_keeps : Keeps properties fun _ => True := by
  apply peek_keeps.bind
  intro token inner
  split
  · apply skip_keeps.bind
    intro _ _
    apply peek_keeps.bind
    intro other inner
    split
    · exact skip_keeps.bind fun _ _ => keeps_pure trivial
    · exact keeps_pure trivial
  · apply skip_keeps.bind
    intro _ _
    apply peek_keeps.bind
    intro other inner
    split
    · exact skip_keeps.bind fun _ _ => keeps_pure trivial
    · exact keeps_pure trivial
  · exact keeps_pure trivial

theorem fullTag_keeps (given : Option (Option String × String)) :
    Keeps (fullTag given) fun _ => True := by
  unfold fullTag
  split
  · exact keeps_pure trivial
  · exact keeps_pure trivial
  · apply keeps_get.bind
    intro parser endless
    split
    · exact keeps_pure trivial
    · exact keeps_throw

theorem node_keeps (inBlock isBare : Bool) : Keeps (node inBlock isBare) IsInner := by
  have begins (next : Expectation) (event : Event) (inner : IsInner event) :
      Keeps (skip >>= fun _ => expect next >>= fun _ => pure event) IsInner :=
    skip_keeps.bind fun _ _ => (expect_keeps next).bind fun _ _ => keeps_pure inner
  apply peek_keeps.bind
  intro first _
  split
  · apply skip_keeps.bind
    intro _ _
    exact resume_keeps.bind fun _ _ => keeps_pure Event.noConfusion
  apply properties_keeps.bind
  intro properties _
  apply (fullTag_keeps _).bind
  intro full _
  apply peek_keeps.bind
  intro token _
  split
  · exact (expect_keeps _).bind fun _ _ => keeps_pure Event.noConfusion
  split
  · apply skip_keeps.bind
    intro _ _
    exact resume_keeps.bind fun _ _ => keeps_pure Event.noConfusion
  · exact begins _ _ Event.noConfusion
  · exact begins _ _ Event.noConfusion
  split
  · exact begins _ _ Event.noConfusion
  split
  · exact begins _ _ Event.noConfusion
  split
  · exact resume_keeps.bind fun _ _ => keeps_pure Event.noConfusion
  · exact keeps_throw

theorem nodeUnless_keeps (absent : List Token) (next : Expectation) {read : Parse Event}
    (reads : Keeps read IsInner) : Keeps (nodeUnless absent next read) IsInner := by
  apply (meets_keeps absent).bind
  intro met _
  split
  · exact leaveOut_keeps next
  · exact (wait_keeps next).bind fun _ _ => reads

theorem endCollection_keeps : Keeps endCollection IsInner :=
  skip_keeps.bind fun _ _ => resume_keeps.bind fun _ _ => keeps_pure Event.noConfusion

theorem directives_keeps (fuel : Nat) (versionSeen : Bool) (handles : List (String × String)) :
    Keeps (directives fuel versionSeen handles) fun _ => True := by
  induction fuel generalizing versionSeen handles with
  | zero => exact keeps_pure trivial
  | succ fuel inductionHypothesis =>
    apply peek_keeps.bind
    intro token _
    split
    · split
      · exact keeps_throw_bind
      · exact skip_keeps.bind fun _ _ => inductionHypothesis _ _
    · split
      · exact keeps_throw_bind
      · exact skip_keeps.bind fun _ _ => inductionHypothesis _ _
    · exact skip_keeps.bind fun _ _ => inductionHypothesis _ _
    · exact keeps_pure trivial

theorem skipDocumentEnds_keeps (fuel : Nat) : Keeps (skipDocumentEnds fuel) fun _ => True := by
  induction fuel with
  | zero => exact keeps_pure trivial
  | succ fuel inductionHypothesis =>
    apply (skipIf_keeps _).bind
    intro skipped _
    split
    · exact inductionHypothesis
    · exact keeps_pure trivial

theorem startDocument_keeps (next : Expectation) (handles : List (String × String)) :
    Keeps (startDocument next handles) IsInner := by
  have handled : Keeps (modify fun parser => { parser with handles := handles ++ defaultHandles })
      fun _ => True :=
    keeps_modify fun _ endless => endless
  apply handled.bind
  intro _ _
  apply (wait_keeps _).bind
  intro _ _
  exact (expect_keeps next).bind fun _ _ => keeps_pure Event.noConfusion

theorem document_keeps : Keeps document IsInner := by
  apply keeps_get.bind
  intro parser _
  apply (skipDocumentEnds_keeps _).bind
  intro _ _
  apply (skipIf_keeps .streamEnd).bind
  intro ended unended
  rw [unended rfl]
  apply keeps_get.bind
  intro parser _
  apply (directives_keeps _ _ _).bind
  intro handles _
  apply (skipIf_keeps _).bind
  intro skipped _
  split
  · exact startDocument_keeps _ _
  · exact keeps_throw

theorem firstDocument_keeps : Keeps firstDocument IsInner := by
  apply peek_keeps.bind
  intro token _
  split
  · exact document_keeps
  · exact startDocument_keeps _ _

theorem documentContent_keeps : Keeps documentContent IsInner := by
  apply peek_keeps.bind
  intro token _
  split
  · exact resume_keeps.bind fun _ _ => keeps_pure Event.noConfusion
  · exact node_keeps true false

theorem blockEntry_keeps : Keeps blockEntry IsInner := by
  apply (skipIf_keeps _).bind
  intro skipped _
  split
  · exact nodeUnless_keeps _ _ (node_keeps true false)
  apply (meets_keeps _).bind
  intro met _
  split
  · exact endCollection_keeps
  · exact keeps_throw

theorem bareEntry_keeps : Keeps bareEntry IsInner := by
  apply (skipIf_keeps _).bind
  intro skipped _
  split
  · exact nodeUnless_keeps _ _ (node_keeps true false)
  · exact resume_keeps.bind fun _ _ => keeps_pure Event.noConfusion

theorem blockKey_keeps : Keeps blockKey IsInner := by
  apply (skipIf_keeps _).bind
  intro skipped _
  split
  · exact nodeUnless_keeps _ _ (node_keeps true true)
  apply (meets_keeps _).bind
  intro met _
  split
  · exact endCollection_keeps
  · exact keeps_throw

theorem blockValue_keeps : Keeps blockValue IsInner := by
  apply (skipIf_keeps _).bind
  intro skipped _
  split
  · exact nodeUnless_keeps _ _ (node_keeps true true)
  · exact leaveOut_keeps _

theorem separated_keeps (isFirst : Bool) : Keeps (separated isFirst) fun _ => True := by
  unfold separated
  split
  · exact keeps_pure trivial
  apply (skipIf_keeps _).bind
  intro skipped _
  split
  · exact keeps_pure trivial
  · exact keeps_throw

theorem flowEntry_keeps (isFirst : Bool) : Keeps (flowEntry isFirst) IsInner := by
  apply (meets_keeps _).bind
  intro met _
  split
  · exact endCollection_keeps
  apply (separated_keeps isFirst).bind
  intro _ _
  apply (skipIf_keeps _).bind
  intro skipped _
  split
  · exact (expect_keeps _).bind fun _ _ => keeps_pure Event.noConfusion
  apply (meets_keeps _).bind
  intro met _
  split
  · exact endCollection_keeps
  · exact (wait_keeps _).bind fun _ _ => node_keeps false false

theorem pairKey_keeps : Keeps pairKey IsInner :=
  nodeUnless_keeps _ _ (node_keeps false false)

theorem pairValue_keeps : Keeps pairValue IsInner := by
  apply (skipIf_keeps _).bind
  intro skipped _
  split
  · exact nodeUnless_keeps _ _ (node_keeps false false)
  · exact leaveOut_keeps _

theorem flowKey_keeps (isFirst : Bool) : Keeps (flowKey isFirst) IsInner := by
  apply (meets_keeps _).bind
  intro met _
  split
  · exact endCollection_keeps
  apply (separated_keeps isFirst).bind
  intro _ _
  apply (skipIf_keeps _).bind
  intro skipped _
  split
  · exact nodeUnless_keeps _ _ (node_keeps false false)
  apply (meets_keeps _).bind
  intro met _
  split
  · exact endCollection_keeps
  · exact (wait_keeps _).bind fun _ _ => node_keeps false false

theorem flowValue_keeps : Keeps flowValue IsInner := by
  apply (skipIf_keeps _).bind
  intro skipped _
  split
  · exact nodeUnless_keeps _ _ (node_keeps false false)
  · exact leaveOut_keeps _

/-- The next event is not the end. -/
theorem event_keeps : Keeps event IsInner := by
  apply keeps_get.bind
  intro parser _
  split
  · exact firstDocument_keeps
  · exact document_keeps
  · exact documentContent_keeps
  · apply (skipIf_keeps _).bind
    intro skipped _
    exact (expect_keeps _).bind fun _ _ => keeps_pure Event.noConfusion
  · exact node_keeps true false
  · exact blockEntry_keeps
  · exact bareEntry_keeps
  · exact blockKey_keeps
  · exact blockValue_keeps
  · exact flowEntry_keeps _
  · exact pairKey_keeps
  · exact pairValue_keeps
  · apply (expect_keeps _).bind
    intro _ _
    exact peek_keeps.bind fun _ _ => keeps_pure Event.noConfusion
  · exact flowKey_keeps _
  · exact flowValue_keeps
  · exact peek_keeps.bind fun _ _ => leaveOut_keeps _
  · exact keeps_throw

/-- Events that come to no end are ended by a fault. -/
theorem fault_of_endless (fuel : Nat) {parser : Parser} (endless : parser.Endless) :
    (run fuel parser).2 ≠ none := by
  induction fuel generalizing parser with
  | zero => simp [run]
  | succ fuel inductionHypothesis =>
    have yields := event_keeps.yields parser endless
    unfold run
    split
    · simp
    · rename_i found
      exact absurd rfl (yields.of_eq_ok found).1
    · rename_i found
      exact inductionHypothesis (yields.of_eq_ok found).2

end Parser

/-- A fault ends the events of a text that breaks off. -/
theorem Event.fault_of_faulty {text : List Char} {missing : Option DocumentFault}
    (faulty : missing ≠ none) (unmarked : endMark ∉ text) : (Event.ofText text missing).2 ≠ none :=
  Parser.fault_of_endless _ (Token.streamEnd_not_mem_ofText faulty unmarked)

end KeyEnvelope.Yaml
