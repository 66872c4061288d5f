import NarrativePlayer.Session.Settlement

/-!
Contract: the steps of a session as updates of the parts of its state.

Every step below a command is brought into the form "this state, with these parts replaced", so that
what it leaves alone can be read off. Owns the calls of a trace, which are what the terminal is asked
for: entries of the journal, troubles of sequences and ends of commands that were held up are not calls.
-/

namespace NarrativePlayer.Session

/-- Whether an event is a call of the terminal. -/
def Event.isCall : Event → Bool
  | .noted _ => false
  | .failed _ _ => false
  | .done _ => false
  | _ => true

namespace State

/-- The calls of the terminal so far, in their order. -/
def calls (state : State) : List Event :=
  (state.trace.filter Event.isCall).reverse

/-- The entries that a message leaves in the trace. -/
def journaled (staging : Staging) (category : Journal.Category) (level : Journal.Level)
    (message : String) : List Event :=
  if staging.journal.allows category level then [.noted ⟨category, level, message⟩] else []

/-- The entries that the actions of a scene leave in the trace, latest first. -/
def assignmentsJournaled (staging : Staging) (submitted : Option String) (actions : List Action) :
    List Event :=
  (assignments submitted actions).reverse.flatMap fun assignment =>
    journaled staging .assignments .debug (assignmentMessage assignment)

theorem not_isCall_of_mem_journaled {staging : Staging} {category : Journal.Category}
    {level : Journal.Level} {message : String} {event : Event}
    (member : event ∈ journaled staging category level message) : event.isCall = false := by
  unfold journaled at member
  split at member
  · rw [List.mem_singleton.mp member]
    rfl
  · cases member

@[simp] theorem filter_isCall_journaled (staging : Staging) (category : Journal.Category)
    (level : Journal.Level) (message : String) :
    (journaled staging category level message).filter Event.isCall = [] := by
  refine List.filter_eq_nil_iff.mpr fun event member => ?_
  simp [not_isCall_of_mem_journaled member]

@[simp] theorem filter_isCall_assignmentsJournaled (staging : Staging) (submitted : Option String)
    (actions : List Action) :
    (assignmentsJournaled staging submitted actions).filter Event.isCall = [] := by
  refine List.filter_eq_nil_iff.mpr fun event member => ?_
  obtain ⟨assignment, -, journaledHere⟩ := List.mem_flatMap.mp member
  simp [not_isCall_of_mem_journaled journaledHere]

/-! ## Updates -/

theorem note_eq (state : State) (staging : Staging) (category : Journal.Category)
    (level : Journal.Level) (message : String) :
    state.note staging category level message =
      { state with trace := journaled staging category level message ++ state.trace } := by
  unfold note journaled
  split
  · rfl
  · rfl

theorem announce_eq (state : State) (staging : Staging) (scene : String) (mode : Mode) :
    state.announce staging scene mode =
      { state with
        trace := .changed scene mode ::
          (journaled staging .flow .debug s!"[Mode] '{scene}' -> {mode.word}" ++ state.trace) } := by
  simp only [announce, note_eq, emit]

private theorem foldl_note_eq (staging : Staging) (list : List Assignment) (state : State) :
    list.foldl (fun noted assignment =>
        noted.note staging .assignments .debug (assignmentMessage assignment)) state =
      { state with
        trace := (list.reverse.flatMap fun assignment =>
          journaled staging .assignments .debug (assignmentMessage assignment)) ++ state.trace } := by
  induction list generalizing state with
  | nil => rfl
  | cons head tail inductionHypothesis =>
      rw [List.foldl_cons, inductionHypothesis, note_eq]
      simp

theorem act_eq (state : State) (staging : Staging) (submitted : Option String)
    (actions : List Action) :
    state.act staging submitted actions =
      { state with
        position :=
          { state.position with store := applyActions submitted actions state.position.store }
        trace := assignmentsJournaled staging submitted actions ++ state.trace } := by
  unfold act assignmentsJournaled
  rw [foldl_note_eq]
  rfl

end State

end NarrativePlayer.Session
