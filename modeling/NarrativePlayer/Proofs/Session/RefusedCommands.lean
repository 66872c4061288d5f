import NarrativePlayer.Proofs.Session.AwaitedInteraction

/-!
Contract: commands that answer something and lead nowhere.

Such a command is ignored, is held up by a guard, or fails because what it leads to is not declared.
Owns when each of these comes about, in which order they are looked for, and that the session is not
moved by any of them: at most the terminal hears what a guard has to say. Does not own what becomes of
a command that leads on.
-/

namespace NarrativePlayer.Session

/-- The commands that a guard holds up, with what it has to say. Where the transition would lead to is
not looked at. -/
inductive Rejects (story : Story) (position : Position) : Command → String → Prop
  | guarded {raw id message : String} {question : Question} {transition : Transition}
      (awaited : position.pendingFor? .answer = some id)
      (found : story.find? id = some (.question question))
      (taken : question.submission? = some transition)
      (complaint : complaint? transition.guards (question.field.normalize raw) = some message) :
      Rejects story position (.submit raw) message

namespace State

/-- Between two states nothing has happened but these calls of the terminal, entries of the journal
apart. -/
structure Unmoved (state next : State) (made : List Event) : Prop where
  calls : next.calls = state.calls ++ made
  position : next.position = state.position
  activities : next.activities = state.activities
  latest : next.latest = state.latest
  queue : next.queue = state.queue

theorem Unmoved.refl (state : State) : Unmoved state state [] :=
  ⟨(List.append_nil _).symm, rfl, rfl, rfl, rfl⟩

theorem Unmoved.of_trace (state : State) {added made : List Event}
    (heard : (added.filter Event.isCall).reverse = made) :
    Unmoved state { state with trace := added ++ state.trace } made := by
  refine ⟨?_, rfl, rfl, rfl, rfl⟩
  simp only [State.calls, List.filter_append, List.reverse_append, heard]

/-! ## What comes of a command that leads nowhere -/

section

variable {staging : Staging} {state : State} {command : Command}

/-- What a command does that is ignored with a message. -/
theorem unmoved_of_ignore {message : String}
    (executed : state.execute staging command = state.ignore staging message) :
    (state.execute staging command).2 = .done ∧
      Unmoved state (state.execute staging command).1 [] := by
  rw [executed, ignore, note_eq]
  exact ⟨rfl, .of_trace state (by simp)⟩

theorem unmoved_of_ignores (ignored : Ignores staging.story state.position command) :
    (state.execute staging command).2 = .done ∧
      Unmoved state (state.execute staging command).1 [] := by
  cases ignored with
  | unawaited answers elsewhere =>
      cases command with
      | start => cases answers
      | stop => cases answers
      | submit raw =>
          cases answers
          exact unmoved_of_ignore (by rw [execute, submit, elsewhere])
      | choose offer =>
          cases answers
          exact unmoved_of_ignore (by rw [execute, choose, elsewhere])
      | enter =>
          cases answers
          exact unmoved_of_ignore (by rw [execute, acknowledge, elsewhere])
  | @noSubmission raw id question awaited found none =>
      have executed : state.execute staging (.submit raw) =
          state.ignore staging s!"[Submit] ignored, '{id}' has no submit transition" := by
        simp only [execute, submit, awaited, Story.find_of_some found, bind, Except.bind,
          Scene.asQuestion, none]
      exact unmoved_of_ignore executed
  | @unknownOffer offer id choice awaited found none =>
      have executed : state.execute staging (.choose offer) =
          state.ignore staging s!"[Choose] ignored unknown option '{offer}' in '{id}'" := by
        simp only [execute, choose, awaited, Story.find_of_some found, bind, Except.bind,
          Scene.asChoice, none]
      exact unmoved_of_ignore executed

theorem unmoved_of_rejects {message : String}
    (rejected : Rejects staging.story state.position command message) :
    (state.execute staging command).2 = .done ∧
      Unmoved state (state.execute staging command).1 [.invalid message] := by
  cases rejected with
  | @guarded raw id _ question transition awaited found taken complaint =>
      have executed : state.execute staging (.submit raw) =
          ((state.note staging .flow .debug s!"[Submit] rejected: {message}").emit
            (.invalid message), .done) := by
        simp only [execute, submit, awaited, Story.find_of_some found, bind, Except.bind,
          Scene.asQuestion, taken, complaint]
      rw [executed, note_eq]
      have calls : ((Event.invalid message :: journaled staging .flow .debug
          s!"[Submit] rejected: {message}").filter Event.isCall).reverse = [.invalid message] := by
        simp [List.filter_cons, Event.isCall]
      exact ⟨rfl, .of_trace state calls⟩

/-- A command that leaves for an id that is not declared fails, and changes nothing. -/
theorem execute_of_leaves {submitted : Option String} {actions : List Action} {target : String}
    (leaves : Leaves staging.story state.position command submitted actions target)
    (absent : staging.story.find? target = none) :
    state.execute staging command = (state, .failed (.undeclared target)) := by
  cases leaves with
  | submitted awaited found taken passed =>
      simp only [execute, submit, awaited, Story.find_of_some found, bind, Except.bind,
        Scene.asQuestion, taken, passed, follow, Story.find_of_none absent]
  | chosen awaited found taken =>
      simp only [execute, choose, awaited, Story.find_of_some found, bind, Except.bind,
        Scene.asChoice, taken, follow, Story.find_of_none absent]
  | acknowledged awaited found taken =>
      simp only [execute, acknowledge, awaited, Story.find_of_some found, bind, Except.bind,
        Scene.asSequence, taken, Story.find_of_none absent]

/-- A command that answers something fails only if it leaves for an id that is not declared. -/
theorem Steady.leaves_of_failed (steady : state.Steady staging.story)
    (answers : command.interaction?.isSome = true) {trouble : Trouble}
    (failed : (state.execute staging command).2 = .failed trouble) :
    ∃ submitted actions target,
      Leaves staging.story state.position command submitted actions target ∧
        staging.story.find? target = none ∧ trouble = .undeclared target := by
  have obeys := state.obeys_execute staging command
  generalize state.execute staging command = result at obeys failed
  cases obeys with
  | starts => cases answers
  | stops => cases answers
  | ignores => cases failed
  | misfits _ awaited unfit =>
      obtain ⟨scene, found, fits⟩ := steady.coherent.fits awaited
      exact absurd fits (unfit scene found)
  | rejects => cases failed
  | refuses leaves absent =>
      cases failed
      exact ⟨_, _, _, leaves, absent, rfl⟩
  | moves leaves found silent enters =>
      exact absurd failed (enters.reply_not_failed (Story.declares_of_find? found) trouble)
  | closes => cases failed

end

/-- In every course, a submission, a pick or an acknowledgement that does not lead on changes nothing.
If it fails or is ignored, neither the position nor the activities are touched and the terminal is not
called; if a guard holds it up, the same holds but for the one call that says why, whether or not the
scene is declared that it would lead to. It fails exactly if it leaves the scene that is waited with,
past all guards, for an id that is not declared, and that id is the trouble. -/
theorem unmoved_unless_led_on (staging : Staging) {initial : State}
    (opened : State.opening staging.story = .ok initial) (happenings : List Happening)
    (command : Command) (answers : command.interaction?.isSome = true) :
    let state := initial.course staging happenings
    let result := state.execute staging command
    (∀ trouble, result.2 = .failed trouble → Unmoved state result.1 []) ∧
    (Ignores staging.story state.position command → result.2 = .done ∧ Unmoved state result.1 []) ∧
    (∀ message, Rejects staging.story state.position command message →
      result.2 = .done ∧ Unmoved state result.1 [.invalid message]) ∧
    ∀ trouble, result.2 = .failed trouble ↔ ∃ submitted actions target,
      Leaves staging.story state.position command submitted actions target ∧
        staging.story.find? target = none ∧ trouble = .undeclared target := by
  intro state result
  have steady : state.Steady staging.story := steady_course opened happenings
  refine ⟨?_, unmoved_of_ignores, fun _ => unmoved_of_rejects, fun trouble => ⟨?_, ?_⟩⟩
  · intro trouble failed
    obtain ⟨submitted, actions, target, leaves, absent, -⟩ := steady.leaves_of_failed answers failed
    have unchanged : result = (state, .failed (.undeclared target)) := execute_of_leaves leaves absent
    rw [unchanged]
    exact .refl state
  · exact steady.leaves_of_failed answers
  · rintro ⟨submitted, actions, target, leaves, absent, rfl⟩
    exact congrArg Prod.snd (execute_of_leaves leaves absent)

/-- The question leads to a choice that is not declared. An answer that its guard lets pass fails, and
one that is too short is still held up by the guard. -/
theorem sample_refusal :
    let staging : Staging := ⟨{ Story.sample with scenes := Story.sample.scenes.take 3 }, .silent⟩
    let asking := (initial .empty).course staging
      [.command .start, .step 0, .step 0, .clock 5, .wake 0, .step 0, .step 1, .step 1, .step 1]
    asking.position.pending = some ⟨.answer, "name"⟩ ∧
      (asking.execute staging (.submit "Bea")).2 = .failed (.undeclared "way") ∧
      Unmoved asking (asking.execute staging (.submit "Bea")).1 [] ∧
      Unmoved asking (asking.execute staging (.submit "")).1
        [.invalid "Please enter at least 1 characters."] := by
  intro staging asking
  have opened : opening staging.story = .ok (initial .empty) := rfl
  obtain ⟨unmoved, -, -, fails⟩ := unmoved_unless_led_on staging opened
    [.command .start, .step 0, .step 0, .clock 5, .wake 0, .step 0, .step 1, .step 1, .step 1]
    (.submit "Bea") rfl
  obtain ⟨-, -, rejected, -⟩ := unmoved_unless_led_on staging opened
    [.command .start, .step 0, .step 0, .clock 5, .wake 0, .step 0, .step 1, .step 1, .step 1]
    (.submit "") rfl
  have pending : asking.position.pending = some ⟨.answer, "name"⟩ := by decide +kernel
  have awaited : asking.position.pendingFor? .answer = some "name" := by decide +kernel
  have asks : ∃ question transition, staging.story.find? "name" = some (.question question) ∧
      question.submission? = some transition ∧ staging.story.find? transition.target = none ∧
      transition.target = "way" ∧
      complaint? transition.guards (question.field.normalize "Bea") = none ∧
      complaint? transition.guards (question.field.normalize "") =
        some "Please enter at least 1 characters." :=
    ⟨_, _, rfl, rfl, rfl, rfl, by decide +kernel, by decide +kernel⟩
  obtain ⟨question, transition, found, taken, absent, target, passes, complains⟩ := asks
  rw [← target]
  have failed : (asking.execute staging (.submit "Bea")).2 =
      .failed (.undeclared transition.target) :=
    (fails _).mpr ⟨_, _, _, .submitted awaited found taken passes, absent, rfl⟩
  have guarded : Rejects staging.story asking.position (.submit "")
      "Please enter at least 1 characters." := .guarded awaited found taken complains
  exact ⟨pending, failed, unmoved _ failed, (rejected _ guarded).2⟩

end State

end NarrativePlayer.Session
