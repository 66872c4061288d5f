import NarrativePlayer.Proofs.Review.Soundness
import NarrativePlayer.Proofs.Session.SceneMoves
import NarrativePlayer.Proofs.Story.Answers

/-!
Contract: whether a reader can get past what a session asks.

Owns what it is for an answer or a choice to be accepted, and that in a story in which a review finds
nothing worth a warning, some option of every choice is accepted, and some answer to every question if the
field of the question has room for what the guards ask. A review does not look at guards, so that much has
to be asked for, and a story without room is given here.
-/

namespace NarrativePlayer

/-! ## What a review without warnings says of scenes -/

namespace Review

/-- Whether a review finds nothing worth more than an info. -/
def Spotless (settings : Settings) (story : Story) : Prop :=
  ∀ finding ∈ review settings story, finding.severity = .info

instance (settings : Settings) (story : Story) : Decidable (Spotless settings story) :=
  inferInstanceAs (Decidable (∀ finding ∈ review settings story, finding.severity = .info))

theorem closed_of_spotless {settings : Settings} {story : Story}
    (asked : settings.references.enabled = true) (spotless : Spotless settings story) : story.Closed := by
  refine closed_of_clean asked (List.any_eq_false.mpr fun finding member => ?_)
  rw [spotless finding member]
  decide

/-- Every question has a way out that is taken on an answer, and every choice has an option. -/
theorem not_deadEnd_of_spotless {settings : Settings} {story : Story}
    (asked : settings.flow.enabled = true ∧ settings.flow.deadEnds = true)
    (spotless : Spotless settings story) {scene : Scene} (here : scene ∈ story.scenes) :
    ∀ finding ∈ deadEnd scene, finding.severity = .info := by
  intro finding said
  refine spotless finding (mem_review.mpr (.inr (.inl ⟨asked.1, ?_⟩)))
  rw [checkFlow, if_pos asked.2]
  exact List.mem_append_right _ (List.mem_flatMap.mpr ⟨scene, here, List.mem_append_left _ said⟩)

theorem exists_submission_of_spotless {settings : Settings} {story : Story}
    (asked : settings.flow.enabled = true ∧ settings.flow.deadEnds = true)
    (spotless : Spotless settings story) {question : Question}
    (here : .question question ∈ story.scenes) : ∃ transition, question.submission? = some transition := by
  refine Option.ne_none_iff_exists'.mp fun missing => ?_
  have reported : .noSubmission question.id ∈ deadEnd (.question question) := by
    simp [deadEnd, missing]
  cases not_deadEnd_of_spotless asked spotless here _ reported

theorem exists_offer_of_spotless {settings : Settings} {story : Story}
    (asked : settings.flow.enabled = true ∧ settings.flow.deadEnds = true)
    (spotless : Spotless settings story) {choice : Choice}
    (here : .choice choice ∈ story.scenes) : ∃ id offer, choice.offer? id = some offer := by
  cases offers : choice.offers with
  | nil =>
      have reported : .noOffers choice.id ∈ deadEnd (.choice choice) := by
        simp [deadEnd, offers]
      cases not_deadEnd_of_spotless asked spotless here _ reported
  | cons offer rest => exact ⟨offer.id, offer, by simp [Choice.offer?, offers]⟩

end Review

namespace Session

/-- A command leaves a scene in one way. -/
theorem Leaves.target_eq {story : Story} {position : Position} {command : Command}
    {submitted other : Option String} {actions others : List Action} {target elsewhere : String}
    (leaves : Leaves story position command submitted actions target)
    (again : Leaves story position command other others elsewhere) : target = elsewhere := by
  cases leaves with
  | submitted awaited found taken passed =>
      cases again with
      | submitted awaitedToo foundToo takenToo passedToo =>
          cases awaited.symm.trans awaitedToo
          cases found.symm.trans foundToo
          cases taken.symm.trans takenToo
          rfl
  | chosen awaited found taken =>
      cases again with
      | chosen awaitedToo foundToo takenToo =>
          cases awaited.symm.trans awaitedToo
          cases found.symm.trans foundToo
          cases taken.symm.trans takenToo
          rfl
  | acknowledged awaited found taken =>
      cases again with
      | acknowledged awaitedToo foundToo takenToo =>
          cases awaited.symm.trans awaitedToo
          cases found.symm.trans foundToo
          cases taken.symm.trans takenToo
          rfl

namespace State

/-- A command is accepted: it does not fail, takes the widget away and enters a scene. -/
structure Accepts (staging : Staging) (state : State) (command : Command) (target : String) : Prop where
  unfailed : ∀ trouble, (state.execute staging command).2 ≠ .failed trouble
  clears : ∃ calls, callsSince state (state.after staging (.command command)) = .clear :: calls
  enters : entered staging state (.command command) = [target]

variable {staging : Staging} {state : State}

/-- What is called when a scene that is declared is entered on a way that was cleared. -/
private theorem calls_of_cleared {target : String} {before : State} {scene : Scene}
    {result : State × Entrance} (called : before.calls = state.calls ++ [.clear])
    (found : staging.story.find? target = some scene) (enters : Enters staging target before result) :
    ∃ calls, callsSince state (reply result).1 = .clear :: calls ∧
      (Event.clear :: calls).filterMap (Event.entrance? staging.story) = [target] := by
  obtain ⟨calls, added, entrances⟩ := enters.visits.called
  refine ⟨calls, ?_, ?_⟩
  · refine callsSince_of_calls ?_
    rw [State.calls, trace_reply]
    show result.1.calls = _
    rw [added, called, List.append_assoc]
    rfl
  · rw [List.filterMap_cons_none rfl, entrances, entranceAt, found]
    rfl

/-- What is a deed is accepted. -/
theorem accepts_of_deed {command : Command} {deed : Deed}
    (isDeed : command.deed? staging.story state.position = some deed) :
    ∃ submitted actions target, Leaves staging.story state.position command submitted actions target ∧
      Accepts staging state command target := by
  have notNone : command.deed? staging.story state.position ≠ none := by
    rw [isDeed]
    exact Option.some_ne_none deed
  obtain ⟨-, -, -, -, -, -, clears⟩ := leaves_of_deed isDeed
  have obeys := state.obeys_execute staging command
  generalize outcome : state.execute staging command = result at obeys
  cases obeys with
  | starts => cases isDeed
  | stops => cases isDeed
  | ignores ignored => exact absurd ignored.deed?_eq_none notNone
  | misfits answers awaited unfit => exact absurd (deed?_eq_none_of_unfit answers awaited unfit) notNone
  | rejects awaited found taken complaint =>
      exact absurd (by simp [Command.deed?, Story.question?, awaited, found, taken, complaint]) notNone
  | refuses leaves absent => exact absurd (leaves.deed?_eq_none absent) notNone
  | @moves command submitted actions target leaves scene found notes silent entered enters =>
      rw [clears] at enters
      obtain ⟨calls, called, entrances⟩ := calls_of_cleared (calls_of_call silent rfl rfl) found enters
      have after : state.after staging (.command command) = (reply entered).1 := congrArg Prod.fst outcome
      have notStop : Happening.command command ≠ .command .stop := by
        rintro ⟨⟩
        cases isDeed
      refine ⟨_, _, _, leaves, ⟨fun trouble failed => ?_, ⟨calls, ?_⟩, ?_⟩⟩
      · rw [outcome] at failed
        exact enters.reply_not_failed (Story.declares_of_find? found) trouble failed
      · rw [after, called]
      · rw [State.entered, if_neg notStop, after, called, entrances]
  | closes => cases isDeed

/-- An answer that is accepted leaves the question. -/
theorem leaves_of_accepts {raw target : String} (accepts : Accepts staging state (.submit raw) target) :
    ∃ submitted actions elsewhere,
      Leaves staging.story state.position (.submit raw) submitted actions elsewhere := by
  obtain ⟨calls, called⟩ := accepts.clears
  have unfailed := accepts.unfailed
  have obeys := state.obeys_execute staging (.submit raw)
  change callsSince state (state.execute staging (.submit raw)).1 = _ at called
  generalize state.execute staging (.submit raw) = result at obeys called unfailed
  cases obeys with
  | ignores ignored silent =>
      have nothing : callsSince state { state with trace := _ ++ state.trace } = [] :=
        callsSince_of_calls (by rw [calls_of_trace rfl, silent.filter_isCall, List.reverse_nil])
      cases nothing.symm.trans called
  | misfits _ _ _ trouble => exact absurd rfl (unfailed trouble)
  | rejects awaited found taken complaint silent =>
      cases (callsSince_of_calls (calls_of_call silent rfl rfl)).symm.trans called
  | refuses => exact absurd rfl (unfailed _)
  | moves leaves => exact ⟨_, _, _, leaves⟩

/-! ## Prompts of a spotless story -/

/-- An answer to a question is accepted if and only if it passes the guards of the transition that is
taken, provided that this leads to a declared scene. -/
theorem accepts_submit_iff {id raw : String} {question : Question} {transition : Transition}
    (awaited : state.position.pendingFor? .answer = some id)
    (found : staging.story.find? id = some (.question question))
    (taken : question.submission? = some transition)
    (declared : staging.story.declares transition.target = true) :
    Accepts staging state (.submit raw) transition.target ↔
      complaint? transition.guards (question.field.normalize raw) = none := by
  constructor
  · intro accepts
    obtain ⟨submitted, actions, elsewhere, leaves⟩ := leaves_of_accepts accepts
    cases leaves with
    | submitted awaitedToo foundToo takenToo passed =>
        cases awaited.symm.trans awaitedToo
        cases found.symm.trans foundToo
        cases taken.symm.trans takenToo
        exact passed
  · intro passed
    have isDeed : (Command.submit raw).deed? staging.story state.position = some (.answered id raw) := by
      simp [Command.deed?, Story.question?, awaited, found, taken, passed, declared]
    obtain ⟨submitted, actions, target, leaves, accepts⟩ := accepts_of_deed isDeed
    rwa [leaves.target_eq (.submitted awaited found taken passed)] at accepts

theorem accepts_choose {id offer : String} {choice : Choice} {chosen : Offer}
    (awaited : state.position.pendingFor? .choice = some id)
    (found : staging.story.find? id = some (.choice choice)) (taken : choice.offer? offer = some chosen)
    (declared : staging.story.declares chosen.target = true) :
    Accepts staging state (.choose offer) chosen.target := by
  have isDeed : (Command.choose offer).deed? staging.story state.position = some (.chose id offer) := by
    simp [Command.deed?, Story.choice?, awaited, found, taken, declared]
  obtain ⟨submitted, actions, target, leaves, accepts⟩ := accepts_of_deed isDeed
  rwa [leaves.target_eq (.chosen awaited found taken)] at accepts

/-- In a story in which a review with the settings that it has by itself finds nothing worth a warning, a
session that waits for a choice accepts some option, and one that waits for an answer accepts some answer
exactly if the guards of the transition that is taken on answers ask for no more characters than the field
lets through. What is accepted takes the widget away and enters the target. -/
theorem prompts_open_iff_room (staging : Staging) {initial : State}
    (opened : opening staging.story = .ok initial)
    (spotless : Review.Spotless .standard staging.story) (happenings : List Happening) :
    let state := initial.course staging happenings
    (∀ id, state.position.pending = some ⟨.choice, id⟩ → ∃ choice offer chosen,
      staging.story.find? id = some (.choice choice) ∧ choice.offer? offer = some chosen ∧
        Accepts staging state (.choose offer) chosen.target) ∧
    ∀ id, state.position.pending = some ⟨.answer, id⟩ → ∃ question transition,
      staging.story.find? id = some (.question question) ∧ question.submission? = some transition ∧
        ((∃ raw, Accepts staging state (.submit raw) transition.target) ↔
          question.field.HasRoomFor transition.guards) := by
  intro state
  have steady := steady_course opened happenings
  have closed := Review.closed_of_spotless rfl spotless
  refine ⟨fun id pending => ?_, fun id pending => ?_⟩
  · obtain ⟨-, -, scene, found, offered⟩ := steady.coherent.awaited pending
    have awaited : state.position.pendingFor? .choice = some id := by simp [Position.pendingFor?, pending]
    have here := Story.mem_scenes_of_find? found
    cases scene with
    | choice choice =>
        obtain ⟨offer, chosen, taken⟩ := Review.exists_offer_of_spotless ⟨rfl, rfl⟩ spotless here
        have declared := closed.successors _ here _ (target_mem_successors_of_offer taken)
        exact ⟨choice, offer, chosen, found, taken, accepts_choose awaited found taken declared⟩
    | sequence body => cases offered
    | question body => cases offered
  · obtain ⟨-, -, scene, found, offered⟩ := steady.coherent.awaited pending
    have awaited : state.position.pendingFor? .answer = some id := by simp [Position.pendingFor?, pending]
    have here := Story.mem_scenes_of_find? found
    cases scene with
    | question question =>
        obtain ⟨transition, taken⟩ := Review.exists_submission_of_spotless ⟨rfl, rfl⟩ spotless here
        have declared := closed.successors _ here _ (target_mem_successors_of_submission taken)
        refine ⟨question, transition, found, taken, ?_⟩
        simp only [accepts_submit_iff awaited found taken declared]
        exact AnswerField.exists_passing_iff
    | sequence body => cases offered
    | choice body => cases offered

/-- The sample asks for one character, and lets eight through. -/
theorem sample_prompt_open :
    Review.Spotless .standard .sample ∧
      ∃ raw, Accepts ⟨.sample, .silent⟩
        ((initial .empty).course ⟨.sample, .silent⟩
          [.command .start, .step 0, .step 0, .clock 5, .wake 0, .step 0, .step 1, .step 1, .step 1])
        (.submit raw) "way" := by
  have opened : opening Story.sample = .ok (initial .empty) := rfl
  have spotless : Review.Spotless .standard .sample := by decide
  obtain ⟨-, answers⟩ := prompts_open_iff_room ⟨.sample, .silent⟩ opened spotless
    [.command .start, .step 0, .step 0, .clock 5, .wake 0, .step 0, .step 1, .step 1, .step 1]
  obtain ⟨question, transition, found, taken, open_iff⟩ := answers "name" rfl
  cases found
  cases taken
  have room : AnswerField.HasRoomFor ⟨"name", "Name", none, none, some 8, false⟩ [.minLength 1] := by
    intro least member most bounded
    cases List.mem_singleton.mp member
    cases bounded
    decide
  exact ⟨spotless, open_iff.mpr room⟩

end State

end Session

/-- A story in which nothing is found, and whose question asks for a character and lets none through. -/
def Story.narrow : Story where
  id := "narrow"
  version := "1"
  store := Table.empty
  start := "ask"
  scenes := [
    .question ⟨"ask", ⟨"name", "Name", none, none, some 0, false⟩,
      [⟨submitEvent, [.minLength 1], [], "end"⟩]⟩,
    .sequence ⟨"end", [], [], none, none, Table.empty, true⟩]

namespace Session.State

/-- No answer to the question is ever accepted. -/
theorem narrow_traps :
    Review.Spotless .standard .narrow ∧ ∃ initial, opening .narrow = .ok initial ∧
      let state := initial.course ⟨.narrow, .silent⟩ [.command .start]
      state.position.pending = some ⟨.answer, "ask"⟩ ∧
        ∀ raw target, ¬ Accepts ⟨.narrow, .silent⟩ state (.submit raw) target := by
  refine ⟨by decide, .initial Table.empty, rfl, rfl, fun raw target accepts => ?_⟩
  obtain ⟨submitted, actions, elsewhere, leaves⟩ := leaves_of_accepts accepts
  cases leaves with
  | submitted awaited found taken passed =>
      cases awaited
      cases found
      cases taken
      have room := AnswerField.exists_passing_iff.mp ⟨raw, passed⟩
      have none : 1 ≤ 0 := room 1 (List.mem_singleton_self _) 0 rfl
      omega

end Session.State

end NarrativePlayer
