import NarrativePlayer.Proofs.Session.AwaitedInteraction
import NarrativePlayer.Proofs.Session.Deeds
import NarrativePlayer.Proofs.Session.Supersession

/-!
Contract: the variables of a session as the replay of its history.

The history of a course is the deeds of its happenings, in order. Owns that replaying it on the
variables of the story gives those of the session, and what has no part in it: stops, commands that
fail, are refused or come when they are not awaited, scenes that end the story, and sequences that were
superseded. What is accepted is in the history once for every time it was announced as awaited at most,
however often it is delivered.
-/

namespace NarrativePlayer.Session

namespace State

/-- The deeds of a course. -/
def history (staging : Staging) : State → List Happening → List Deed
  | _, [] => []
  | state, happening :: rest =>
      deeds staging state happening ++ history staging (state.after staging happening) rest

theorem store_course (staging : Staging) (happenings : List Happening) (state : State) :
    (state.course staging happenings).position.store =
      replay staging.story (history staging state happenings) state.position.store := by
  induction happenings generalizing state with
  | nil => rfl
  | cons happening rest inductionHypothesis =>
      have now : (state.after staging happening).position.store =
          replay staging.story (deeds staging state happening) state.position.store :=
        (tells_after staging state happening).store
      rw [course, inductionHypothesis, now, history, replay_append]

/-! ## What has no deeds -/

/-- Where no sequence is begun, the deeds are what was accepted. -/
theorem deeds_eq_accepted {staging : Staging} {state : State} {happening : Happening}
    (nothing : (state.after staging happening).activities.length ≤ state.activities.length) :
    deeds staging state happening = accepted staging state happening := by
  have begun := (tells_after staging state happening).begun
  rw [List.drop_eq_nil_of_le nothing] at begun
  rw [deeds, ← begun]
  simp

theorem deeds_eq_nil {staging : Staging} {state : State} {command : Command}
    (same : (state.execute staging command).1.activities = state.activities)
    (unaccepted : command.deed? staging.story state.position = none) :
    deeds staging state (.command command) = [] := by
  have nothing : (state.after staging (.command command)).activities.length ≤
      state.activities.length := by
    show (state.execute staging command).1.activities.length ≤ state.activities.length
    exact Nat.le_of_eq (congrArg List.length same)
  rw [deeds_eq_accepted nothing]
  simp [accepted, Happening.command?, unaccepted]

theorem deeds_stop (staging : Staging) (state : State) :
    deeds staging state (.command .stop) = [] := by
  obtain ⟨notes, -, result⟩ := (state.obeys_execute staging .stop).of_stop
  refine deeds_eq_nil ?_ rfl
  rw [result]

theorem deeds_start (staging : Staging) (state : State) :
    ∀ deed ∈ deeds staging state (.command .start), deed = .ran staging.story.start := by
  obtain ⟨notes, entered, silent, result, enters⟩ := (state.obeys_execute staging .start).of_start
  obtain ⟨calls, tells, first⟩ := tells_of_start silent enters
  rw [← result] at tells
  have made : callsSince state (state.after staging (.command .start)) = calls :=
    callsSince_of_calls tells.called
  intro deed member
  rw [deeds, made] at member
  exact first deed member

/-- A command that fails leaves everything as it was. -/
theorem execute_of_failed {staging : Staging} {state : State} {command : Command} {trouble : Trouble}
    (startDeclared : staging.story.declares staging.story.start = true)
    (failed : (state.execute staging command).2 = .failed trouble) :
    (state.execute staging command).1 = state ∧
      command.deed? staging.story state.position = none := by
  have obeys := state.obeys_execute staging command
  generalize state.execute staging command = result at obeys failed ⊢
  cases obeys with
  | starts silent enters => exact absurd failed (enters.reply_not_failed startDeclared trouble)
  | stops => cases failed
  | ignores => cases failed
  | misfits answers awaited unfit => exact ⟨rfl, deed?_eq_none_of_unfit answers awaited unfit⟩
  | rejects => cases failed
  | refuses leaves absent => exact ⟨rfl, leaves.deed?_eq_none absent⟩
  | moves leaves found silent enters =>
      exact absurd failed (enters.reply_not_failed (Story.declares_of_find? found) trouble)
  | closes => cases failed

theorem deeds_of_failed {staging : Staging} {state : State} {command : Command} {trouble : Trouble}
    (startDeclared : staging.story.declares staging.story.start = true)
    (failed : (state.execute staging command).2 = .failed trouble) :
    deeds staging state (.command command) = [] := by
  obtain ⟨same, unaccepted⟩ := execute_of_failed startDeclared failed
  exact deeds_eq_nil (congrArg activities same) unaccepted

/-- A submission or a pick that is not accepted begins no sequence. -/
theorem activities_of_unaccepted {staging : Staging} {state : State} {command : Command}
    {result : State × Reply} (obeys : Obeys staging state command result)
    (answers : command.interaction?.isSome = true) (clears : command.clearing = [.clear])
    (unaccepted : command.deed? staging.story state.position = none) :
    result.1.activities = state.activities := by
  cases obeys with
  | starts => cases answers
  | moves leaves found silent enters =>
      have declared := Story.declares_of_find? found
      cases leaves with
      | submitted awaited foundHere taken passed =>
          simp [Command.deed?, Story.question?, awaited, foundHere, taken, passed, declared]
            at unaccepted
      | chosen awaited foundHere taken =>
          simp [Command.deed?, Story.choice?, awaited, foundHere, taken, declared] at unaccepted
      | acknowledged => cases clears
  | _ => rfl

theorem deeds_of_unaccepted {staging : Staging} {state : State} {command : Command}
    (answers : command.interaction?.isSome = true) (clears : command.clearing = [.clear])
    (unaccepted : command.deed? staging.story state.position = none) :
    deeds staging state (.command command) = [] := by
  have obeys := state.obeys_execute staging command
  exact deeds_eq_nil (activities_of_unaccepted obeys answers clears unaccepted) unaccepted

theorem deeds_of_unacknowledged {staging : Staging} {state : State}
    (elsewhere : state.position.pendingFor? .enter = none) :
    deeds staging state (.command .enter) = [] := by
  refine deeds_eq_nil ?_ rfl
  show (state.acknowledge staging).1.activities = state.activities
  unfold acknowledge
  rw [elsewhere]
  simp only [ignore, note_eq]

/-- Whatever happens to a sequence that was superseded is no deed. -/
theorem deeds_of_superseded {staging : Staging} {state : State} (orderly : state.Orderly staging.story)
    {ticket : Nat} {sequence : Sequence} {generation : Nat} {stage : Stage}
    (performs : state.Performs ticket sequence generation stage)
    (stale : generation < state.position.generation) {own : Happening}
    (concerns : own.Concerns ticket) : deeds staging state own = [] := by
  cases own with
  | step other =>
      cases concerns
      have unheard := unheard_step orderly performs stale
      rw [deeds_eq_accepted (by simp [unheard.activities])]
      rfl
  | release gate other =>
      rw [deeds_eq_accepted (by simp [after, rouseOne])]
      rfl
  | wake other =>
      rw [deeds_eq_accepted (by simp [after, rouseOne])]
      rfl
  | breakDown other =>
      rw [deeds_eq_accepted (by simp [after, rouseOne])]
      rfl
  | _ => cases concerns

/-- Only sequences that do not end the story are announced as running. -/
theorem sequence_of_ran {staging : Staging} {state : State} {happening : Happening} {id : String}
    (ran : .ran id ∈ deeds staging state happening) :
    ∃ sequence, staging.story.find? id = some (.sequence sequence) ∧ sequence.terminal = false := by
  rcases List.mem_append.mp ran with isAccepted | isAnnounced
  · obtain ⟨command, -, deed⟩ := Option.bind_eq_some_iff.mp (Option.mem_toList.mp isAccepted)
    obtain ⟨submitted, actions, target, leaves, -, answers, -⟩ := leaves_of_deed deed
    cases leaves <;> cases answers
  · rw [← (tells_after staging state happening).begun] at isAnnounced
    obtain ⟨activity, member, deed⟩ := List.mem_filterMap.mp isAnnounced
    cases activity with
    | call released finished => cases deed
    | performance sequence generation stage =>
        cases deed
        obtain ⟨index, here⟩ := List.mem_iff_getElem?.mp member
        rw [List.getElem?_drop] at here
        rcases Performs.before_or_begun here with ⟨earlier, before⟩ | ⟨-, -, -, -, found, goesOn, -⟩
        · have inside := (List.getElem?_eq_some_iff.mp before).1
          omega
        · exact ⟨sequence, found, goesOn⟩

/-! ## Histories of courses -/

theorem sequence_of_ran_course {staging : Staging} {id : String} (happenings : List Happening)
    (state : State) (ran : .ran id ∈ history staging state happenings) :
    ∃ sequence, staging.story.find? id = some (.sequence sequence) ∧ sequence.terminal = false := by
  induction happenings generalizing state with
  | nil => cases ran
  | cons happening rest inductionHypothesis =>
      rcases List.mem_append.mp ran with now | later
      · exact sequence_of_ran now
      · exact inductionHypothesis _ later

/-- To announce a sequence as running answers nothing. -/
theorem answersTo_announced (interaction : Interaction) (calls : List Event) :
    answersTo interaction (calls.filterMap Event.deed?) = 0 := by
  refine List.countP_eq_zero.mpr fun deed member => ?_
  obtain ⟨event, -, announced⟩ := List.mem_filterMap.mp member
  unfold Event.deed? at announced
  split at announced
  · cases announced
    simp [Deed.interaction?]
  · cases announced

/-- No interaction is answered more often than it was announced as awaited. -/
theorem answersTo_history_le (staging : Staging) (interaction : Interaction)
    (happenings : List Happening) (state : State) :
    answersTo interaction (history staging state happenings) +
        (state.course staging happenings).position.awaits interaction +
        state.calls.countP (Event.announces interaction) ≤
      state.position.awaits interaction +
        (state.course staging happenings).calls.countP (Event.announces interaction) := by
  induction happenings generalizing state with
  | nil => simp [history, course, answersTo]
  | cons happening rest inductionHypothesis =>
      have tells := tells_after staging state happening
      have before := tells.awaits interaction
      have unanswered : answersTo interaction
          ((callsSince state (state.after staging happening)).filterMap Event.deed?) = 0 :=
        answersTo_announced interaction _
      have announced : (state.after staging happening).calls.countP (Event.announces interaction) =
          state.calls.countP (Event.announces interaction) +
            (callsSince state (state.after staging happening)).countP
              (Event.announces interaction) := by
        conv => lhs; rw [tells.called]
        exact List.countP_append
      have later := inductionHypothesis (state.after staging happening)
      rw [history, course, answersTo_append, deeds, answersTo_append]
      omega

/-- In a state of a session, nothing but deeds writes the variables, and these are none. -/
structure WrittenByDeeds (staging : Staging) (state : State) : Prop where
  undone : ∀ happening, deeds staging state happening = [] →
    (state.after staging happening).position.store = state.position.store
  stopped : deeds staging state (.command .stop) = []
  started : ∀ deed ∈ deeds staging state (.command .start), deed = .ran staging.story.start
  unanswered : ∀ raw, (Command.submit raw).deed? staging.story state.position = none →
    deeds staging state (.command (.submit raw)) = []
  unchosen : ∀ offer, (Command.choose offer).deed? staging.story state.position = none →
    deeds staging state (.command (.choose offer)) = []
  unacknowledged : state.position.pendingFor? .enter = none →
    deeds staging state (.command .enter) = []
  failed : ∀ command trouble, (state.execute staging command).2 = .failed trouble →
    deeds staging state (.command command) = []
  superseded : ∀ ticket sequence generation stage, state.Performs ticket sequence generation stage →
    generation < state.position.generation → ∀ own : Happening, own.Concerns ticket →
      deeds staging state own = []

theorem writtenByDeeds {staging : Staging} {state : State} (steady : state.Steady staging.story)
    (startDeclared : staging.story.declares staging.story.start = true) :
    WrittenByDeeds staging state where
  undone happening none := by
    rw [(tells_after staging state happening).store]
    show replay staging.story (deeds staging state happening) state.position.store = _
    rw [none]
    rfl
  stopped := deeds_stop staging state
  started := deeds_start staging state
  unanswered raw unaccepted := deeds_of_unaccepted rfl rfl unaccepted
  unchosen offer unaccepted := deeds_of_unaccepted rfl rfl unaccepted
  unacknowledged elsewhere := deeds_of_unacknowledged elsewhere
  failed command trouble failed := deeds_of_failed startDeclared failed
  superseded ticket sequence generation stage performs stale own concerns :=
    deeds_of_superseded steady.orderly performs stale concerns

/-- In every course, the variables are the replay of its history on those of the story: of each answer
that was accepted the actions of the transition that its question has for answers, with the answer in
normal form; of each option that was picked the actions of the first option of that id; and of each
sequence that was announced as running the actions of the sequence that its id stands for. Nothing else
writes them; only sequences that do not end the story are in the history; and no interaction is in it
more often than it was announced as awaited, however often a command is given. -/
theorem store_eq_replay_history (staging : Staging) {initial : State}
    (opened : State.opening staging.story = .ok initial) (happenings : List Happening) :
    (initial.course staging happenings).position.store =
        replay staging.story (history staging initial happenings) staging.story.store ∧
      WrittenByDeeds staging (initial.course staging happenings) ∧
      (∀ id, .ran id ∈ history staging initial happenings → ∃ sequence,
        staging.story.find? id = some (.sequence sequence) ∧ sequence.terminal = false) ∧
      ∀ interaction, answersTo interaction (history staging initial happenings) ≤
        (initial.course staging happenings).calls.countP (Event.announces interaction) := by
  obtain ⟨rfl, startDeclared⟩ := initial_of_opening opened
  have steady := steady_course opened happenings
  refine ⟨?_, writtenByDeeds steady startDeclared, ?_, fun interaction => ?_⟩
  · exact store_course staging happenings (.initial staging.story.store)
  · intro id ran
    exact sequence_of_ran_course happenings _ ran
  · have bounded := answersTo_history_le staging interaction happenings (.initial staging.story.store)
    have unawaited : (initial staging.story.store).position.awaits interaction = 0 :=
      Position.awaits_of_pending_eq_none interaction rfl
    omega

/-- The answer is given twice and the story started again, and the answer is in the history once, as in the
variables. -/
theorem sample_history :
    let happenings : List Happening :=
      [.command .start, .step 0, .step 0, .clock 5, .wake 0, .step 0, .step 1, .step 1, .step 1,
        .command (.submit "Bea"), .command (.submit "Bea"), .command .start]
    let history := history ⟨.sample, .silent⟩ (initial .empty) happenings
    history = [.ran "greeting", .ran "asking", .answered "name" "Bea", .ran "greeting"] ∧
      ((initial .empty).course ⟨.sample, .silent⟩ happenings).position.store =
        replay .sample history .empty ∧
      replay .sample history .empty = .ofList [("met", "yes"), ("name", "Bea")] := by
  intro happenings history
  have opened : opening Story.sample = .ok (initial .empty) := rfl
  have read : history = [.ran "greeting", .ran "asking", .answered "name" "Bea", .ran "greeting"] := rfl
  obtain ⟨replayed, -, -, -⟩ := store_eq_replay_history ⟨.sample, .silent⟩ opened happenings
  exact ⟨read, replayed, by decide +kernel⟩

end State

end NarrativePlayer.Session
