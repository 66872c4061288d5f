import NarrativePlayer.Proofs.Session.AwaitedInteraction

/-!
Contract: what is announced of a session.

Whoever listens hears of every change of the mode and of the current scene, once, when it is made, and
of nothing that is not so. Owns what one step announces, and that what was announced last is where the
session stands. Where there is no current scene, as in a session that is stopped before it was started,
the empty id is announced.
-/

namespace NarrativePlayer.Session

/-- What a call announces. -/
def Event.announcement? : Event → Option (String × Mode)
  | .changed scene mode => some (scene, mode)
  | _ => none

/-- What the entries of a trace announce, in order. -/
def announced (trace : List Event) : List (String × Mode) :=
  (trace.filterMap Event.announcement?).reverse

theorem announced_cons (event : Event) (trace : List Event) :
    announced (event :: trace) = announced trace ++ event.announcement?.toList :=
  reverse_filterMap_cons Event.announcement? event trace

theorem Silent.announced_append {notes : List Event} (silent : Silent notes) (trace : List Event) :
    announced (notes ++ trace) = announced trace := by
  have unsaid : notes.filterMap Event.announcement? = [] := by
    refine silent.filterMap_eq_nil fun event uncalled => ?_
    cases event with
    | changed scene mode => cases uncalled
    | _ => rfl
  rw [announced, List.filterMap_append, unsaid, List.nil_append, announced]

/-- What there is to announce of a position. -/
def Position.standing (position : Position) : String × Mode :=
  (position.current.getD "", position.mode)

namespace State

/-- What was announced so far, in order. -/
def announcements (state : State) : List (String × Mode) :=
  announced state.trace

/-- What a step announces: nothing, and then the session stands where it stood; or, once, where it
stands after the step. -/
inductive Announces (state later : State) : Prop
  | nothing (said : later.announcements = state.announcements)
      (mode : later.position.mode = state.position.mode)
      (current : later.position.current = state.position.current)
  | once (said : later.announcements = state.announcements ++ [later.position.standing])
      (started : later.position.mode ≠ .idle)

theorem Announces.of_position {state later : State} (said : later.announcements = state.announcements)
    (position : later.position = state.position) : Announces state later :=
  .nothing said (by rw [position]) (by rw [position])

theorem Announces.reply {state : State} {result : State × Entrance}
    (announces : Announces state result.1) : Announces state (State.reply result).1 := by
  cases announces with
  | nothing said mode current =>
      refine .nothing ?_ ?_ ?_
      · rw [announcements, trace_reply]
        exact said
      · rw [position_reply, mode]
      · rw [position_reply, current]
  | once said started =>
      refine .once ?_ ?_
      · rw [announcements, trace_reply, position_reply]
        exact said
      · rw [position_reply]
        exact started

end State

/-- A scene that is entered is announced, wherever the session stood before. -/
theorem Enters.announces {staging : Staging} {id : String} {before state : State}
    {result : State × Entrance} (enters : Enters staging id before result)
    (unfailed : ∀ trouble, result.2 ≠ .failed trouble)
    (same : before.announcements = state.announcements) : State.Announces state result.1 := by
  have said : ∀ {trace : List Event}, announced trace = before.announcements →
      announced trace = state.announcements := fun equal => equal.trans same
  cases enters with
  | undeclared => exact absurd rfl (unfailed _)
  | ends found terminal silent =>
      refine .once ?_ Mode.noConfusion
      rw [State.announcements, announced_cons, said (silent.announced_append _)]
      rfl
  | begins found goesOn silent silentLater =>
      refine .once ?_ Mode.noConfusion
      rw [State.announcements, silentLater.announced_append, announced_cons,
        said (silent.announced_append _)]
      rfl
  | asks found silent =>
      refine .once ?_ Mode.noConfusion
      rw [State.announcements, announced_cons, announced_cons, said (silent.announced_append _)]
      exact List.append_nil _
  | offers found silent =>
      refine .once ?_ Mode.noConfusion
      rw [State.announcements, announced_cons, announced_cons, said (silent.announced_append _)]
      exact List.append_nil _

namespace State

variable {staging : Staging} {state : State}

theorem Steady.announces_command (steady : state.Steady staging.story)
    (startDeclared : staging.story.declares staging.story.start = true) {command : Command}
    {result : State × Reply} (obeys : Obeys staging state command result) :
    Announces state result.1 := by
  cases obeys with
  | starts silent enters =>
      refine (enters.announces (enters.not_failed startDeclared) ?_).reply
      rw [announcements, announced_cons, silent.announced_append]
      exact List.append_nil _
  | stops silent =>
      refine .once ?_ Mode.noConfusion
      rw [announcements, announced_cons, silent.announced_append]
      rfl
  | ignores ignored silent => exact .of_position (silent.announced_append _) rfl
  | misfits => exact .of_position rfl rfl
  | rejects awaited found taken complaint silent =>
      refine .of_position ?_ rfl
      rw [announcements, announced_cons, silent.announced_append]
      exact List.append_nil _
  | refuses => exact .of_position rfl rfl
  | @moves command _ _ _ leaves _ found notes silent _ enters =>
      refine (enters.announces (enters.not_failed (Story.declares_of_find? found)) ?_).reply
      show announced (command.clearing ++ (notes ++ state.trace)) = _
      rcases command.clearing_cases with clears | clears
      · rw [clears, List.nil_append, silent.announced_append]
        rfl
      · rw [clears, List.singleton_append, announced_cons, silent.announced_append]
        exact List.append_nil _
  | @closes id sequence awaited found noWay notes silent =>
      -- The scene that is waited with is the current one.
      obtain ⟨-, current, -⟩ := steady.coherent.awaited (Position.pending_of_pendingFor? awaited)
      refine .once ?_ Mode.noConfusion
      rw [announcements, announced_cons, silent.announced_append]
      show _ ++ [(id, Mode.ended)] = _ ++ [(state.position.current.getD "", Mode.ended)]
      rw [current]
      rfl

theorem Steady.announces_advance (steady : state.Steady staging.story) {ticket : Nat}
    {sequence : Sequence} {generation : Nat} {stage reached : Stage} {next : State}
    (performs : state.Performs ticket sequence generation stage)
    (advances : Advances staging sequence generation state stage (next, reached)) :
    Announces state next := by
  cases advances with
  | givesUp stale silent => exact .of_position (silent.announced_append _) rfl
  | givesUpPrinted stale here silent => exact .of_position (silent.announced_append _) rfl
  | prints current here intact silent =>
      refine .of_position ?_ rfl
      rw [announcements, announced_cons, silent.announced_append]
      exact List.append_nil _
  | breaksOff current here faulty silent => exact .of_position (silent.announced_append _) rfl
  | waits current beyond awaited silent =>
      refine .once ?_ Mode.noConfusion
      rw [announcements, announced_cons, silent.announced_append]
      rfl
  | ends current beyond unawaited last silent =>
      -- The sequence takes the current scene from the position, where it has put itself.
      rw [← current] at performs
      obtain ⟨-, here⟩ := steady.underWay performs rfl
      refine .once ?_ Mode.noConfusion
      rw [announcements, announced_cons, silent.announced_append]
      show _ ++ [(sequence.id, Mode.ended)] = _ ++ [(state.position.current.getD "", Mode.ended)]
      rw [here]
      rfl
  | leads current beyond unawaited next enters => exact enters.announces (by simp) rfl
  | presents current beyond unawaited next enters => exact enters.announces (by simp) rfl
  | fails current beyond unawaited next enters =>
      obtain ⟨rfl, -, -⟩ := enters.of_failed
      refine .of_position ?_ rfl
      rw [announcements, announced_cons]
      exact List.append_nil _
  | _ => exact .of_position rfl rfl

theorem Steady.announces_after (steady : state.Steady staging.story)
    (startDeclared : staging.story.declares staging.story.start = true) (happening : Happening) :
    Announces state (state.after staging happening) := by
  cases happening with
  | command command =>
      exact steady.announces_command startDeclared (state.obeys_execute staging command)
  | step ticket =>
      show Announces state (state.goOn staging ticket)
      have goesOn := state.goesOn_goOn staging ticket
      generalize state.goOn staging ticket = later at goesOn ⊢
      cases goesOn with
      | performs here advances =>
          cases steady.announces_advance here advances with
          | nothing said mode current => exact .nothing said mode current
          | once said started => exact .once said started
      | returns here =>
          refine .of_position ?_ rfl
          rw [announcements, announced_cons]
          exact List.append_nil _
      | rests => exact .of_position rfl rfl
  | turn gate opened => cases gate <;> exact .of_position rfl rfl
  | _ => exact .of_position rfl rfl

/-- What was announced last is where the session stands, once it was started or stopped. -/
def Heard (state : State) : Prop :=
  state.announcements.getLast? =
    if state.position.mode = .idle then none else some state.position.standing

theorem Heard.after {later : State} (heard : state.Heard) (announces : Announces state later) :
    later.Heard := by
  unfold Heard at heard ⊢
  cases announces with
  | nothing said mode current => rw [said, heard, Position.standing, Position.standing, mode, current]
  | once said started => rw [said, List.getLast?_concat, if_neg started]

theorem heard_course {initial : State} (opened : opening staging.story = .ok initial)
    (happenings : List Happening) : (initial.course staging happenings).Heard := by
  refine course_rec (motive := fun _ later => later.Heard) ?_ ?_ happenings
  · obtain ⟨rfl, -⟩ := initial_of_opening opened
    rfl
  · intro past happening heard
    have steady := steady_course opened past
    exact heard.after (steady.announces_after (initial_of_opening opened).2 happening)

/-- In every course, nothing was announced exactly while the session is idle, and after that what was
announced last is its current scene, or the empty id if it has none, and its mode. Whatever happens next
announces nothing and leaves both as they are, or announces once, and rightly, where the session stands
then. -/
theorem observer_never_behind (staging : Staging) {initial : State}
    (opened : State.opening staging.story = .ok initial) (happenings : List Happening) :
    let state := initial.course staging happenings
    (state.announcements = [] ↔ state.position.mode = .idle) ∧
    (state.position.mode ≠ .idle →
      state.announcements.getLast? =
        some (state.position.current.getD "", state.position.mode)) ∧
    ∀ happening,
      let later := state.after staging happening
      (later.announcements = state.announcements ∧
        later.position.mode = state.position.mode ∧
        later.position.current = state.position.current) ∨
      later.announcements =
        state.announcements ++ [(later.position.current.getD "", later.position.mode)] := by
  intro state
  have heard : state.Heard := heard_course opened happenings
  have steady : state.Steady staging.story := steady_course opened happenings
  refine ⟨?_, ?_, fun happening => ?_⟩
  · rw [← List.getLast?_eq_none_iff, heard]
    by_cases idle : state.position.mode = .idle
    · simp [idle]
    · simp [idle]
  · intro started
    rw [heard, if_neg started]
    rfl
  · intro later
    cases steady.announces_after (initial_of_opening opened).2 happening with
    | nothing said mode current => exact .inl ⟨said, mode, current⟩
    | once said => exact .inr said

/-- The story is stopped before it is started, then told up to the question, and stopped again. -/
theorem sample_announcements :
    let staging : Staging := ⟨.sample, .silent⟩
    let stopped := (initial .empty).course staging
      [.command .stop, .command .start, .step 0, .step 0, .clock 5, .wake 0, .step 0, .step 1, .step 1,
        .step 1, .command .stop]
    stopped.position.mode = .ended ∧
      stopped.announcements =
        [("", .ended), ("greeting", .running), ("asking", .running), ("name", .waiting .answer),
          ("name", .ended)] ∧
      stopped.announcements.getLast? =
        some (stopped.position.current.getD "", stopped.position.mode) := by
  intro staging stopped
  have opened : opening staging.story = .ok (initial .empty) := rfl
  have ended : stopped.position.mode = .ended := by decide +kernel
  have all : stopped.announcements =
        [("", .ended), ("greeting", .running), ("asking", .running), ("name", .waiting .answer),
          ("name", .ended)] := by decide +kernel
  have started : stopped.position.mode ≠ .idle := by
    rw [ended]
    exact Mode.noConfusion
  obtain ⟨-, last, -⟩ := observer_never_behind staging opened
    [.command .stop, .command .start, .step 0, .step 0, .clock 5, .wake 0, .step 0, .step 1, .step 1,
      .step 1, .command .stop]
  exact ⟨ended, all, last started⟩

end State

end NarrativePlayer.Session
