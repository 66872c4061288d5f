import NarrativePlayer.Proofs.Session.AttainedStates
import NarrativePlayer.Proofs.Session.Tenure

/-!
Contract: a session that has ended.

The mode alone does not say that nothing goes on any more: an ending need not begin a generation, so a
sequence may still be held up that belongs to the one in force. Owns that every such sequence has done
all that it had to do, so that whatever happens short of a start, the session stays where it is and the
terminal is left alone, but for the notice that each further stop repeats.
-/

namespace NarrativePlayer.Session

namespace State

variable {staging : Staging} {state : State}

/-- Between two states the terminal was not called, and the session has not moved. -/
structure Undisturbed (state next : State) : Prop where
  position : next.position = state.position
  calls : next.calls = state.calls

theorem Undisturbed.refl (state : State) : Undisturbed state state :=
  ⟨rfl, rfl⟩

theorem Undisturbed.of_silent (state : State) {notes : List Event} (silent : Silent notes) :
    Undisturbed state { state with trace := notes ++ state.trace } := by
  refine ⟨rfl, ?_⟩
  show ((notes ++ state.trace).filter Event.isCall).reverse = _
  rw [List.filter_append, silent.filter_isCall, List.nil_append]
  rfl

theorem Undisturbed.trans {later last : State} (first : Undisturbed state later)
    (second : Undisturbed later last) : Undisturbed state last :=
  ⟨second.position.trans first.position, second.calls.trans first.calls⟩

/-! ## What happens of itself to a session that does not run -/

section

variable (steady : state.Steady staging.story) (still : state.position.mode ≠ .running)

include steady still

/-- Whatever sequence goes on, it is out of date or past its last effect. -/
theorem Steady.undisturbed_advance {ticket : Nat} {sequence : Sequence} {generation : Nat}
    {stage reached : Stage} {next : State} (performs : state.Performs ticket sequence generation stage)
    (advances : Advances staging sequence generation state stage (next, reached)) :
    Undisturbed state next := by
  have idle : state.position.generation = generation → stage.isUnderWay = true → False := by
    intro current underWay
    rw [← current] at performs
    exact still (steady.underWay performs underWay).1
  cases advances with
  | givesUp _ silent => exact .of_silent state silent
  | givesUpPrinted _ _ silent => exact .of_silent state silent
  | prints current => exact (idle current rfl).elim
  | breaksOff current => exact (idle current rfl).elim
  | rests => exact .refl state
  | passes => exact .refl state
  | skips => exact .refl state
  | waits current => exact (idle current rfl).elim
  | ends current => exact (idle current rfl).elim
  | leads current => exact (idle current rfl).elim
  | presents current => exact (idle current rfl).elim
  | fails current => exact (idle current rfl).elim
  | presented => exact .refl state
  | stays => exact .refl state

theorem Steady.undisturbed_goOn (ticket : Nat) : Undisturbed state (state.goOn staging ticket) := by
  have goesOn := state.goesOn_goOn staging ticket
  generalize state.goOn staging ticket = later at goesOn ⊢
  cases goesOn with
  | @performs _ _ _ _ next here advances =>
      have undisturbed := steady.undisturbed_advance still here advances
      exact ⟨undisturbed.position, undisturbed.calls⟩
  | returns here => exact ⟨rfl, rfl⟩
  | rests => exact .refl state

/-- Unless it is told something, a session that does not run stays where it is. -/
theorem Steady.undisturbed_unbidden {happening : Happening} (unbidden : happening.isUnbidden = true) :
    Undisturbed state (state.after staging happening) := by
  cases happening with
  | command told => cases unbidden
  | step ticket => exact steady.undisturbed_goOn still ticket
  | turn gate opened => cases gate <;> exact ⟨rfl, rfl⟩
  | _ => exact ⟨rfl, rfl⟩

end

/-! ## What happens to a session that has ended -/

section

variable (steady : state.Steady staging.story) (ended : state.position.mode = .ended)

include steady ended

theorem Steady.pending_eq_none_of_ended : state.position.pending = none :=
  steady.coherent.pending_eq_none (by rw [ended]; rfl)

/-- Short of a start and a stop, nothing disturbs a session that has ended. -/
theorem Steady.undisturbed_after {happening : Happening} (unstarted : happening ≠ .command .start)
    (unstopped : happening ≠ .command .stop) :
    Undisturbed state (state.after staging happening) := by
  have nothing := steady.pending_eq_none_of_ended ended
  have still : state.position.mode ≠ .running := by
    rw [ended]
    decide
  cases happening with
  | command told =>
      have answers : told.interaction?.isSome = true := by
        cases told with
        | start => exact absurd rfl unstarted
        | stop => exact absurd rfl unstopped
        | _ => rfl
      obtain ⟨notes, silent, ignored⟩ := @execute_of_unawaited staging state told nothing answers
      show Undisturbed state (state.execute staging told).1
      rw [ignored]
      exact .of_silent state silent
  | _ => exact steady.undisturbed_unbidden still rfl

/-- A stop of a session that has ended renews the generation and repeats the notice, and no more. -/
theorem Steady.stopped_after :
    (state.after staging (.command .stop)).position =
        { state.position with generation := state.position.generation + 1 } ∧
      (state.after staging (.command .stop)).calls =
        state.calls ++ [.changed (state.position.current.getD "") .ended] := by
  have nothing := steady.pending_eq_none_of_ended ended
  have obeys := state.obeys_execute staging .stop
  show (state.execute staging .stop).1.position = _ ∧ (state.execute staging .stop).1.calls = _
  generalize state.execute staging .stop = result at obeys ⊢
  cases obeys with
  | stops silent =>
      refine ⟨?_, ?_⟩
      · simp only [Position.release, Position.renew, ended, nothing]
      · simp [calls, List.filter_cons, Event.isCall, silent.filter_isCall]
  | ignores ignored => cases ignored with | unawaited answers => cases answers
  | misfits answers => cases answers
  | refuses leaves => cases leaves
  | moves leaves => cases leaves

end

/-! ## Courses -/

/-- The stops among some happenings. -/
def stopsOf (happenings : List Happening) : Nat :=
  happenings.count (.command .stop)

/-- A session comes of one that has ended by a number of stops and nothing else that shows. -/
structure Lingers (ended later : State) (stops : Nat) : Prop where
  position : later.position =
    { ended.position with generation := ended.position.generation + stops }
  calls : later.calls =
    ended.calls ++ List.replicate stops (.changed (ended.position.current.getD "") .ended)

theorem Lingers.refl (state : State) : Lingers state state 0 :=
  ⟨rfl, (List.append_nil _).symm⟩

/-- Without a start, a course of a session that has ended makes itself felt by its stops alone. -/
theorem Steady.lingers_course (startDeclared : staging.story.declares staging.story.start = true)
    {happenings : List Happening} (unstarted : .command .start ∉ happenings) :
    ∀ {state : State}, state.Steady staging.story → state.position.mode = .ended →
      Lingers state (state.course staging happenings) (stopsOf happenings) := by
  induction happenings with
  | nil => exact fun _ _ => .refl _
  | cons happening rest inductionHypothesis =>
      intro state steady ended
      rw [List.mem_cons, not_or] at unstarted
      obtain ⟨notStart, unstartedLater⟩ := unstarted
      have steadyAfter := steady.after startDeclared happening
      by_cases isStop : happening = .command .stop
      · subst isStop
        obtain ⟨position, calls⟩ := steady.stopped_after ended
        have endedAfter : (state.after staging (.command .stop)).position.mode = .ended := by
          rw [position, ended]
        have lingers := inductionHypothesis unstartedLater steadyAfter endedAfter
        have stops : stopsOf (.command .stop :: rest) = stopsOf rest + 1 := List.count_cons_self
        rw [stops]
        refine ⟨?_, ?_⟩
        · show ((state.after staging (.command .stop)).course staging rest).position = _
          rw [lingers.position, position, Nat.add_assoc, Nat.add_comm 1]
        · show ((state.after staging (.command .stop)).course staging rest).calls = _
          rw [lingers.calls, calls, position, List.append_assoc, List.singleton_append,
            List.replicate_succ]
      · have undisturbed := steady.undisturbed_after ended (Ne.symm notStart) isStop
        have endedAfter : (state.after staging happening).position.mode = .ended := by
          rw [undisturbed.position, ended]
        have lingers := inductionHypothesis unstartedLater steadyAfter endedAfter
        have stops : stopsOf (happening :: rest) = stopsOf rest := List.count_cons_of_ne isStop
        rw [stops]
        refine ⟨?_, ?_⟩
        · show ((state.after staging happening).course staging rest).position = _
          rw [lingers.position, undisturbed.position]
        · show ((state.after staging happening).course staging rest).calls = _
          rw [lingers.calls, undisturbed.calls, undisturbed.position]

/-- What a session does without being told leaves it where it is once it has ended. -/
theorem Steady.undisturbed_along (startDeclared : staging.story.declares staging.story.start = true)
    {later : State} (steady : state.Steady staging.story) (ended : state.position.mode = .ended)
    (along : Along Happening.isUnbidden staging state later) : Undisturbed state later := by
  obtain ⟨happenings, unbidden, rfl⟩ := along
  have uncommanded : ∀ told, .command told ∉ happenings :=
    fun told member => Bool.noConfusion (unbidden (.command told) member)
  have lingers := Steady.lingers_course startDeclared (uncommanded .start) steady ended
  have stops : stopsOf happenings = 0 := List.count_eq_zero.mpr (uncommanded .stop)
  rw [stops] at lingers
  exact ⟨lingers.position, lingers.calls.trans (List.append_nil _)⟩

/-- Once a session has ended, in whatever way, it stays ended until it is started again. Whatever happens
to it short of that, mode, current scene, awaited interaction and variables are as they were, and so are
the generation and the calls of the terminal but for the stops, each of which renews the one and repeats
the notice of the end. So no other move, and no waiting for sequences, makes any difference at all. -/
theorem ended_until_started (staging : Staging) {initial : State}
    (opened : State.opening staging.story = .ok initial) (happenings : List Happening)
    (ended : (initial.course staging happenings).position.mode = .ended) :
    let state := initial.course staging happenings
    (∀ further, .command .start ∉ further →
      Lingers state (state.course staging further) (stopsOf further)) ∧
    (∀ further, (state.course staging further).position.mode ≠ .ended → .command .start ∈ further) ∧
    (∀ move next reply, Makes staging state move next reply → move ≠ .command .start →
      move ≠ .command .stop → Undisturbed state next) ∧
    ∀ limit bound final report, state.settle staging limit bound = some (final, report) →
      Undisturbed state final := by
  intro state
  have steady : state.Steady staging.story := steady_course opened happenings
  have startDeclared := (initial_of_opening opened).2
  have lingers : ∀ further, .command .start ∉ further →
      Lingers state (state.course staging further) (stopsOf further) :=
    fun further unstarted => steady.lingers_course startDeclared unstarted ended
  refine ⟨lingers, ?_, ?_, ?_⟩
  · intro further goesOn
    apply Classical.byContradiction
    intro unstarted
    refine goesOn ?_
    rw [(lingers further unstarted).position]
    exact ended
  · intro move next reply makes notStart notStop
    rcases makes.command_or_along with ⟨told, rfl, rfl⟩ | along
    · have unstarted : Happening.command told ≠ .command .start :=
        fun same => notStart (congrArg Move.command (Happening.command.inj same))
      have unstopped : Happening.command told ≠ .command .stop :=
        fun same => notStop (congrArg Move.command (Happening.command.inj same))
      exact steady.undisturbed_after ended unstarted unstopped
    · exact steady.undisturbed_along startDeclared ended (along.weaken Happening.isUnbidden_of_isInner)
  · intro limit bound final report done
    exact steady.undisturbed_along startDeclared ended (along_settle done)

/-- The answer ends the story while the terminal is still busy showing the question, on behalf of a
sequence of the generation in force. When it is done with that, nothing comes of it. -/
theorem sample_ended :
    let asking : Sequence := ⟨"asking", [], [], some "name", none, .empty, false⟩
    let staging : Staging :=
      ⟨{ Story.sample with
          start := "asking"
          scenes :=
            [.sequence asking,
              .question ⟨"name", ⟨"name", "Name", none, none, none, false⟩,
                [⟨submitEvent, [], [], "end"⟩]⟩,
              .sequence ⟨"end", [], [], none, none, .empty, true⟩] }, .silent⟩
    let answered := (initial .empty).course staging
      [.turn .display false, .command .start, .step 0, .command (.submit "Bea")]
    let later := answered.course staging
      [.release .display 0, .step 0, .command .stop, .command (.submit "Ada"), .command .enter]
    answered.Performs 0 asking answered.position.generation (.presenting false) ∧
      answered.position.mode = .ended ∧ later.position.mode = .ended ∧
      later.position.generation = answered.position.generation + 1 ∧
      later.calls = answered.calls ++ [.changed (answered.position.current.getD "") .ended] ∧
      ∃ final, answered.settle staging (some 7) 5 = some (final, .timedOut) ∧
        final.position = answered.position ∧ final.calls = answered.calls := by
  intro asking staging answered later
  have opened : opening staging.story = .ok (initial .empty) := rfl
  have ended : answered.position.mode = .ended := by decide +kernel
  obtain ⟨lingers, -, -, settles⟩ := ended_until_started staging opened _ ended
  have lingered : Lingers answered later 1 := lingers _ (by decide)
  have gaveUp : (answered.settle staging (some 7) 5).map Prod.snd = some .timedOut := by
    decide +kernel
  obtain ⟨⟨final, report⟩, done, rfl⟩ := Option.map_eq_some_iff.mp gaveUp
  have undisturbed := settles _ _ final _ done
  refine ⟨?_, ended, ?_, ?_, lingered.calls, final, done, undisturbed.position, undisturbed.calls⟩
  · show answered.activities[0]? = _
    decide +kernel
  · rw [lingered.position]
    exact ended
  · rw [lingered.position]

end State

end NarrativePlayer.Session
