import NarrativePlayer.Proofs.Session.Frame
import NarrativePlayer.Proofs.Story.Lookup

/-!
Contract: all that entering a scene and taking a sequence further can do to a session.

Owns one inductive description of each: a constructor names one way in which the step can go, under
which conditions, and gives the state that comes out. Every invariant of sessions is a case analysis
of these and of what commands do. Entries of the journal appear as `notes` that hold no call.
-/

namespace NarrativePlayer.Session

/-- Entries of a trace among which there is no call. -/
def Silent (notes : List Event) : Prop :=
  ∀ event ∈ notes, event.isCall = false

theorem Silent.nil : Silent [] := by
  simp [Silent]

theorem Silent.journaled (staging : Staging) (category : Journal.Category) (level : Journal.Level)
    (message : String) : Silent (State.journaled staging category level message) :=
  fun _ member => State.not_isCall_of_mem_journaled member

theorem Silent.append {left right : List Event} (silentLeft : Silent left)
    (silentRight : Silent right) : Silent (left ++ right) := by
  intro event member
  rcases List.mem_append.mp member with inLeft | inRight
  · exact silentLeft event inLeft
  · exact silentRight event inRight

theorem Silent.filter_isCall {notes : List Event} (silent : Silent notes) :
    notes.filter Event.isCall = [] :=
  List.filter_eq_nil_iff.mpr fun event member => by simp [silent event member]

/-- What is picked from calls is not picked from entries among which there is no call. -/
theorem Silent.filterMap_eq_nil {α : Type} {pick : Event → Option α} {notes : List Event}
    (silent : Silent notes) (fromCalls : ∀ event, event.isCall = false → pick event = none) :
    notes.filterMap pick = [] :=
  List.filterMap_eq_nil_iff.mpr fun event member => fromCalls event (silent event member)

/-- What is picked from a trace, latest first, in the order of time. -/
theorem reverse_filterMap_cons {α : Type} (pick : Event → Option α) (event : Event) (trace : List Event) :
    ((event :: trace).filterMap pick).reverse = (trace.filterMap pick).reverse ++ (pick event).toList := by
  cases picked : pick event with
  | none => rw [List.filterMap_cons_none picked, Option.toList_none, List.append_nil]
  | some value => rw [List.filterMap_cons_some picked, List.reverse_cons, Option.toList_some]

theorem Silent.assignmentsJournaled (staging : Staging) (submitted : Option String)
    (actions : List Action) : Silent (State.assignmentsJournaled staging submitted actions) := by
  intro event member
  obtain ⟨assignment, -, here⟩ := List.mem_flatMap.mp member
  exact State.not_isCall_of_mem_journaled here

/-! ## Entering a scene -/

/-- What can come of entering a scene on behalf of the generation in force. -/
inductive Enters (staging : Staging) (id : String) (state : State) : State × Entrance → Prop
  | undeclared (absent : staging.story.find? id = none) :
      Enters staging id state (state, .failed (.undeclared id))
  | ends {body : Sequence} (found : staging.story.find? id = some (.sequence body))
      (terminal : body.terminal = true) {notes : List Event} (silent : Silent notes) :
      Enters staging id state
        ({ state with
            position := { state.position with mode := .ended, current := some id, pending := none }
            trace := .changed id .ended :: (notes ++ state.trace) },
          .made)
  | begins {body : Sequence} (found : staging.story.find? id = some (.sequence body))
      (goesOn : body.terminal = false) {notes later : List Event} (silent : Silent notes)
      (silentLater : Silent later) :
      Enters staging id state
        ({ state with
            position :=
              { mode := .running
                current := some id
                pending := state.position.pending
                store := applyActions none body.actions state.position.store
                generation := state.position.generation + 1 }
            activities :=
              state.activities ++ [.performance body (state.position.generation + 1) (.ready 0)]
            queue := state.queue ++ [state.activities.length]
            latest := some state.activities.length
            trace := later ++ .changed id .running :: (notes ++ state.trace) },
          .made)
  | asks {body : Question} (found : staging.story.find? id = some (.question body))
      {notes : List Event} (silent : Silent notes) :
      Enters staging id state
        ({ state with
            position := state.position.park .answer id
            trace :=
              .showInput body.field :: .changed id (.waiting .answer) :: (notes ++ state.trace) },
          if state.displayOpen then .made else .held)
  | offers {body : Choice} (found : staging.story.find? id = some (.choice body))
      {notes : List Event} (silent : Silent notes) :
      Enters staging id state
        ({ state with
            position := state.position.park .choice id
            trace :=
              .showChoices (Template.fill body.prompt state.position.store) body.offers ::
                .changed id (.waiting .choice) :: (notes ++ state.trace) },
          if state.displayOpen then .made else .held)

namespace State

theorem enters_enter (state : State) (staging : Staging) (id : String) :
    Enters staging id state (state.enter staging id state.position.generation) := by
  cases found : staging.story.find? id with
  | none =>
      simp only [enter, Story.find_of_none found]
      exact .undeclared found
  | some scene =>
      simp only [enter, Story.find_of_some found, note_eq, Position.isCurrent, decide_true,
        Bool.not_true, Bool.false_eq_true, if_false]
      split
      · rename_i terminal
        cases scene with
        | sequence body =>
            simp only [finish, place, announce_eq, ← List.append_assoc]
            exact .ends found terminal
              ((Silent.journaled _ _ _ _).append (Silent.journaled _ _ _ _))
        | question body => simp [Scene.isTerminal] at terminal
        | choice body => simp [Scene.isTerminal] at terminal
      · rename_i goesOn
        cases scene with
        | sequence body =>
            simp only [beginSequence, place, announce_eq, act_eq, spawn, Position.renew,
              ← List.append_assoc]
            exact .begins found (by simpa [Scene.isTerminal] using goesOn)
              ((Silent.journaled _ _ _ _).append (Silent.journaled _ _ _ _))
              (Silent.assignmentsJournaled _ _ _)
        | question body =>
            simp only [await, display, place, announce_eq, emit, ← List.append_assoc]
            exact .asks found ((Silent.journaled _ _ _ _).append (Silent.journaled _ _ _ _))
        | choice body =>
            simp only [await, display, place, announce_eq, emit, ← List.append_assoc]
            exact .offers found ((Silent.journaled _ _ _ _).append (Silent.journaled _ _ _ _))

end State

/-- Only an undeclared scene cannot be entered, and then nothing has happened. -/
theorem Enters.of_failed {staging : Staging} {id : String} {state entered : State} {trouble : Trouble}
    (enters : Enters staging id state (entered, .failed trouble)) :
    entered = state ∧ trouble = .undeclared id ∧ staging.story.find? id = none := by
  generalize outcome : (entered, Entrance.failed trouble) = result at enters
  cases enters with
  | undeclared absent =>
      cases outcome
      exact ⟨rfl, rfl, absent⟩
  | ends => cases outcome
  | begins => cases outcome
  | asks => split at outcome <;> cases outcome
  | offers => split at outcome <;> cases outcome

/-- What is held up when it is entered is no sequence. -/
theorem Enters.latest_of_held {staging : Staging} {id : String} {state entered : State}
    (enters : Enters staging id state (entered, .held)) : entered.latest = state.latest := by
  generalize outcome : (entered, Entrance.held) = result at enters
  cases enters with
  | undeclared => cases outcome
  | ends => cases outcome
  | begins => cases outcome
  | asks => rw [(Prod.mk.inj outcome).1]
  | offers => rw [(Prod.mk.inj outcome).1]

/-! ## Taking a sequence further -/

/-- What can come of taking a sequence one step further. -/
inductive Advances (staging : Staging) (sequence : Sequence) (generation : Nat) (state : State) :
    Stage → State × Stage → Prop
  | givesUp {index : Nat} (stale : state.position.generation ≠ generation) {notes : List Event}
      (silent : Silent notes) :
      Advances staging sequence generation state (.ready index)
        ({ state with trace := notes ++ state.trace }, .finished .succeeded)
  | givesUpPrinted {index : Nat} {line : Line} (stale : state.position.generation ≠ generation)
      (here : sequence.lines[index]? = some line) {notes : List Event} (silent : Silent notes) :
      Advances staging sequence generation state (.printing index true)
        ({ state with trace := notes ++ state.trace }, .finished .succeeded)
  | prints {index : Nat} {line : Line} (current : state.position.generation = generation)
      (here : sequence.lines[index]? = some line) (intact : state.faulty = false)
      {notes : List Event} (silent : Silent notes) :
      Advances staging sequence generation state (.ready index)
        ({ state with
            trace :=
              .print state.clock (Template.fill line.text state.position.store) line.instant
                line.speed :: (notes ++ state.trace) },
          .printing index state.printOpen)
  | breaksOff {index : Nat} {line : Line} (current : state.position.generation = generation)
      (here : sequence.lines[index]? = some line) (faulty : state.faulty = true)
      {notes : List Event} (silent : Silent notes) :
      Advances staging sequence generation state (.ready index)
        ({ state with faulty := false, trace := notes ++ state.trace }, .finished .brokenOff)
  | rests {index : Nat} {line : Line} (current : state.position.generation = generation)
      (here : sequence.lines[index]? = some line) (pause : 0 < line.delay) :
      Advances staging sequence generation state (.printing index true)
        (state, .resting index (state.clock + line.delay))
  | passes {index : Nat} {line : Line} (current : state.position.generation = generation)
      (here : sequence.lines[index]? = some line) (atOnce : line.delay = 0) :
      Advances staging sequence generation state (.printing index true) (state, .ready (index + 1))
  | skips {index : Nat} (beyond : sequence.lines[index]? = none) :
      Advances staging sequence generation state (.printing index true) (state, .ready (index + 1))
  | waits {index : Nat} (current : state.position.generation = generation)
      (beyond : sequence.lines[index]? = none) (awaited : sequence.awaits.isSome = true)
      {notes : List Event} (silent : Silent notes) :
      Advances staging sequence generation state (.ready index)
        ({ state with
            position := state.position.park .enter sequence.id
            trace := .changed sequence.id (.waiting .enter) :: (notes ++ state.trace) },
          .finished .succeeded)
  | ends {index : Nat} (current : state.position.generation = generation)
      (beyond : sequence.lines[index]? = none) (unawaited : sequence.awaits = none)
      (last : sequence.next = none) {notes : List Event} (silent : Silent notes) :
      Advances staging sequence generation state (.ready index)
        ({ state with
            position := { state.position with mode := .ended }
            trace := .changed sequence.id .ended :: (notes ++ state.trace) },
          .finished .succeeded)
  | leads {index : Nat} {target : String} {entered : State}
      (current : state.position.generation = generation)
      (beyond : sequence.lines[index]? = none) (unawaited : sequence.awaits = none)
      (next : sequence.next = some target) (enters : Enters staging target state (entered, .made)) :
      Advances staging sequence generation state (.ready index) (entered, .finished .succeeded)
  | presents {index : Nat} {target : String} {entered : State}
      (current : state.position.generation = generation)
      (beyond : sequence.lines[index]? = none) (unawaited : sequence.awaits = none)
      (next : sequence.next = some target) (enters : Enters staging target state (entered, .held)) :
      Advances staging sequence generation state (.ready index) (entered, .presenting false)
  | fails {index : Nat} {target : String} {entered : State} {trouble : Trouble}
      (current : state.position.generation = generation)
      (beyond : sequence.lines[index]? = none) (unawaited : sequence.awaits = none)
      (next : sequence.next = some target)
      (enters : Enters staging target state (entered, .failed trouble)) :
      Advances staging sequence generation state (.ready index)
        ({ entered with trace := .failed sequence.id trouble :: entered.trace },
          .finished (.failed trouble))
  | presented :
      Advances staging sequence generation state (.presenting true) (state, .finished .succeeded)
  | stays {stage : Stage} (stuck : (Activity.performance sequence generation stage).canGoOn = false) :
      Advances staging sequence generation state stage (state, stage)

namespace State

private theorem advances_beginLine (state : State) (staging : Staging) (sequence : Sequence)
    (generation : Nat) {index : Nat} {line : Line} (here : sequence.lines[index]? = some line) :
    Advances staging sequence generation state (.ready index)
      (state.beginLine staging sequence.id generation index line) := by
  simp only [beginLine, note_eq, Position.isCurrent, abandon, emit, Bool.not_eq_true',
    decide_eq_false_iff_not, ← List.append_assoc]
  split
  · rename_i stale
    exact .givesUp stale ((Silent.journaled _ _ _ _).append (Silent.journaled _ _ _ _))
  · rename_i notStale
    split
    · rename_i faulty
      exact .breaksOff (Decidable.not_not.mp notStale) here faulty (Silent.journaled _ _ _ _)
    · rename_i intact
      exact .prints (Decidable.not_not.mp notStale) here (Bool.not_eq_true _ ▸ intact)
        (Silent.journaled _ _ _ _)

private theorem advances_endLine (state : State) (staging : Staging) (sequence : Sequence)
    (generation : Nat) {index : Nat} {line : Line} (here : sequence.lines[index]? = some line) :
    Advances staging sequence generation state (.printing index true)
      (state.endLine staging sequence.id generation index line) := by
  simp only [endLine, note_eq, Position.isCurrent, abandon, Bool.not_eq_true',
    decide_eq_false_iff_not]
  split
  · rename_i stale
    exact .givesUpPrinted stale here (Silent.journaled _ _ _ _)
  · rename_i notStale
    split
    · rename_i pause
      exact .rests (Decidable.not_not.mp notStale) here pause
    · rename_i noPause
      exact .passes (Decidable.not_not.mp notStale) here (Nat.eq_zero_of_not_pos noPause)

private theorem advances_conclude (state : State) (staging : Staging) (sequence : Sequence)
    (generation : Nat) {index : Nat} (beyond : sequence.lines[index]? = none) :
    Advances staging sequence generation state (.ready index)
      (state.conclude staging generation sequence) := by
  simp only [conclude, note_eq, Position.isCurrent, abandon, Bool.not_eq_true',
    decide_eq_false_iff_not]
  split
  · rename_i stale
    exact .givesUp stale (Silent.journaled _ _ _ _)
  · rename_i notStale
    have current := Decidable.not_not.mp notStale
    split
    · rename_i awaited
      simp only [await, place, announce_eq]
      exact .waits current beyond awaited (Silent.journaled _ _ _ _)
    · rename_i notAwaited
      have unawaited : sequence.awaits = none := by simpa using notAwaited
      split
      · rename_i last
        simp only [place, announce_eq]
        exact .ends current beyond unawaited last (Silent.journaled _ _ _ _)
      · rename_i target next
        subst current
        have enters := state.enters_enter staging target
        split
        · rename_i entered made
          exact .leads rfl beyond unawaited next (made ▸ enters)
        · rename_i entered held
          exact .presents rfl beyond unawaited next (held ▸ enters)
        · rename_i entered trouble failed
          exact .fails rfl beyond unawaited next (failed ▸ enters)

theorem advances_perform (state : State) (staging : Staging) (sequence : Sequence)
    (generation : Nat) (stage : Stage) :
    Advances staging sequence generation state stage
      (state.perform staging sequence generation stage) := by
  unfold perform
  split
  · rename_i index
    split
    · rename_i line here
      exact state.advances_beginLine staging sequence generation here
    · rename_i beyond
      exact state.advances_conclude staging sequence generation beyond
  · rename_i index
    split
    · rename_i line here
      exact state.advances_endLine staging sequence generation here
    · rename_i beyond
      exact .skips beyond
  · exact .presented
  · rename_i notReady notPrinted notPresented
    refine .stays ?_
    cases stage with
    | ready index => exact absurd rfl (notReady index)
    | printing index released =>
        cases released with
        | true => exact absurd rfl (notPrinted index)
        | false => rfl
    | resting index due => rfl
    | presenting released =>
        cases released with
        | true => exact absurd rfl notPresented
        | false => rfl
    | finished outcome => rfl

end State

/-- What can come of an activity going on. -/
inductive GoesOn (staging : Staging) (state : State) (ticket : Nat) : State → Prop
  | performs {sequence : Sequence} {generation : Nat} {stage reached : Stage} {next : State}
      (here : state.activities[ticket]? = some (.performance sequence generation stage))
      (advances : Advances staging sequence generation state stage (next, reached)) :
      GoesOn staging state ticket (next.replace ticket (.performance sequence generation reached))
  | returns (here : state.activities[ticket]? = some (.call true false)) :
      GoesOn staging state ticket
        { state with
          activities := state.activities.set ticket (.call true true)
          trace := .done ticket :: state.trace }
  | rests
      (noPerformance : ∀ sequence generation stage,
        state.activities[ticket]? ≠ some (.performance sequence generation stage))
      (noReturn : state.activities[ticket]? ≠ some (.call true false)) :
      GoesOn staging state ticket state

theorem State.goesOn_goOn (state : State) (staging : Staging) (ticket : Nat) :
    GoesOn staging state ticket (state.goOn staging ticket) := by
  unfold State.goOn
  split
  · rename_i sequence generation stage here
    exact .performs here (state.advances_perform staging sequence generation stage)
  · rename_i here
    exact .returns here
  · rename_i noPerformance noReturn
    exact .rests noPerformance noReturn

/-- What a step of the schedule comes to: the activity at the head of the queue goes on or leaves the
queue, if there is one. -/
inductive Pumps (staging : Staging) (state : State) : State → Prop
  | idles (empty : state.queue = []) : Pumps staging state state
  | leaves {ticket : Nat} {rest : List Nat} (first : state.queue = ticket :: rest) :
      Pumps staging state { state with queue := rest }
  | goesOn {ticket : Nat} {rest : List Nat} {next : State} (first : state.queue = ticket :: rest)
      (goesOn : GoesOn staging state ticket next) : Pumps staging state next

theorem State.pumps_pump (state : State) (staging : Staging) :
    Pumps staging state (state.pump staging) := by
  unfold State.pump
  split
  · rename_i empty
    exact .idles empty
  · rename_i ticket rest first
    split
    · exact .leaves first
    · split
      · exact .goesOn first (state.goesOn_goOn staging ticket)
      · exact .leaves first

/-! ## No time passes -/

theorem Enters.clock_eq {staging : Staging} {id : String} {state : State} {result : State × Entrance}
    (enters : Enters staging id state result) : result.1.clock = state.clock := by
  cases enters <;> rfl

theorem Advances.clock_eq {staging : Staging} {sequence : Sequence} {generation : Nat} {state : State}
    {stage : Stage} {result : State × Stage}
    (advances : Advances staging sequence generation state stage result) :
    result.1.clock = state.clock := by
  cases advances with
  | leads current beyond unawaited next enters => exact enters.clock_eq
  | presents current beyond unawaited next enters => exact enters.clock_eq
  | fails current beyond unawaited next enters => exact enters.clock_eq
  | _ => rfl

theorem GoesOn.clock_eq {staging : Staging} {state next : State} {ticket : Nat}
    (goesOn : GoesOn staging state ticket next) : next.clock = state.clock := by
  cases goesOn with
  | performs here advances => exact advances.clock_eq
  | returns => rfl
  | rests => rfl

theorem State.clock_pump (state : State) (staging : Staging) :
    (state.pump staging).clock = state.clock := by
  have pumps := state.pumps_pump staging
  generalize state.pump staging = next at pumps ⊢
  cases pumps with
  | idles => rfl
  | leaves => rfl
  | goesOn first goesOn => exact goesOn.clock_eq

end NarrativePlayer.Session
