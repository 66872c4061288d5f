import NarrativePlayer.Proofs.Session.Effects
import NarrativePlayer.Session.Command

/-!
Contract: all that a command can do to a session.

Owns one inductive description: a constructor names one way in which a command can be taken, under
which conditions, and gives the state and the reply that come out. A command that is waited for opens
a way out of the scene that is waited with, and `Leaves` says which; the rest ends at that scene.
-/

namespace NarrativePlayer.Session

/-- The interaction that a command answers. -/
def Command.interaction? : Command → Option Interaction
  | .start => none
  | .stop => none
  | .submit _ => some .answer
  | .choose _ => some .choice
  | .enter => some .enter

/-- The ways that commands open out of the scene that is waited with: the value that is submitted, the
actions, and the target. -/
inductive Leaves (story : Story) (position : Position) :
    Command → Option String → List Action → String → Prop
  | submitted {raw id : String} {question : Question} {transition : Transition}
      (awaited : position.pendingFor? .answer = some id)
      (found : story.find? id = some (.question question))
      (taken : question.submission? = some transition)
      (passed : complaint? transition.guards (question.field.normalize raw) = none) :
      Leaves story position (.submit raw) (some (question.field.normalize raw)) transition.actions
        transition.target
  | chosen {offer id : String} {choice : Choice} {option : Offer}
      (awaited : position.pendingFor? .choice = some id)
      (found : story.find? id = some (.choice choice))
      (taken : choice.offer? offer = some option) :
      Leaves story position (.choose offer) none option.actions option.target
  | acknowledged {id target : String} {sequence : Sequence}
      (awaited : position.pendingFor? .enter = some id)
      (found : story.find? id = some (.sequence sequence))
      (taken : sequence.events.find? enterEvent = some target) :
      Leaves story position .enter none [] target

/-- The commands that are ignored. -/
inductive Ignores (story : Story) (position : Position) : Command → Prop
  | unawaited {command : Command} {interaction : Interaction}
      (answers : command.interaction? = some interaction)
      (elsewhere : position.pendingFor? interaction = none) : Ignores story position command
  | noSubmission {raw id : String} {question : Question}
      (awaited : position.pendingFor? .answer = some id)
      (found : story.find? id = some (.question question))
      (none : question.submission? = none) : Ignores story position (.submit raw)
  | unknownOffer {offer id : String} {choice : Choice}
      (awaited : position.pendingFor? .choice = some id)
      (found : story.find? id = some (.choice choice))
      (none : choice.offer? offer = none) : Ignores story position (.choose offer)

/-- A scene as what an interaction needs it to be. -/
def Interaction.Fits : Interaction → Scene → Prop
  | .answer, .question _ => True
  | .choice, .choice _ => True
  | .enter, .sequence _ => True
  | _, _ => False

/-- The calls with which a command clears the way to the next scene. -/
def Command.clearing : Command → List Event
  | .enter => []
  | _ => [.clear]

theorem Command.clearing_cases (command : Command) :
    command.clearing = [] ∨ command.clearing = [.clear] := by
  cases command with
  | enter => exact .inl rfl
  | _ => exact .inr rfl

/-- What can come of obeying a command. -/
inductive Obeys (staging : Staging) (state : State) : Command → State × Reply → Prop
  | starts {notes : List Event} (silent : Silent notes) {result : State × Entrance}
      (enters : Enters staging staging.story.start
        { state with
          position := state.position.release.renew
          trace := .clear :: (notes ++ state.trace) } result) :
      Obeys staging state .start (State.reply result)
  | stops {notes : List Event} (silent : Silent notes) :
      Obeys staging state .stop
        ({ state with
            position := { state.position.release.renew with mode := .ended }
            trace := .changed (state.position.current.getD "") .ended :: (notes ++ state.trace) },
          .done)
  | ignores {command : Command} (ignored : Ignores staging.story state.position command)
      {notes : List Event} (silent : Silent notes) :
      Obeys staging state command ({ state with trace := notes ++ state.trace }, .done)
  | misfits {command : Command} {interaction : Interaction} {id : String}
      (answers : command.interaction? = some interaction)
      (awaited : state.position.pendingFor? interaction = some id)
      (unfit : ∀ scene, staging.story.find? id = some scene → ¬ interaction.Fits scene)
      (trouble : Trouble) :
      Obeys staging state command (state, .failed trouble)
  | rejects {raw id message : String} {question : Question} {transition : Transition}
      (awaited : state.position.pendingFor? .answer = some id)
      (found : staging.story.find? id = some (.question question))
      (taken : question.submission? = some transition)
      (complaint : complaint? transition.guards (question.field.normalize raw) = some message)
      {notes : List Event} (silent : Silent notes) :
      Obeys staging state (.submit raw)
        ({ state with trace := .invalid message :: (notes ++ state.trace) }, .done)
  | refuses {command : Command} {submitted : Option String} {actions : List Action} {target : String}
      (leaves : Leaves staging.story state.position command submitted actions target)
      (absent : staging.story.find? target = none) :
      Obeys staging state command (state, .failed (.undeclared target))
  | moves {command : Command} {submitted : Option String} {actions : List Action} {target : String}
      (leaves : Leaves staging.story state.position command submitted actions target)
      {scene : Scene} (found : staging.story.find? target = some scene) {notes : List Event}
      (silent : Silent notes) {result : State × Entrance}
      (enters : Enters staging target
        { state with
          position :=
            { state.position.release with
              store := applyActions submitted actions state.position.store }
          trace := command.clearing ++ (notes ++ state.trace) } result) :
      Obeys staging state command (State.reply result)
  | closes {id : String} {sequence : Sequence}
      (awaited : state.position.pendingFor? .enter = some id)
      (found : staging.story.find? id = some (.sequence sequence))
      (noWay : sequence.events.find? enterEvent = none) {notes : List Event}
      (silent : Silent notes) :
      Obeys staging state .enter
        ({ state with
            position := { state.position.release with mode := .ended }
            trace := .changed id .ended :: (notes ++ state.trace) },
          .done)

namespace State

private theorem obeys_follow (state : State) (staging : Staging) {command : Command}
    {submitted : Option String} {actions : List Action} {target : String}
    (clears : command.clearing = [.clear])
    (leaves : Leaves staging.story state.position command submitted actions target) :
    Obeys staging state command (state.follow staging submitted actions target) := by
  cases found : staging.story.find? target with
  | none =>
      simp only [follow, Story.find_of_none found]
      exact .refuses leaves found
  | some scene =>
      simp only [follow, Story.find_of_some found]
      refine .moves leaves found (Silent.assignmentsJournaled staging submitted actions) ?_
      rw [clears]
      simpa only [act_eq, place, emit, Position.release, List.singleton_append] using
        (((state.act staging submitted actions).place
          (state.act staging submitted actions).position.release).emit .clear).enters_enter
            staging target

private theorem obeys_start (state : State) (staging : Staging) :
    Obeys staging state .start (state.start staging) := by
  refine .starts (Silent.journaled staging .engine .info
    s!"[Start] story '{staging.story.id}' v{staging.story.version} at '{staging.story.start}'") ?_
  simpa only [note_eq, place, emit] using
    (((state.place state.position.release.renew).note staging .engine .info
      s!"[Start] story '{staging.story.id}' v{staging.story.version} at '{staging.story.start}'").emit
        .clear).enters_enter staging staging.story.start

private theorem obeys_submit (state : State) (staging : Staging) (raw : String) :
    Obeys staging state (.submit raw) (state.submit staging raw) := by
  unfold submit
  split
  · rename_i elsewhere
    simp only [ignore, note_eq]
    exact .ignores (.unawaited rfl elsewhere) (Silent.journaled _ _ _ _)
  · rename_i id awaited
    cases found : staging.story.find? id with
    | none =>
        simp only [Story.find_of_none found]
        exact .misfits rfl awaited (by simp [found]) _
    | some scene =>
        simp only [Story.find_of_some found]
        cases scene with
        | sequence body => exact .misfits rfl awaited (by simp [found, Interaction.Fits]) _
        | choice body => exact .misfits rfl awaited (by simp [found, Interaction.Fits]) _
        | question body =>
            have fits : (Except.ok (Scene.question body) >>= Scene.asQuestion) = .ok body := rfl
            simp only [fits]
            split
            · rename_i noSubmission
              simp only [ignore, note_eq]
              exact .ignores (.noSubmission awaited found noSubmission) (Silent.journaled _ _ _ _)
            · rename_i transition taken
              split
              · rename_i message complaint
                simp only [note_eq, emit]
                exact .rejects awaited found taken complaint (Silent.journaled _ _ _ _)
              · rename_i passed
                exact state.obeys_follow staging rfl (.submitted awaited found taken passed)

private theorem obeys_choose (state : State) (staging : Staging) (offer : String) :
    Obeys staging state (.choose offer) (state.choose staging offer) := by
  unfold choose
  split
  · rename_i elsewhere
    simp only [ignore, note_eq]
    exact .ignores (.unawaited rfl elsewhere) (Silent.journaled _ _ _ _)
  · rename_i id awaited
    cases found : staging.story.find? id with
    | none =>
        simp only [Story.find_of_none found]
        exact .misfits rfl awaited (by simp [found]) _
    | some scene =>
        simp only [Story.find_of_some found]
        cases scene with
        | sequence body => exact .misfits rfl awaited (by simp [found, Interaction.Fits]) _
        | question body => exact .misfits rfl awaited (by simp [found, Interaction.Fits]) _
        | choice body =>
            have fits : (Except.ok (Scene.choice body) >>= Scene.asChoice) = .ok body := rfl
            simp only [fits]
            split
            · rename_i unknown
              simp only [ignore, note_eq]
              exact .ignores (.unknownOffer awaited found unknown) (Silent.journaled _ _ _ _)
            · rename_i chosen taken
              exact state.obeys_follow staging rfl (.chosen awaited found taken)

private theorem obeys_acknowledge (state : State) (staging : Staging) :
    Obeys staging state .enter (state.acknowledge staging) := by
  unfold acknowledge
  split
  · rename_i elsewhere
    simp only [ignore, note_eq]
    exact .ignores (.unawaited rfl elsewhere) (Silent.journaled _ _ _ _)
  · rename_i id awaited
    cases found : staging.story.find? id with
    | none =>
        simp only [Story.find_of_none found]
        exact .misfits rfl awaited (by simp [found]) _
    | some scene =>
        simp only [Story.find_of_some found]
        cases scene with
        | question body => exact .misfits rfl awaited (by simp [found, Interaction.Fits]) _
        | choice body => exact .misfits rfl awaited (by simp [found, Interaction.Fits]) _
        | sequence body =>
            have fits : (Except.ok (Scene.sequence body) >>= Scene.asSequence) = .ok body := rfl
            simp only [fits]
            split
            · rename_i target taken
              have leaves := Leaves.acknowledged awaited found taken
              cases declared : staging.story.find? target with
              | none =>
                  simp only [Story.find_of_none declared]
                  exact .refuses leaves declared
              | some scene =>
                  simp only [Story.find_of_some declared]
                  exact .moves leaves declared Silent.nil
                    ((state.place state.position.release).enters_enter staging target)
            · rename_i noWay
              simp only [note_eq, place, announce_eq, ← List.append_assoc]
              exact .closes awaited found noWay
                ((Silent.journaled _ _ _ _).append (Silent.journaled _ _ _ _))

theorem obeys_execute (state : State) (staging : Staging) (command : Command) :
    Obeys staging state command (state.execute staging command) := by
  cases command with
  | start => exact state.obeys_start staging
  | stop =>
      simp only [execute, stop, note_eq, place, announce_eq, ← List.append_assoc]
      exact .stops ((Silent.journaled _ _ _ _).append (Silent.journaled _ _ _ _))
  | submit answer => exact state.obeys_submit staging answer
  | choose offer => exact state.obeys_choose staging offer
  | enter => exact state.obeys_acknowledge staging

end State

/-- A start is never ignored, and refuses nothing by itself. -/
theorem Obeys.of_start {staging : Staging} {state : State} {result : State × Reply}
    (obeys : Obeys staging state .start result) :
    ∃ notes entered, Silent notes ∧ result = State.reply entered ∧
      Enters staging staging.story.start
        { state with
          position := state.position.release.renew
          trace := .clear :: (notes ++ state.trace) } entered := by
  cases obeys with
  | starts silent enters => exact ⟨_, _, silent, rfl, enters⟩
  | ignores ignored =>
      cases ignored with
      | unawaited answers => cases answers
  | misfits answers => cases answers
  | refuses leaves => cases leaves
  | moves leaves => cases leaves

theorem Obeys.of_stop {staging : Staging} {state : State} {result : State × Reply}
    (obeys : Obeys staging state .stop result) :
    ∃ notes, Silent notes ∧ result =
      ({ state with
          position := { state.position.release.renew with mode := .ended }
          trace := .changed (state.position.current.getD "") .ended :: (notes ++ state.trace) },
        .done) := by
  cases obeys with
  | stops silent => exact ⟨_, silent, rfl⟩
  | ignores ignored =>
      cases ignored with
      | unawaited answers => cases answers
  | misfits answers => cases answers
  | refuses leaves => cases leaves
  | moves leaves => cases leaves

end NarrativePlayer.Session
