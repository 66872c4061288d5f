import NarrativePlayer.Proofs.Session.SequenceOrder

/-!
Contract: what a session waits for.

Owns the invariant that the mode, the current scene and the awaited interaction stay in step, and that
the awaited scene is declared and of the kind that the interaction needs. It does not stand alone: a
sequence that ends the story, or leads on, takes no interaction back, so it has to be known that nothing
is waited for while the sequence in force is under way.
-/

namespace NarrativePlayer.Session

/-- Whether an interaction is what a scene is left with. -/
def Interaction.IsOfferedBy : Interaction → Scene → Prop
  | .answer, .question _ => True
  | .choice, .choice _ => True
  | .enter, .sequence body => body.terminal = false ∧ body.awaits.isSome = true
  | _, _ => False

theorem Interaction.IsOfferedBy.fits {interaction : Interaction} {scene : Scene}
    (offered : interaction.IsOfferedBy scene) : interaction.Fits scene := by
  cases interaction <;> cases scene <;> trivial

namespace Position

theorem pending_of_pendingFor? {position : Position} {interaction : Interaction} {id : String}
    (awaited : position.pendingFor? interaction = some id) :
    position.pending = some ⟨interaction, id⟩ := by
  unfold pendingFor? at awaited
  split at awaited
  · rename_i pending here
    split at awaited
    · rename_i same
      cases awaited
      rw [here, ← same]
    · cases awaited
  · cases awaited

/-- Mode, current scene and awaited interaction are in step. -/
structure Coherent (story : Story) (position : Position) : Prop where
  inStep : position.pending.isSome = position.mode.isWaiting
  awaited : ∀ {pending}, position.pending = some pending →
    position.mode = .waiting pending.interaction ∧ position.current = some pending.scene ∧
      ∃ scene, story.find? pending.scene = some scene ∧ pending.interaction.IsOfferedBy scene

theorem coherent_of_unawaited {story : Story} {position : Position}
    (nothing : position.pending = none) (elsewhere : position.mode.isWaiting = false) :
    position.Coherent story where
  inStep := by rw [nothing, elsewhere]; rfl
  awaited here := by
    rw [nothing] at here
    cases here

theorem coherent_park {story : Story} {interaction : Interaction} {id : String} {scene : Scene}
    (position : Position) (found : story.find? id = some scene)
    (offered : interaction.IsOfferedBy scene) : (position.park interaction id).Coherent story where
  inStep := rfl
  awaited here := by
    cases here
    exact ⟨rfl, rfl, scene, found, offered⟩

theorem Coherent.pending_eq_none {story : Story} {position : Position}
    (coherent : position.Coherent story) (elsewhere : position.mode.isWaiting = false) :
    position.pending = none := by
  have unawaited := coherent.inStep
  rw [elsewhere] at unawaited
  simpa using unawaited

/-- What is awaited is what the scene that is waited with needs. -/
theorem Coherent.fits {story : Story} {position : Position} (coherent : position.Coherent story)
    {interaction : Interaction} {id : String}
    (awaited : position.pendingFor? interaction = some id) :
    ∃ scene, story.find? id = some scene ∧ interaction.Fits scene := by
  obtain ⟨-, -, scene, found, offered⟩ := coherent.awaited (pending_of_pendingFor? awaited)
  exact ⟨scene, found, offered.fits⟩

end Position

theorem Enters.not_failed {staging : Staging} {id : String} {state : State}
    {result : State × Entrance} (enters : Enters staging id state result)
    (declared : staging.story.declares id = true) (trouble : Trouble) :
    result.2 ≠ .failed trouble := by
  intro failed
  obtain ⟨entered, entrance⟩ := result
  cases failed
  obtain ⟨-, -, absent⟩ := enters.of_failed
  obtain ⟨scene, found⟩ := Story.exists_find?_of_declares declared
  rw [absent] at found
  cases found

/-- Nor does the command fail by which a declared scene is entered. -/
theorem Enters.reply_not_failed {staging : Staging} {id : String} {state : State}
    {result : State × Entrance} (enters : Enters staging id state result)
    (declared : staging.story.declares id = true) (trouble : Trouble) :
    (State.reply result).2 ≠ .failed trouble := by
  obtain ⟨entered, entrance⟩ := result
  cases entrance with
  | made => simp [State.reply]
  | held => simp [State.reply]
  | failed other => exact absurd rfl (enters.not_failed declared other)

/-- A scene that is entered while nothing is waited for leaves the position coherent. -/
theorem Enters.coherent {staging : Staging} {id : String} {state : State} {result : State × Entrance}
    (enters : Enters staging id state result) (unfailed : ∀ trouble, result.2 ≠ .failed trouble)
    (nothing : state.position.pending = none) : result.1.position.Coherent staging.story := by
  cases enters with
  | undeclared => exact absurd rfl (unfailed _)
  | ends => exact Position.coherent_of_unawaited rfl rfl
  | begins => exact Position.coherent_of_unawaited nothing rfl
  | asks found => exact Position.coherent_park state.position found trivial
  | offers found => exact Position.coherent_park state.position found trivial

/-- What a command leaves by is waited for. -/
theorem Leaves.exists_pending {story : Story} {position : Position} {command : Command}
    {submitted : Option String} {actions : List Action} {target : String}
    (leaves : Leaves story position command submitted actions target) :
    ∃ pending, position.pending = some pending := by
  cases leaves with
  | submitted awaited => exact ⟨_, Position.pending_of_pendingFor? awaited⟩
  | chosen awaited => exact ⟨_, Position.pending_of_pendingFor? awaited⟩
  | acknowledged awaited => exact ⟨_, Position.pending_of_pendingFor? awaited⟩

/-- What a command leaves to is a successor of the scene that it leaves. -/
theorem Leaves.mentions {story : Story} {position : Position} {command : Command}
    {submitted : Option String} {actions : List Action} {target : String}
    (leaves : Leaves story position command submitted actions target) : story.Mentions target := by
  cases leaves with
  | submitted awaited found taken =>
      exact .inr ⟨_, _, found, target_mem_successors_of_submission taken⟩
  | chosen awaited found taken => exact .inr ⟨_, _, found, target_mem_successors_of_offer taken⟩
  | acknowledged awaited found taken =>
      exact .inr ⟨_, _, found, target_mem_successors_of_event taken⟩

/-- Whether a sequence has its end still before it. -/
def Stage.isUnderWay : Stage → Bool
  | .ready _ => true
  | .printing _ _ => true
  | .resting _ _ => true
  | .presenting _ => false
  | .finished _ => false

/-- Whether a sequence has not decided what follows its last line. One that the terminal broke down for
never will. -/
def Stage.isUndecided : Stage → Bool
  | .finished .brokenOff => true
  | stage => stage.isUnderWay

theorem Stage.isUndecided_of_isUnderWay {stage : Stage} (underWay : stage.isUnderWay = true) :
    stage.isUndecided = true := by
  cases stage with
  | finished outcome => cases underWay
  | _ => exact underWay

namespace State

@[simp] theorem position_reply (result : State × Entrance) :
    (reply result).1.position = result.1.position := by
  obtain ⟨entered, entrance⟩ := result
  cases entrance <;> rfl

theorem trace_reply (result : State × Entrance) : (reply result).1.trace = result.1.trace := by
  obtain ⟨entered, entrance⟩ := result
  cases entrance <;> rfl

/-- A sequence that is under way was under way before, or has been begun. -/
theorem Performs.underWay_before {staging : Staging} {state : State} {happening : Happening}
    {ticket : Nat} {sequence : Sequence} {generation : Nat} {stage : Stage}
    (performs : (state.after staging happening).Performs ticket sequence generation stage)
    (underWay : stage.isUnderWay = true) :
    (∃ earlier, state.Performs ticket sequence generation earlier ∧ earlier.isUnderWay = true) ∨
      ticket = state.activities.length := by
  cases arises_after state staging happening performs with
  | kept here => exact .inl ⟨stage, here, underWay⟩
  | begun _ _ new => exact .inr new
  | advanced here advances =>
      refine .inl ⟨_, here, ?_⟩
      cases advances with
      | prints => rfl
      | rests => rfl
      | passes => rfl
      | skips => rfl
      | stays => exact underWay
      | _ => cases underWay
  | released here released =>
      rcases before_of_released? released with ⟨index, rfl, -⟩ | ⟨-, rfl⟩
      · exact .inl ⟨_, here, rfl⟩
      · cases underWay
  | awakened here awakened =>
      obtain ⟨index, due, rfl, -⟩ := before_of_awakened? awakened
      exact .inl ⟨_, here, rfl⟩
  | broken down here broken =>
      obtain ⟨-, rfl⟩ := before_of_broken? broken
      cases underWay

/-- The position is coherent, and belongs to the sequence in force while that is under way. -/
structure Steady (story : Story) (state : State) : Prop where
  orderly : state.Orderly story
  coherent : state.position.Coherent story
  underWay : ∀ {ticket sequence stage},
    state.Performs ticket sequence state.position.generation stage → stage.isUnderWay = true →
      state.position.mode = .running ∧ state.position.current = some sequence.id

theorem Steady.pending_eq_none {story : Story} {state : State} (steady : state.Steady story)
    {ticket : Nat} {sequence : Sequence} {stage : Stage}
    (performs : state.Performs ticket sequence state.position.generation stage)
    (underWay : stage.isUnderWay = true) : state.position.pending = none := by
  have running := (steady.underWay performs underWay).1
  exact steady.coherent.pending_eq_none (by rw [running]; rfl)

/-- Where something is waited for, it is known with which scene, and the scene is of that kind. -/
theorem Steady.exists_pending {story : Story} {state : State} (steady : state.Steady story)
    {interaction : Interaction} (mode : state.position.mode = .waiting interaction) :
    ∃ id scene, state.position.pending = some ⟨interaction, id⟩ ∧ state.position.current = some id ∧
      story.find? id = some scene ∧ interaction.IsOfferedBy scene := by
  have isAwaited : state.position.pending.isSome = true := by
    rw [steady.coherent.inStep, mode]
    rfl
  obtain ⟨⟨other, id⟩, pending⟩ := Option.isSome_iff_exists.mp isAwaited
  obtain ⟨modeToo, current, scene, found, offered⟩ := steady.coherent.awaited pending
  obtain rfl : interaction = other := Mode.waiting.inj (mode.symm.trans modeToo)
  exact ⟨id, scene, pending, current, found, offered⟩

/-! ## Commands -/

theorem Steady.coherent_command {staging : Staging} {state : State}
    (steady : state.Steady staging.story)
    (startDeclared : staging.story.declares staging.story.start = true) {command : Command}
    {result : State × Reply} (obeys : Obeys staging state command result) :
    result.1.position.Coherent staging.story := by
  cases obeys with
  | starts silent enters =>
      rw [position_reply]
      exact enters.coherent (enters.not_failed startDeclared) rfl
  | stops => exact Position.coherent_of_unawaited rfl rfl
  | ignores => exact steady.coherent
  | misfits => exact steady.coherent
  | rejects => exact steady.coherent
  | refuses => exact steady.coherent
  | moves leaves found silent enters =>
      rw [position_reply]
      exact enters.coherent (enters.not_failed (Story.declares_of_find? found)) rfl
  | closes => exact Position.coherent_of_unawaited rfl rfl

/-- While nothing is waited for, a command leaves the position alone or begins a generation. -/
theorem position_eq_of_unawaited {staging : Staging} {state : State} {command : Command}
    {result : State × Reply} (obeys : Obeys staging state command result)
    (nothing : state.position.pending = none) :
    result.1.position = state.position ∨
      state.position.generation < result.1.position.generation := by
  cases obeys with
  | starts silent enters =>
      obtain ⟨added, begun, -⟩ := enters.begun
      rw [position_reply]
      exact .inr begun.le
  | stops => exact .inr (Nat.lt_succ_self _)
  | ignores => exact .inl rfl
  | misfits => exact .inl rfl
  | rejects => exact .inl rfl
  | refuses => exact .inl rfl
  | moves leaves =>
      obtain ⟨pending, here⟩ := leaves.exists_pending
      rw [nothing] at here
      cases here
  | closes awaited =>
      have here := Position.pending_of_pendingFor? awaited
      rw [nothing] at here
      cases here

/-! ## Sequences -/

theorem Steady.coherent_advance {staging : Staging} {state next : State}
    (steady : state.Steady staging.story) {ticket : Nat} {sequence : Sequence} {generation : Nat}
    {stage reached : Stage} (performs : state.Performs ticket sequence generation stage)
    (advances : Advances staging sequence generation state stage (next, reached)) :
    next.position.Coherent staging.story := by
  have unawaited : ∀ {index}, stage = .ready index → state.position.generation = generation →
      state.position.pending = none := by
    intro index ready current
    subst ready
    rw [← current] at performs
    exact steady.pending_eq_none performs rfl
  cases advances with
  | waits _ _ awaited =>
      obtain ⟨found, goesOn⟩ := steady.orderly.declared performs
      exact Position.coherent_park state.position found ⟨goesOn, awaited⟩
  | ends current => exact Position.coherent_of_unawaited (unawaited rfl current) rfl
  | leads current _ _ _ enters =>
      exact enters.coherent (by simp) (unawaited rfl current)
  | presents current _ _ _ enters =>
      exact enters.coherent (by simp) (unawaited rfl current)
  | fails _ _ _ _ enters =>
      obtain ⟨rfl, -, -⟩ := enters.of_failed
      exact steady.coherent
  | _ => exact steady.coherent

/-- While the sequence in force is undecided after a step, the step leaves the position alone. -/
theorem Steady.position_goOn {staging : Staging} {state : State} (steady : state.Steady staging.story)
    {stepped ticket : Nat} {sequence : Sequence} {earlier stage : Stage}
    (before : state.Performs ticket sequence state.position.generation earlier)
    (performs : (state.goOn staging stepped).Performs ticket sequence state.position.generation stage)
    (undecided : stage.isUndecided = true) :
    (state.goOn staging stepped).position = state.position := by
  have goesOn := state.goesOn_goOn staging stepped
  generalize state.goOn staging stepped = later at goesOn performs ⊢
  cases goesOn with
  | @performs other generation since reached next here advances =>
      -- Only the sequence in force changes the position, and only when it is over.
      have stillUndecided : state.position.generation = generation → reached.isUndecided = true := by
        intro current
        subst current
        have same := steady.orderly.apart here before
        subst same
        have equal := eq_of_getElem?_set performs
        simp only [Activity.performance.injEq] at equal
        rw [← equal.2.2]
        exact undecided
      cases advances with
      | waits current => exact absurd (stillUndecided current) (by decide)
      | ends current => exact absurd (stillUndecided current) (by decide)
      | leads current => exact absurd (stillUndecided current) (by decide)
      | presents current => exact absurd (stillUndecided current) (by decide)
      | fails current => exact absurd (stillUndecided current) Bool.false_ne_true
      | _ => rfl
  | returns => rfl
  | rests => rfl

/-! ## Courses -/

theorem Steady.coherent_after {staging : Staging} {state : State}
    (steady : state.Steady staging.story)
    (startDeclared : staging.story.declares staging.story.start = true) (happening : Happening) :
    (state.after staging happening).position.Coherent staging.story := by
  cases happening with
  | command command => exact steady.coherent_command startDeclared (state.obeys_execute staging command)
  | step ticket =>
      show (state.goOn staging ticket).position.Coherent staging.story
      have goesOn := state.goesOn_goOn staging ticket
      generalize state.goOn staging ticket = later at goesOn ⊢
      cases goesOn with
      | @performs _ _ _ _ next here advances =>
          show next.position.Coherent staging.story
          exact steady.coherent_advance here advances
      | returns => exact steady.coherent
      | rests => exact steady.coherent
  | turn gate opened => cases gate <;> exact steady.coherent
  | _ => exact steady.coherent

theorem Steady.position_after {staging : Staging} {state : State}
    (steady : state.Steady staging.story) {happening : Happening} {ticket : Nat}
    {sequence : Sequence} {earlier stage : Stage}
    (before : state.Performs ticket sequence state.position.generation earlier)
    (nothing : state.position.pending = none)
    (performs : (state.after staging happening).Performs ticket sequence
      state.position.generation stage)
    (undecided : stage.isUndecided = true)
    (inForce : (state.after staging happening).position.generation = state.position.generation) :
    (state.after staging happening).position = state.position := by
  cases happening with
  | command command =>
      rcases position_eq_of_unawaited (state.obeys_execute staging command) nothing with same | newer
      · exact same
      · exact absurd inForce (Nat.ne_of_gt newer)
  | step stepped => exact steady.position_goOn before performs undecided
  | turn gate opened => cases gate <;> rfl
  | _ => rfl

theorem Steady.after {staging : Staging} {state : State} (steady : state.Steady staging.story)
    (startDeclared : staging.story.declares staging.story.start = true) (happening : Happening) :
    (state.after staging happening).Steady staging.story where
  orderly := steady.orderly.after happening
  coherent := steady.coherent_after startDeclared happening
  underWay := by
    intro ticket sequence stage performs underWay
    rcases performs.underWay_before underWay with ⟨earlier, before, underWayBefore⟩ | new
    · have notBefore := state.generation_le_after staging happening
      have notAhead := steady.orderly.notAhead before
      have inForce : (state.after staging happening).position.generation = state.position.generation :=
        Nat.le_antisymm notAhead notBefore
      rw [inForce] at before performs
      have nothing := steady.pending_eq_none before underWayBefore
      have undecided := Stage.isUndecided_of_isUnderWay underWay
      rw [steady.position_after before nothing performs undecided inForce]
      exact steady.underWay before underWayBefore
    · rcases performs.before_or_begun with ⟨earlier, before⟩ | ⟨-, -, -, -, -, -, running, here⟩
      · have inside := (List.getElem?_eq_some_iff.mp before).1
        omega
      · exact ⟨running, here⟩

theorem steady_of_opening {story : Story} {state : State} (opened : opening story = .ok state) :
    state.Steady story := by
  refine ⟨orderly_of_opening opened, ?_, ?_⟩
  · obtain ⟨rfl, -⟩ := initial_of_opening opened
    exact Position.coherent_of_unawaited rfl rfl
  · obtain ⟨rfl, -⟩ := initial_of_opening opened
    intro ticket sequence stage performs
    cases performs

theorem Steady.of_reaches {staging : Staging} {state later : State}
    (steady : state.Steady staging.story)
    (startDeclared : staging.story.declares staging.story.start = true)
    (reaches : Reaches staging state later) : later.Steady staging.story := by
  obtain ⟨happenings, rfl⟩ := reaches
  exact course_induction (fun _ happening held => held.after startDeclared happening) steady
    happenings

theorem steady_course {staging : Staging} {initial : State}
    (opened : opening staging.story = .ok initial) (happenings : List Happening) :
    (initial.course staging happenings).Steady staging.story :=
  (steady_of_opening opened).of_reaches (initial_of_opening opened).2 ⟨happenings, rfl⟩

/-! ## Troubles -/

/-- The trouble of being led to an id that is not declared. -/
def LedAstray (story : Story) (trouble : Trouble) : Prop :=
  ∃ target, trouble = .undeclared target ∧ story.find? target = none ∧ story.Mentions target

theorem ledAstray_of_reply {staging : Staging} {id : String} {state : State}
    {result : State × Entrance} {trouble : Trouble} (mentioned : staging.story.Mentions id)
    (enters : Enters staging id state result) (failed : (reply result).2 = .failed trouble) :
    LedAstray staging.story trouble := by
  obtain ⟨entered, entrance⟩ := result
  cases entrance with
  | made => cases failed
  | failed other =>
      cases failed
      obtain ⟨-, equal, absent⟩ := enters.of_failed
      exact ⟨id, equal, absent, mentioned⟩
  | held => cases failed

theorem Steady.ledAstray_of_command {staging : Staging} {state : State}
    (steady : state.Steady staging.story) {command : Command} {trouble : Trouble}
    (failed : (state.execute staging command).2 = .failed trouble) :
    LedAstray staging.story trouble := by
  have obeys := state.obeys_execute staging command
  generalize state.execute staging command = result at obeys failed
  cases obeys with
  | starts silent enters => exact ledAstray_of_reply (.inl rfl) enters failed
  | stops => cases failed
  | ignores => cases failed
  | misfits answers awaited unfit =>
      obtain ⟨scene, found, fits⟩ := steady.coherent.fits awaited
      exact absurd fits (unfit scene found)
  | rejects => cases failed
  | refuses leaves absent =>
      cases failed
      exact ⟨_, rfl, absent, leaves.mentions⟩
  | moves leaves found silent enters => exact ledAstray_of_reply leaves.mentions enters failed
  | closes => cases failed

theorem Orderly.ledAstray_of_outcome {story : Story} {state : State} (orderly : state.Orderly story)
    {ticket : Nat} {trouble : Trouble} (isOver : state.outcome? ticket = some (.failed trouble)) :
    LedAstray story trouble := by
  obtain ⟨sequence, generation, performs⟩ := performs_of_outcome? isOver
  obtain ⟨found, -⟩ := orderly.declared performs
  obtain ⟨target, unawaited, next, absent, equal⟩ := orderly.failed performs
  exact ⟨target, equal, absent, .inr ⟨sequence.id, _, found, next_mem_successors unawaited next⟩⟩

/-- In every course, an interaction is awaited exactly in the modes of waiting, and it is that of the
mode, with the current scene, which is declared and offers it. So the only trouble that a command or a
sequence can come into is an id that is not declared. -/
theorem awaited_in_step (staging : Staging) {initial : State}
    (opened : State.opening staging.story = .ok initial) (happenings : List Happening) :
    ((initial.course staging happenings).position.pending.isSome = true ↔
      (initial.course staging happenings).position.mode.isWaiting = true) ∧
    (∀ pending, (initial.course staging happenings).position.pending = some pending →
      (initial.course staging happenings).position.mode = .waiting pending.interaction ∧
      (initial.course staging happenings).position.current = some pending.scene ∧
      staging.story.declares pending.scene = true ∧
      ∃ scene, staging.story.find? pending.scene = some scene ∧
        pending.interaction.IsOfferedBy scene) ∧
    (∀ command trouble,
      ((initial.course staging happenings).execute staging command).2 = .failed trouble →
        ∃ target, trouble = .undeclared target) ∧
    (∀ ticket trouble,
      (initial.course staging happenings).outcome? ticket = some (.failed trouble) →
        ∃ target, trouble = .undeclared target) := by
  have steady := steady_course opened happenings
  refine ⟨?_, ?_, ?_, ?_⟩
  · rw [steady.coherent.inStep]
  · intro pending here
    obtain ⟨mode, current, scene, found, offered⟩ := steady.coherent.awaited here
    exact ⟨mode, current, Story.declares_of_find? found, scene, found, offered⟩
  · intro command trouble failed
    obtain ⟨target, equal, -⟩ := steady.ledAstray_of_command failed
    exact ⟨target, equal⟩
  · intro ticket trouble isOver
    obtain ⟨target, equal, -⟩ := steady.orderly.ledAstray_of_outcome isOver
    exact ⟨target, equal⟩

/-- The greeting was told, then the sequence after it, and the question after that is shown. -/
theorem sample_awaits_answer :
    let happenings : List Happening :=
      [.command .start, .step 0, .step 0, .clock 5, .wake 0, .step 0, .step 1, .step 1, .step 1]
    let position := ((initial .empty).course ⟨.sample, .silent⟩ happenings).position
    position.pending = some ⟨.answer, "name"⟩ ∧ position.mode = .waiting .answer ∧
      position.current = some "name" ∧ Story.sample.declares "name" = true := by
  intro happenings position
  have opened : opening Story.sample = .ok (initial .empty) := rfl
  have pending : position.pending = some ⟨.answer, "name"⟩ := rfl
  obtain ⟨-, awaited, -, -⟩ := awaited_in_step ⟨.sample, .silent⟩ opened happenings
  obtain ⟨mode, current, declared, -⟩ := awaited _ pending
  exact ⟨pending, mode, current, declared⟩

end State

end NarrativePlayer.Session
