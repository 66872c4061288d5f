import NarrativePlayer.Proofs.Session.AwaitedInteraction
import NarrativePlayer.Proofs.Session.Deeds

/-!
Contract: what is on the screen of a session.

A question or a choice that is entered is shown, and taken away when it is answered or the story is
started again. Acknowledging a sequence and going on from its last line take nothing away, so it has to
be known that nothing is shown then. Owns that the widget shown is the one of the awaited interaction,
and that nothing but a stop leaves one behind. How long the terminal takes to show it does not matter: a
widget counts as shown from the moment at which that begins.
-/

namespace NarrativePlayer.Session

/-- Whether a call shows a widget. -/
def Event.isWidget : Event → Bool
  | .showInput _ => true
  | .showChoices _ _ => true
  | _ => false

/-- The widgets of a trace that were shown since they were last taken away, in order. -/
def widgetsOf (trace : List Event) : List Event :=
  ((trace.takeWhile fun event => decide (event ≠ .clear)).filter Event.isWidget).reverse

theorem widgetsOf_clear (trace : List Event) : widgetsOf (.clear :: trace) = [] := rfl

theorem widgetsOf_cons {event : Event} (kept : event ≠ .clear) (trace : List Event) :
    widgetsOf (event :: trace) = widgetsOf trace ++ if event.isWidget then [event] else [] := by
  have since : (event :: trace).takeWhile (fun event => decide (event ≠ .clear)) =
      event :: trace.takeWhile fun event => decide (event ≠ .clear) :=
    List.takeWhile_cons_of_pos (decide_eq_true kept)
  rw [widgetsOf, since, List.filter_cons, widgetsOf]
  split
  · rw [List.reverse_cons]
  · rw [List.append_nil]

theorem Silent.widgetsOf_append {notes : List Event} (silent : Silent notes) (trace : List Event) :
    widgetsOf (notes ++ trace) = widgetsOf trace := by
  induction notes with
  | nil => rfl
  | cons event rest inductionHypothesis =>
      have uncalled : event.isCall = false := silent event List.mem_cons_self
      have silentRest : Silent rest := fun other member => silent other (List.mem_cons_of_mem _ member)
      have kept : event ≠ .clear := by
        rintro rfl
        cases uncalled
      have noWidget : event.isWidget = false := by
        cases event <;> first | rfl | cases uncalled
      rw [List.cons_append, widgetsOf_cons kept, inductionHypothesis silentRest, noWidget]
      exact List.append_nil _

/-- The widget that a position asks for: that of the question or the choice that is waited with, its
prompt filled in with the variables as they are. -/
def Position.widget? (story : Story) (position : Position) : Option Event :=
  match position.pending with
  | some ⟨.answer, id⟩ => (story.question? id).map fun question => .showInput question.field
  | some ⟨.choice, id⟩ =>
      (story.choice? id).map fun choice =>
        .showChoices (Template.fill choice.prompt position.store) choice.offers
  | some ⟨.enter, _⟩ => none
  | none => none

theorem Position.widget?_of_unawaited {story : Story} {position : Position}
    (nothing : position.pending = none) : position.widget? story = none := by
  rw [widget?, nothing]

namespace State

/-- The widgets that are on the screen. -/
def widgets (state : State) : List Event :=
  widgetsOf state.trace

/-- The screen shows what the position asks for. -/
def Drawn (story : Story) (state : State) : Prop :=
  state.widgets = (state.position.widget? story).toList

theorem Drawn.widgets_eq_nil {story : Story} {state : State} (drawn : state.Drawn story)
    (nothing : state.position.pending = none) : state.widgets = [] := by
  rw [Drawn, Position.widget?_of_unawaited nothing] at drawn
  exact drawn

theorem drawn_of_widgets_eq_nil {story : Story} {state : State} (empty : state.widgets = [])
    (nothing : state.position.widget? story = none) : state.Drawn story := by
  rw [Drawn, empty, nothing]
  rfl

theorem Drawn.reply {story : Story} {result : State × Entrance} (drawn : result.1.Drawn story) :
    (State.reply result).1.Drawn story := by
  unfold Drawn widgets at drawn ⊢
  rw [trace_reply, position_reply]
  exact drawn

end State

/-- A scene that is entered while nothing is on the screen and nothing is waited for is drawn. -/
theorem Enters.drawn {staging : Staging} {id : String} {state : State} {result : State × Entrance}
    (enters : Enters staging id state result) (empty : state.widgets = [])
    (nothing : state.position.pending = none) : result.1.Drawn staging.story := by
  have emptyStill : ∀ {notes : List Event}, Silent notes → widgetsOf (notes ++ state.trace) = [] :=
    fun silent => (silent.widgetsOf_append _).trans empty
  cases enters with
  | undeclared => exact State.drawn_of_widgets_eq_nil empty (Position.widget?_of_unawaited nothing)
  | ends found terminal silent =>
      refine State.drawn_of_widgets_eq_nil ?_ rfl
      rw [State.widgets, widgetsOf_cons Event.noConfusion, emptyStill silent]
      rfl
  | begins found goesOn silent silentLater =>
      refine State.drawn_of_widgets_eq_nil ?_ (Position.widget?_of_unawaited nothing)
      rw [State.widgets, silentLater.widgetsOf_append, widgetsOf_cons Event.noConfusion,
        emptyStill silent]
      rfl
  | asks found silent =>
      rw [State.Drawn, State.widgets, widgetsOf_cons Event.noConfusion,
        widgetsOf_cons Event.noConfusion, emptyStill silent]
      simp [Position.widget?, Position.park, Story.question?, found, Event.isWidget]
  | offers found silent =>
      rw [State.Drawn, State.widgets, widgetsOf_cons Event.noConfusion,
        widgetsOf_cons Event.noConfusion, emptyStill silent]
      simp [Position.widget?, Position.park, Story.choice?, found, Event.isWidget]

namespace State

variable {staging : Staging} {state : State}

/-- Neither the screen nor the position has changed, or the screen shows what the position asks for. -/
def Redraws (story : Story) (state later : State) : Prop :=
  (later.widgets = state.widgets ∧ later.position = state.position) ∨ later.Drawn story

theorem Redraws.of_silent {story : Story} {later : State} {notes : List Event} (silent : Silent notes)
    (trace : later.trace = notes ++ state.trace) (position : later.position = state.position) :
    Redraws story state later := by
  refine .inl ⟨?_, position⟩
  rw [widgets, trace, silent.widgetsOf_append]
  rfl

theorem Redraws.of_call {story : Story} {later : State} {event : Event} {notes : List Event}
    (silent : Silent notes) (kept : event ≠ .clear) (noWidget : event.isWidget = false)
    (trace : later.trace = event :: (notes ++ state.trace))
    (position : later.position = state.position) : Redraws story state later := by
  refine .inl ⟨?_, position⟩
  rw [widgets, trace, widgetsOf_cons kept, silent.widgetsOf_append, noWidget]
  exact List.append_nil _

/-- Where nothing is on the screen and a step announces that nothing is to be, nothing is. -/
theorem drawn_of_changed {story : Story} {later : State} {scene : String} {mode : Mode}
    {notes : List Event} (silent : Silent notes)
    (trace : later.trace = .changed scene mode :: (notes ++ state.trace)) (empty : state.widgets = [])
    (nothing : later.position.widget? story = none) : later.Drawn story := by
  refine drawn_of_widgets_eq_nil ?_ nothing
  rw [widgets, trace, widgetsOf_cons Event.noConfusion, silent.widgetsOf_append]
  exact (List.append_nil _).trans empty

/-- While a sequence waits to be acknowledged, nothing is on the screen. -/
theorem Steady.widgets_eq_nil_of_enter (steady : state.Steady staging.story)
    (drawn : state.position.mode ≠ .ended → state.Drawn staging.story) {id : String}
    (awaited : state.position.pendingFor? .enter = some id) : state.widgets = [] := by
  have pending := Position.pending_of_pendingFor? awaited
  obtain ⟨mode, -⟩ := steady.coherent.awaited pending
  have shown := drawn (by rw [mode]; exact Mode.noConfusion)
  rw [Drawn, Position.widget?, pending] at shown
  exact shown

theorem Steady.redraws_command (steady : state.Steady staging.story)
    (drawn : state.position.mode ≠ .ended → state.Drawn staging.story) {command : Command}
    {result : State × Reply} (obeys : Obeys staging state command result)
    (goesOn : command ≠ .stop) : Redraws staging.story state result.1 := by
  cases obeys with
  | starts silent enters =>
      refine .inr (enters.drawn ?_ rfl).reply
      exact widgetsOf_clear _
  | stops => exact absurd rfl goesOn
  | ignores ignored silent => exact .of_silent silent rfl rfl
  | misfits => exact .of_silent .nil rfl rfl
  | rejects awaited found taken complaint silent =>
      exact .of_call silent Event.noConfusion rfl rfl rfl
  | refuses => exact .of_silent .nil rfl rfl
  | moves leaves found silent enters =>
      refine .inr (enters.drawn ?_ rfl).reply
      cases leaves with
      | submitted => exact widgetsOf_clear _
      | chosen => exact widgetsOf_clear _
      | acknowledged awaited =>
          exact (silent.widgetsOf_append _).trans (steady.widgets_eq_nil_of_enter drawn awaited)
  | closes awaited found noWay silent =>
      exact .inr (drawn_of_changed silent rfl (steady.widgets_eq_nil_of_enter drawn awaited) rfl)

theorem Steady.redraws_advance (steady : state.Steady staging.story)
    (drawn : state.position.mode ≠ .ended → state.Drawn staging.story) {ticket : Nat}
    {sequence : Sequence} {generation : Nat} {stage reached : Stage} {next : State}
    (performs : state.Performs ticket sequence generation stage)
    (advances : Advances staging sequence generation state stage (next, reached)) :
    Redraws staging.story state next := by
  -- The sequence in force decides only while it is under way, and then nothing is waited for.
  have deciding : ∀ {index}, stage = .ready index → state.position.generation = generation →
      state.position.pending = none ∧ state.widgets = [] := by
    intro index ready current
    subst ready
    rw [← current] at performs
    have nothing := steady.pending_eq_none performs rfl
    obtain ⟨running, -⟩ := steady.underWay performs rfl
    have shown := drawn (by rw [running]; exact Mode.noConfusion)
    exact ⟨nothing, shown.widgets_eq_nil nothing⟩
  cases advances with
  | givesUp stale silent => exact .of_silent silent rfl rfl
  | givesUpPrinted stale here silent => exact .of_silent silent rfl rfl
  | prints current here intact silent => exact .of_call silent Event.noConfusion rfl rfl rfl
  | breaksOff current here faulty silent => exact .of_silent silent rfl rfl
  | waits current beyond awaited silent =>
      exact .inr (drawn_of_changed silent rfl (deciding rfl current).2 rfl)
  | ends current beyond unawaited last silent =>
      obtain ⟨nothing, empty⟩ := deciding rfl current
      exact .inr (drawn_of_changed silent rfl empty (Position.widget?_of_unawaited nothing))
  | leads current beyond unawaited next enters =>
      obtain ⟨nothing, empty⟩ := deciding rfl current
      exact .inr (enters.drawn empty nothing)
  | presents current beyond unawaited next enters =>
      obtain ⟨nothing, empty⟩ := deciding rfl current
      exact .inr (enters.drawn empty nothing)
  | fails current beyond unawaited next enters =>
      obtain ⟨rfl, -, -⟩ := enters.of_failed
      exact .of_call .nil Event.noConfusion rfl rfl rfl
  | _ => exact .of_silent .nil rfl rfl

theorem Steady.redraws_after (steady : state.Steady staging.story)
    (drawn : state.position.mode ≠ .ended → state.Drawn staging.story) {happening : Happening}
    (goesOn : happening ≠ .command .stop) :
    Redraws staging.story state (state.after staging happening) := by
  cases happening with
  | command command =>
      refine steady.redraws_command drawn (state.obeys_execute staging command) ?_
      rintro rfl
      exact goesOn rfl
  | step ticket =>
      show Redraws staging.story state (state.goOn staging ticket)
      have performed := state.goesOn_goOn staging ticket
      generalize state.goOn staging ticket = later at performed ⊢
      cases performed with
      | performs here advances =>
          have redrawn := steady.redraws_advance drawn here advances
          exact redrawn
      | returns here => exact .of_call .nil Event.noConfusion rfl rfl rfl
      | rests => exact .of_silent .nil rfl rfl
  | turn gate opened => cases gate <;> exact .of_silent .nil rfl rfl
  | _ => exact .of_silent .nil rfl rfl

/-! ## What a stop leaves behind -/

/-- A stop has ended a session that showed these widgets, and it has been over since. -/
def LeftByStop (staging : Staging) (initial : State) (happenings : List Happening)
    (shown : List Event) : Prop :=
  ∃ before later, happenings = before ++ .command .stop :: later ∧
    (initial.course staging before).position.mode ≠ .ended ∧
    (initial.course staging before).widgets = shown ∧
    ∀ first second, later = first ++ second →
      (initial.course staging (before ++ .command .stop :: first)).position.mode = .ended

theorem LeftByStop.concat {initial : State} {happenings : List Happening} {shown : List Event}
    (left : LeftByStop staging initial happenings shown) {last : Happening}
    (ended : (initial.course staging (happenings ++ [last])).position.mode = .ended) :
    LeftByStop staging initial (happenings ++ [last]) shown := by
  obtain ⟨before, later, rfl, goesOn, same, inTheEnd⟩ := left
  refine ⟨before, later ++ [last], by simp, goesOn, same, fun first second split => ?_⟩
  rcases List.eq_nil_or_concat second with rfl | ⟨rest, final, rfl⟩
  · rw [List.append_nil] at split
    subst split
    simpa using ended
  · rw [List.concat_eq_append, ← List.append_assoc] at split
    obtain ⟨same, -⟩ := List.append_inj' split rfl
    exact inTheEnd first rest same

theorem leftByStop_of_stop {initial : State} {happenings : List Happening}
    (goesOn : (initial.course staging happenings).position.mode ≠ .ended)
    (ended : (initial.course staging (happenings ++ [.command .stop])).position.mode = .ended) :
    LeftByStop staging initial (happenings ++ [.command .stop])
      (initial.course staging happenings).widgets := by
  refine ⟨happenings, [], rfl, goesOn, rfl, fun first second split => ?_⟩
  obtain ⟨rfl, rfl⟩ := List.append_eq_nil_iff.mp split.symm
  exact ended

theorem after_stop (staging : Staging) (state : State) :
    (state.after staging (.command .stop)).widgets = state.widgets ∧
      (state.after staging (.command .stop)).position.mode = .ended ∧
      (state.after staging (.command .stop)).position.pending = none := by
  obtain ⟨notes, silent, result⟩ := (state.obeys_execute staging .stop).of_stop
  show (state.execute staging .stop).1.widgets = _ ∧ (state.execute staging .stop).1.position.mode = _ ∧
    (state.execute staging .stop).1.position.pending = _
  rw [result]
  refine ⟨?_, rfl, rfl⟩
  rw [widgets, widgetsOf_cons Event.noConfusion, silent.widgetsOf_append]
  exact List.append_nil _

/-- In every course the screen shows what the position asks for, or what a stop has left behind. -/
theorem drawn_or_left_course {initial : State} (opened : opening staging.story = .ok initial)
    (happenings : List Happening) :
    (initial.course staging happenings).Drawn staging.story ∨
      ((initial.course staging happenings).position.mode = .ended ∧
        LeftByStop staging initial happenings (initial.course staging happenings).widgets) := by
  refine course_rec (motive := fun past state => state.Drawn staging.story ∨
    (state.position.mode = .ended ∧ LeftByStop staging initial past state.widgets)) ?_ ?_ happenings
  · obtain ⟨rfl, -⟩ := initial_of_opening opened
    exact .inl rfl
  · intro past happening held
    have steady := steady_course opened past
    have concat := course_concat staging initial past happening
    have drawn : (initial.course staging past).position.mode ≠ .ended →
        (initial.course staging past).Drawn staging.story := by
      intro goesOn
      rcases held with shown | ⟨ended, -⟩
      · exact shown
      · exact absurd ended goesOn
    by_cases stops : happening = .command .stop
    · subst stops
      obtain ⟨same, ended, nothing⟩ := after_stop staging (initial.course staging past)
      by_cases isOver : (initial.course staging past).position.mode = .ended
      · rcases held with shown | ⟨-, left⟩
        · have unawaited := steady.coherent.pending_eq_none (by rw [isOver]; rfl)
          refine .inl (drawn_of_widgets_eq_nil ?_ (Position.widget?_of_unawaited nothing))
          rw [same, shown.widgets_eq_nil unawaited]
        · refine .inr ⟨ended, ?_⟩
          rw [same]
          exact left.concat (concat ▸ ended)
      · refine .inr ⟨ended, ?_⟩
        rw [same]
        exact leftByStop_of_stop isOver (concat ▸ ended)
    · rcases steady.redraws_after drawn stops with ⟨same, position⟩ | redrawn
      · rcases held with shown | ⟨ended, left⟩
        · refine .inl ?_
          rw [Drawn, same, position]
          exact shown
        · have endedStill := (congrArg Position.mode position).trans ended
          refine .inr ⟨endedStill, ?_⟩
          rw [same]
          exact left.concat (concat ▸ endedStill)
      · exact .inl redrawn

/-- The screen of a session that has not ended shows what the position asks for. -/
theorem drawn_course {initial : State} (opened : opening staging.story = .ok initial)
    {happenings : List Happening}
    (goesOn : (initial.course staging happenings).position.mode ≠ .ended) :
    (initial.course staging happenings).Drawn staging.story := by
  rcases drawn_or_left_course opened happenings with shown | ⟨ended, -⟩
  · exact shown
  · exact absurd ended goesOn

/-! ## What the position asks for -/

/-- What a position asks for is one widget at most. -/
theorem Drawn.length_le {story : Story} (drawn : state.Drawn story) : state.widgets.length ≤ 1 := by
  rw [Drawn] at drawn
  rw [drawn]
  cases state.position.widget? story <;> simp

theorem Drawn.of_answer (drawn : state.Drawn staging.story) (steady : state.Steady staging.story)
    {id : String} (pending : state.position.pending = some ⟨.answer, id⟩) :
    ∃ question, staging.story.find? id = some (.question question) ∧
      state.widgets = [.showInput question.field] := by
  obtain ⟨-, -, scene, found, offered⟩ := steady.coherent.awaited pending
  cases scene with
  | question question =>
      refine ⟨question, found, ?_⟩
      rw [Drawn, Position.widget?, pending] at drawn
      simpa [Story.question?, found] using drawn
  | sequence body => exact offered.elim
  | choice body => exact offered.elim

theorem Drawn.of_choice (drawn : state.Drawn staging.story) (steady : state.Steady staging.story)
    {id : String} (pending : state.position.pending = some ⟨.choice, id⟩) :
    ∃ choice, staging.story.find? id = some (.choice choice) ∧
      state.widgets =
        [.showChoices (Template.fill choice.prompt state.position.store) choice.offers] := by
  obtain ⟨-, -, scene, found, offered⟩ := steady.coherent.awaited pending
  cases scene with
  | choice choice =>
      refine ⟨choice, found, ?_⟩
      rw [Drawn, Position.widget?, pending] at drawn
      simpa [Story.choice?, found] using drawn
  | sequence body => exact offered.elim
  | question body => exact offered.elim

/-- A widget is asked for only while a question or a choice is waited with. -/
theorem Drawn.waiting (drawn : state.Drawn staging.story) (steady : state.Steady staging.story)
    (shown : state.widgets ≠ []) :
    state.position.mode = .waiting .answer ∨ state.position.mode = .waiting .choice := by
  cases here : state.position.pending with
  | none => exact absurd (drawn.widgets_eq_nil here) shown
  | some pending =>
      obtain ⟨mode, -⟩ := steady.coherent.awaited here
      obtain ⟨interaction, id⟩ := pending
      cases interaction with
      | answer => exact .inl mode
      | choice => exact .inr mode
      | enter =>
          rw [Drawn, Position.widget?, here] at drawn
          exact absurd drawn shown

/-- In every course, of the widgets that were shown since they were last taken away there is at most
one. While an answer is awaited it is that of the question, with its field; while a pick is awaited it is
that of the choice, with all its offers in order and its prompt filled in with the variables as they are;
and there is none while the session is idle, runs, or waits to be acknowledged. Once it has ended there
is one only if it was a stop that ended it, while that very widget was shown, and it has not been started
since. -/
theorem widgets_match_pending (staging : Staging) {initial : State}
    (opened : State.opening staging.story = .ok initial) (happenings : List Happening) :
    let state := initial.course staging happenings
    state.widgets.length ≤ 1 ∧
    (∀ id, state.position.pending = some ⟨.answer, id⟩ → ∃ question,
      staging.story.find? id = some (.question question) ∧
      state.widgets = [.showInput question.field]) ∧
    (∀ id, state.position.pending = some ⟨.choice, id⟩ → ∃ choice,
      staging.story.find? id = some (.choice choice) ∧
      state.widgets =
        [.showChoices (Template.fill choice.prompt state.position.store) choice.offers]) ∧
    (state.position.mode = .idle ∨ state.position.mode = .running ∨
      state.position.mode = .waiting .enter → state.widgets = []) ∧
    (state.position.mode = .ended → state.widgets ≠ [] → ∃ before later,
      happenings = before ++ .command .stop :: later ∧
      ((initial.course staging before).position.mode = .waiting .answer ∨
        (initial.course staging before).position.mode = .waiting .choice) ∧
      (initial.course staging before).widgets = state.widgets ∧
      ∀ first second, later = first ++ second →
        (initial.course staging (before ++ .command .stop :: first)).position.mode = .ended) := by
  intro state
  have steady : state.Steady staging.story := steady_course opened happenings
  have drawn : state.position.mode ≠ .ended → state.Drawn staging.story := drawn_course opened
  have goesOn : ∀ {pending}, state.position.pending = some pending → state.position.mode ≠ .ended := by
    intro pending here
    obtain ⟨mode, -⟩ := steady.coherent.awaited here
    rw [mode]
    exact Mode.noConfusion
  refine ⟨?_, ?_, ?_, ?_, ?_⟩
  · rcases drawn_or_left_course opened happenings with shown | ⟨-, before, later, -, active, same, -⟩
    · exact shown.length_le
    · show (initial.course staging happenings).widgets.length ≤ 1
      rw [← same]
      exact (drawn_course opened active).length_le
  · intro id pending
    exact (drawn (goesOn pending)).of_answer steady pending
  · intro id pending
    exact (drawn (goesOn pending)).of_choice steady pending
  · intro elsewhere
    have active : state.position.mode ≠ .ended := by
      rcases elsewhere with mode | mode | mode <;> rw [mode] <;> exact Mode.noConfusion
    apply Classical.byContradiction
    intro shown
    rcases (drawn active).waiting steady shown with waiting | waiting
    · simp [waiting] at elsewhere
    · simp [waiting] at elsewhere
  · intro ended shown
    rcases drawn_or_left_course opened happenings with
      here | ⟨-, before, later, split, active, same, inTheEnd⟩
    · rcases here.waiting steady shown with waiting | waiting
      · cases ended.symm.trans waiting
      · cases ended.symm.trans waiting
    · have shownBefore : (initial.course staging before).widgets ≠ [] := same ▸ shown
      exact ⟨before, later, split,
        (drawn_course opened active).waiting (steady_course opened before) shownBefore, same, inTheEnd⟩

/-- The story is told up to the choice, with the answer in its prompt, which the terminal is still busy showing
when the story is stopped. -/
theorem sample_widget_left :
    let staging : Staging := ⟨.sample, .silent⟩
    let happenings : List Happening :=
      [.command .start, .step 0, .step 0, .clock 5, .wake 0, .step 0, .step 1, .step 1, .step 1,
        .turn .display false, .command (.submit "Bea"), .command .stop]
    let stopped := (initial .empty).course staging happenings
    stopped.position.mode = .ended ∧
      stopped.widgets = [.showChoices "Where to, Bea?" [⟨"on", "On", [], "parting"⟩]] ∧
      ∃ before, ((initial .empty).course staging before).position.mode ≠ .ended ∧
        ((initial .empty).course staging before).widgets = stopped.widgets := by
  intro staging happenings stopped
  have opened : opening staging.story = .ok (initial .empty) := rfl
  have ended : stopped.position.mode = .ended := by decide +kernel
  have shown : stopped.widgets = [.showChoices "Where to, Bea?" [⟨"on", "On", [], "parting"⟩]] := by
    decide +kernel
  have left : stopped.widgets ≠ [] := by
    rw [shown]
    exact List.cons_ne_nil _ _
  obtain ⟨-, -, -, -, behind⟩ := widgets_match_pending staging opened happenings
  obtain ⟨before, -, -, waiting, same, -⟩ := behind ended left
  refine ⟨ended, shown, before, ?_, same⟩
  rcases waiting with mode | mode
  · rw [mode]
    exact Mode.noConfusion
  · rw [mode]
    exact Mode.noConfusion

end State

end NarrativePlayer.Session
