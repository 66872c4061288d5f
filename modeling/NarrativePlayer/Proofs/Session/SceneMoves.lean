import NarrativePlayer.Proofs.Review.Findings
import NarrativePlayer.Proofs.Review.IdWalk
import NarrativePlayer.Proofs.Session.AwaitedInteraction
import NarrativePlayer.Proofs.Session.Deeds

/-!
Contract: the way that a session takes through its story.

A scene is entered when it is announced as running, as waiting for an answer or for a choice, or, if it
ends the story at once, as the end. Owns which scenes a happening enters, that the current scene is the one
that was entered last, and that every entrance other than that of a start follows the current scene. So a
session never leaves what can be reached. What else is announced is next door.
-/

namespace NarrativePlayer

namespace Session

/-- The scene that a call announces as entered. The end is announced where many scenes are left, but it is
the entrance of those alone that end the story at once. -/
def Event.entrance? (story : Story) : Event → Option String
  | .changed id .running => some id
  | .changed id (.waiting .answer) => some id
  | .changed id (.waiting .choice) => some id
  | .changed id .ended => if (story.find? id).any Scene.isTerminal then some id else none
  | _ => none

/-- The end of a scene that does not end the story at once is no entrance. -/
theorem Event.entrance?_of_goesOn {story : Story} {id : String} {body : Sequence}
    (found : story.find? id = some (.sequence body)) (goesOn : body.terminal = false) :
    (Event.changed id .ended).entrance? story = none := by
  simp [Event.entrance?, found, Scene.isTerminal, goesOn]

/-- Whether a scene can come next: a scene is current, and leads to it. -/
def Position.LeadsTo (story : Story) (position : Position) (target : String) : Prop :=
  ∃ id, position.current = some id ∧ target ∈ Review.successorsOf story id

theorem mem_successorsOf {story : Story} {id target : String} {scene : Scene}
    (found : story.find? id = some scene) (leads : target ∈ scene.successors) :
    target ∈ Review.successorsOf story id := by
  simp only [Review.successorsOf, found]
  exact leads

theorem of_mem_successorsOf {story : Story} {id target : String}
    (leads : target ∈ Review.successorsOf story id) :
    ∃ scene, story.find? id = some scene ∧ target ∈ scene.successors := by
  unfold Review.successorsOf at leads
  split at leads
  · rename_i scene found
    exact ⟨scene, found, leads⟩
  · cases leads

namespace State

/-- The scenes that a happening enters, in order. A stop announces the end where the session stands, and
enters nothing. -/
def entered (staging : Staging) (state : State) (happening : Happening) : List String :=
  if happening = .command .stop then []
  else (callsSince state (state.after staging happening)).filterMap (Event.entrance? staging.story)

/-- What a step enters, read off its calls, and the scene that is current then: the one that is entered,
or the same as before. -/
structure Visits (story : Story) (state later : State) (entrance : Option String) : Prop where
  called : ∃ calls, later.calls = state.calls ++ calls ∧
    calls.filterMap (Event.entrance? story) = entrance.toList
  current : later.position.current = entrance.or state.position.current

theorem Visits.of_silent (story : Story) {state later : State} {added : List Event}
    (silent : Silent added) (trace : later.trace = added ++ state.trace)
    (current : later.position.current = state.position.current) : Visits story state later none where
  called := ⟨[], by rw [calls_of_trace trace, silent.filter_isCall, List.reverse_nil], rfl⟩
  current := current

theorem Visits.of_call {story : Story} {state later : State} {event : Event} {notes : List Event}
    (silent : Silent notes) (isCall : event.isCall = true) (noEntrance : event.entrance? story = none)
    (trace : later.trace = event :: (notes ++ state.trace))
    (current : later.position.current = state.position.current) : Visits story state later none where
  called := ⟨[event], calls_of_call silent isCall trace, List.filterMap_cons_none noEntrance⟩
  current := current

theorem Visits.entered_eq {staging : Staging} {state : State} {happening : Happening}
    {entrance : Option String} (notStop : happening ≠ .command .stop)
    (visits : Visits staging.story state (state.after staging happening) entrance) :
    entered staging state happening = entrance.toList := by
  obtain ⟨calls, called, entrances⟩ := visits.called
  rw [entered, if_neg notStop, callsSince_of_calls called, entrances]

/-- What a step enters that goes on from a state in which the way was cleared. -/
theorem Visits.since {story : Story} {state before later : State} {entrance : Option String}
    {cleared : List Event} (visits : Visits story before later entrance)
    (clears : cleared = [] ∨ cleared = [.clear]) (called : before.calls = state.calls ++ cleared)
    (current : before.position.current = state.position.current) : Visits story state later entrance := by
  have nowhere : cleared.filterMap (Event.entrance? story) = [] := by
    rcases clears with rfl | rfl
    · rfl
    · rfl
  obtain ⟨calls, added, entrances⟩ := visits.called
  refine ⟨⟨cleared ++ calls, ?_, ?_⟩, ?_⟩
  · rw [added, called, List.append_assoc]
  · rw [List.filterMap_append, nowhere, List.nil_append, entrances]
  · rw [visits.current, current]

theorem Visits.reply {story : Story} {state : State} {result : State × Entrance}
    {entrance : Option String} (visits : Visits story state result.1 entrance) :
    Visits story state (State.reply result).1 entrance where
  called := by
    rw [calls, trace_reply]
    exact visits.called
  current := by
    rw [position_reply]
    exact visits.current

end State

/-- The scene that is entered on the way to an id: none if it is not declared. -/
def entranceAt (story : Story) (id : String) : Option String :=
  (story.find? id).map fun _ => id

theorem eq_of_mem_entranceAt {story : Story} {id target : String} (member : target ∈ entranceAt story id) :
    target = id := by
  obtain ⟨scene, -, same⟩ := Option.map_eq_some_iff.mp member
  exact same.symm

theorem Enters.visits {staging : Staging} {id : String} {state : State} {result : State × Entrance}
    (enters : Enters staging id state result) :
    State.Visits staging.story state result.1 (entranceAt staging.story id) := by
  unfold entranceAt
  cases enters with
  | undeclared absent =>
      rw [absent]
      exact .of_silent _ .nil rfl rfl
  | ends found terminal silent =>
      rw [found]
      refine ⟨⟨_, State.calls_of_call silent rfl rfl, ?_⟩, rfl⟩
      simp [Event.entrance?, found, Scene.isTerminal, terminal]
  | begins found goesOn silent silentLater =>
      rw [found]
      refine ⟨⟨[.changed id .running], ?_, rfl⟩, rfl⟩
      simp [State.calls, List.filter_cons, silent.filter_isCall, silentLater.filter_isCall, Event.isCall]
  | @asks body found notes silent =>
      rw [found]
      refine ⟨⟨[.changed id (.waiting .answer), .showInput body.field], ?_, rfl⟩, rfl⟩
      simp [State.calls, List.filter_cons, silent.filter_isCall, Event.isCall]
  | @offers body found notes silent =>
      rw [found]
      refine ⟨⟨[.changed id (.waiting .choice),
        .showChoices (Template.fill body.prompt state.position.store) body.offers], ?_, rfl⟩, rfl⟩
      simp [State.calls, List.filter_cons, silent.filter_isCall, Event.isCall]

namespace State

variable {staging : Staging} {state : State}

/-- What a command leaves to is a successor of the scene that is current, as it is the one waited with. -/
theorem Steady.leadsTo (steady : state.Steady staging.story) {command : Command}
    {submitted : Option String} {actions : List Action} {target : String}
    (leaves : Leaves staging.story state.position command submitted actions target) :
    state.position.LeadsTo staging.story target := by
  have atScene : ∀ {interaction id}, state.position.pendingFor? interaction = some id →
      state.position.current = some id := by
    intro interaction id awaited
    exact (steady.coherent.awaited (Position.pending_of_pendingFor? awaited)).2.1
  cases leaves with
  | submitted awaited found taken =>
      exact ⟨_, atScene awaited, mem_successorsOf found (target_mem_successors_of_submission taken)⟩
  | chosen awaited found taken =>
      exact ⟨_, atScene awaited, mem_successorsOf found (target_mem_successors_of_offer taken)⟩
  | acknowledged awaited found taken =>
      exact ⟨_, atScene awaited, mem_successorsOf found (target_mem_successors_of_event taken)⟩

/-- The scene that is waited with for Enter does not end the story at once. -/
theorem Steady.goesOn_of_awaited (steady : state.Steady staging.story) {id : String} {sequence : Sequence}
    (awaited : state.position.pendingFor? .enter = some id)
    (found : staging.story.find? id = some (.sequence sequence)) : sequence.terminal = false := by
  obtain ⟨-, -, scene, here, offered⟩ :=
    steady.coherent.awaited (Position.pending_of_pendingFor? awaited)
  cases found.symm.trans here
  exact offered.1

/-- Whether a happening may enter a scene: a start enters the start of the story, and all else follows the
scene that is current. -/
def MayEnter (staging : Staging) (state : State) (happening : Happening) (target : String) : Prop :=
  (happening = .command .start ∧ target = staging.story.start) ∨
    state.position.LeadsTo staging.story target

/-- A happening enters at most one scene, one that it may enter, and comes to a state. -/
def Goes (staging : Staging) (state : State) (happening : Happening) (later : State) : Prop :=
  ∃ entrance, Visits staging.story state later entrance ∧
    ∀ target ∈ entrance, MayEnter staging state happening target

/-- A step without a call enters nothing. -/
theorem Goes.of_silent {happening : Happening} {later : State} {added : List Event}
    (silent : Silent added) (trace : later.trace = added ++ state.trace)
    (current : later.position.current = state.position.current) : Goes staging state happening later :=
  ⟨none, .of_silent _ silent trace current, fun _ member => nomatch member⟩

/-- A step with a call that is no entrance enters nothing. -/
theorem Goes.of_call {happening : Happening} {later : State} {event : Event} {notes : List Event}
    (silent : Silent notes) (isCall : event.isCall = true)
    (noEntrance : event.entrance? staging.story = none)
    (trace : later.trace = event :: (notes ++ state.trace))
    (current : later.position.current = state.position.current) :
    Goes staging state happening later :=
  ⟨none, .of_call silent isCall noEntrance trace current, fun _ member => nomatch member⟩

theorem Visits.goes {happening : Happening} {later : State} {id : String}
    (visits : Visits staging.story state later (entranceAt staging.story id))
    (may : MayEnter staging state happening id) : Goes staging state happening later := by
  refine ⟨_, visits, fun target member => ?_⟩
  rw [eq_of_mem_entranceAt member]
  exact may

theorem Steady.goes_command (steady : state.Steady staging.story) {command : Command}
    {result : State × Reply} (obeys : Obeys staging state command result) (notStop : command ≠ .stop) :
    Goes staging state (.command command) result.1 := by
  cases obeys with
  | @starts notes silent entered enters =>
      have since := enters.visits.since (.inr rfl) (calls_of_call silent rfl rfl) rfl
      exact since.reply.goes (.inl ⟨rfl, rfl⟩)
  | stops => exact absurd rfl notStop
  | ignores ignored silent => exact .of_silent silent rfl rfl
  | misfits => exact .of_silent .nil rfl rfl
  | rejects awaited found taken complaint silent => exact .of_call silent rfl rfl rfl rfl
  | refuses => exact .of_silent .nil rfl rfl
  | @moves _ _ _ target leaves scene found notes silent entered enters =>
      have since : Visits staging.story state entered.1 (entranceAt staging.story target) := by
        refine enters.visits.since command.clearing_cases ?_ rfl
        rcases command.clearing_cases with none | one
        · simp [calls, none, silent.filter_isCall]
        · rw [one]
          exact calls_of_call silent rfl rfl
      exact since.reply.goes (.inr (steady.leadsTo leaves))
  | closes awaited found noWay silent =>
      have goesOn := steady.goesOn_of_awaited awaited found
      exact .of_call silent rfl (Event.entrance?_of_goesOn found goesOn) rfl rfl

theorem Steady.goes_advance {next : State} (steady : state.Steady staging.story) {ticket : Nat}
    {sequence : Sequence} {generation : Nat} {stage reached : Stage}
    (performs : state.Performs ticket sequence generation stage)
    (advances : Advances staging sequence generation state stage (next, reached)) :
    Goes staging state (.step ticket) next := by
  obtain ⟨found, goesOn⟩ := steady.orderly.declared performs
  -- A sequence in force that is at its end stands at its scene, so what it leads to follows that scene.
  have atScene : ∀ {index}, stage = .ready index → state.position.generation = generation →
      state.position.current = some sequence.id := by
    intro index ready current
    subst ready current
    exact (steady.underWay performs rfl).2
  have led : ∀ {index target entrance}, stage = .ready index → state.position.generation = generation →
      sequence.awaits = none → sequence.next = some target →
      Enters staging target state (next, entrance) → Goes staging state (.step ticket) next := by
    intro index target entrance ready current unawaited onward enters
    have leads : state.position.LeadsTo staging.story target :=
      ⟨_, atScene ready current, mem_successorsOf found (next_mem_successors unawaited onward)⟩
    exact enters.visits.goes (.inr leads)
  cases advances with
  | givesUp stale silent => exact .of_silent silent rfl rfl
  | givesUpPrinted stale here silent => exact .of_silent silent rfl rfl
  | prints current here intact silent => exact .of_call silent rfl rfl rfl rfl
  | breaksOff current here faulty silent => exact .of_silent silent rfl rfl
  | rests => exact .of_silent .nil rfl rfl
  | passes => exact .of_silent .nil rfl rfl
  | skips => exact .of_silent .nil rfl rfl
  | waits current beyond awaited silent =>
      exact .of_call silent rfl rfl rfl (atScene rfl current).symm
  | ends current beyond unawaited last silent =>
      exact .of_call silent rfl (Event.entrance?_of_goesOn found goesOn) rfl rfl
  | leads current beyond unawaited onward enters => exact led rfl current unawaited onward enters
  | presents current beyond unawaited onward enters => exact led rfl current unawaited onward enters
  | fails current beyond unawaited onward enters =>
      obtain ⟨rfl, -, -⟩ := enters.of_failed
      have uncalled : ∀ trouble, Silent [.failed sequence.id trouble] := by simp [Silent, Event.isCall]
      exact .of_silent (uncalled _) rfl rfl
  | presented => exact .of_silent .nil rfl rfl
  | stays => exact .of_silent .nil rfl rfl

theorem Steady.goes_step (steady : state.Steady staging.story) (ticket : Nat) :
    Goes staging state (.step ticket) (state.goOn staging ticket) := by
  have goesOn := state.goesOn_goOn staging ticket
  generalize state.goOn staging ticket = later at goesOn ⊢
  cases goesOn with
  | @performs sequence generation stage reached next here advances =>
      obtain ⟨entrance, visits, follow⟩ := steady.goes_advance here advances
      exact ⟨entrance, ⟨visits.called, visits.current⟩, follow⟩
  | returns here =>
      have uncalled : Silent [.done ticket] := by simp [Silent, Event.isCall]
      exact .of_silent uncalled rfl rfl
  | rests => exact .of_silent .nil rfl rfl

theorem Steady.goes_after (steady : state.Steady staging.story) {happening : Happening}
    (notStop : happening ≠ .command .stop) :
    Goes staging state happening (state.after staging happening) := by
  have nothing : ∀ later : State, later.trace = state.trace →
      later.position.current = state.position.current → Goes staging state happening later :=
    fun later trace current => .of_silent .nil trace current
  cases happening with
  | command command =>
      have told : command ≠ .stop := fun same => notStop (congrArg Happening.command same)
      exact steady.goes_command (state.obeys_execute staging command) told
  | step ticket => exact steady.goes_step ticket
  | turn gate opened => cases gate <;> exact nothing _ rfl rfl
  | _ => exact nothing _ rfl rfl

/-- A happening enters at most one scene, which is current from then on, and no scene becomes current
otherwise. -/
theorem Steady.entered_spec (steady : state.Steady staging.story) (happening : Happening) :
    ∃ entrance : Option String, entered staging state happening = entrance.toList ∧
      (state.after staging happening).position.current = entrance.or state.position.current ∧
      ∀ target ∈ entrance, MayEnter staging state happening target := by
  by_cases isStop : happening = .command .stop
  · subst isStop
    obtain ⟨notes, -, result⟩ := (state.obeys_execute staging .stop).of_stop
    refine ⟨none, if_pos rfl, ?_, fun _ member => nomatch member⟩
    show (state.execute staging .stop).1.position.current = _
    rw [result]
    rfl
  · obtain ⟨entrance, visits, follow⟩ := steady.goes_after isStop
    exact ⟨entrance, visits.entered_eq isStop, visits.current, follow⟩

/-! ## What can be reached -/

/-- The current scene can be reached from the start. -/
def Afoot (story : Story) (state : State) : Prop :=
  ∀ id, state.position.current = some id → id ∈ Review.reachable story

theorem Afoot.mayEnter (afoot : state.Afoot staging.story)
    (startDeclared : staging.story.declares staging.story.start = true) {happening : Happening}
    {target : String} (may : MayEnter staging state happening target) :
    target ∈ Review.reachable staging.story := by
  rcases may with ⟨-, rfl⟩ | ⟨id, here, leads⟩
  · exact Review.start_mem_reachable startDeclared
  · exact Review.reachable_closed (afoot id here) leads

theorem Afoot.after (afoot : state.Afoot staging.story) (steady : state.Steady staging.story)
    (startDeclared : staging.story.declares staging.story.start = true) (happening : Happening) :
    (state.after staging happening).Afoot staging.story := by
  obtain ⟨entrance, -, current, follow⟩ := steady.entered_spec happening
  intro id here
  rw [current, Option.or_eq_some_iff] at here
  rcases here with isEntered | ⟨-, before⟩
  · exact afoot.mayEnter startDeclared (follow id isEntered)
  · exact afoot id before

theorem afoot_course {initial : State} (opened : opening staging.story = .ok initial)
    (happenings : List Happening) : (initial.course staging happenings).Afoot staging.story := by
  obtain ⟨same, startDeclared⟩ := initial_of_opening opened
  refine course_rec (motive := fun _ state => state.Afoot staging.story) ?_ ?_ happenings
  · intro id here
    rw [same] at here
    cases here
  · intro past happening afoot
    exact afoot.after (steady_course opened past) startDeclared happening

/-- Whatever course a session takes, what happens next enters at most one scene: the start of the story
when it is started, and else a successor of the scene that the current id stands for. That scene is current
from then on, nothing else becomes current, and what a review calls unreachable is neither entered nor
ever current. -/
theorem moves_along_successors (staging : Staging) {initial : State}
    (opened : opening staging.story = .ok initial) (happenings : List Happening) (happening : Happening) :
    let state := initial.course staging happenings
    (∃ entrance : Option String, entered staging state happening = entrance.toList ∧
      (state.after staging happening).position.current = entrance.or state.position.current ∧
      ∀ target ∈ entrance,
        (happening = .command .start ∧ target = staging.story.start) ∨
        ∃ id scene, state.position.current = some id ∧ staging.story.find? id = some scene ∧
          target ∈ scene.successors) ∧
      ∀ settings id start, .unreachable id start ∈ Review.review settings staging.story →
        state.position.current ≠ some id ∧ id ∉ entered staging state happening := by
  intro state
  have steady := steady_course opened happenings
  have afoot := afoot_course opened happenings
  obtain ⟨entrance, entrances, current, follow⟩ := steady.entered_spec happening
  refine ⟨⟨entrance, entrances, current, fun target member => ?_⟩, fun settings id start found => ⟨?_, ?_⟩⟩
  · rcases follow target member with atStart | ⟨id, here, leads⟩
    · exact .inl atStart
    · obtain ⟨scene, found, next⟩ := of_mem_successorsOf leads
      exact .inr ⟨id, scene, here, found, next⟩
  · exact fun here => Review.not_mem_reachable_of_unreachable found (afoot id here)
  · intro member
    rw [entrances, Option.mem_toList] at member
    obtain ⟨-, startDeclared⟩ := initial_of_opening opened
    exact Review.not_mem_reachable_of_unreachable found
      (afoot.mayEnter startDeclared (follow id member))

end State

end Session

/-- A story in which the hall leads back to itself, and the attic is declared twice: the declaration that
leads to the shed is not the last one. -/
def Story.winding : Story where
  id := "winding"
  version := "1"
  store := Table.empty
  start := "hall"
  scenes := [
    .sequence ⟨"attic", [], [], some "shed", none, Table.empty, false⟩,
    .choice ⟨"hall", "Where to?",
      [⟨"stay", "Stay", [], "hall"⟩, ⟨"up", "Up", [], "attic"⟩, ⟨"down", "Down", [], "cellar"⟩]⟩,
    .sequence ⟨"attic", [], [], some "hall", none, Table.empty, false⟩,
    .sequence ⟨"shed", [], [], none, none, Table.empty, true⟩]

namespace Session.State

theorem winding_moves :
    ∃ initial, opening .winding = .ok initial ∧
      entered ⟨.winding, .silent⟩ (initial.course ⟨.winding, .silent⟩ [.command .start])
        (.command (.choose "up")) = ["attic"] ∧
      ∀ happenings,
        (initial.course ⟨.winding, .silent⟩ happenings).position.current ≠ some "shed" := by
  have opened : opening .winding = .ok (.initial Table.empty) := opening_of_declared (by decide)
  have reported : .unreachable "shed" "hall" ∈ Review.review .standard .winding := by decide
  refine ⟨_, opened, by decide +kernel, fun happenings => ?_⟩
  have moves := moves_along_successors ⟨.winding, .silent⟩ opened happenings (.command .stop)
  exact (moves.2 .standard "shed" "hall" reported).1

end Session.State

end NarrativePlayer
