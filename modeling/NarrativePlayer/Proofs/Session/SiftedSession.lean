import NarrativePlayer.Proofs.Session.AttainedStates
import NarrativePlayer.Proofs.Session.Vigil
import NarrativePlayer.Proofs.Story.SiftedStory

/-!
Contract: a session, and the same session on a story that reads as the sifted one.

A session is sifted by sifting the sequences that it performs and the offers that it showed. Every step
is stated once, as that it commutes with sifting: the step of the sifted session on the sifted story is
the sifted step. Owns runs, which are moves and waiting with all that they come to, and that runs and
vigils commute, whatever the state they begin in. What follows for stories that read alike is next door.
-/

namespace NarrativePlayer.Session

/-! ## Runs -/

/-- What is done to a session, waiting for its sequences included. -/
inductive Step where
  | move (move : Move)
  /-- All sequences are waited for, with or without a limit in milliseconds. -/
  | settle (limit : Option Nat)
deriving DecidableEq, Repr

/-- What is heard back of a step. -/
inductive Answer where
  | reply (reply : Option Reply)
  | report (report : Report)
deriving DecidableEq, Repr

namespace State

def takeStep (state : State) (staging : Staging) (bound : Nat) : Step → Option (State × Answer)
  | .move move => (make staging bound state move).map fun (next, reply) => (next, .reply reply)
  | .settle limit =>
      (state.settle staging limit bound).map fun (next, report) => (next, .report report)

/-- All that a session comes to in a run, step by step, if each is over in a bounded number of steps. -/
def run (staging : Staging) (bound : Nat) : State → List Step → Option (List (State × Answer))
  | _, [] => some []
  | state, step :: rest =>
      match state.takeStep staging bound step with
      | none => none
      | some (next, answer) => (run staging bound next rest).map ((next, answer) :: ·)

end State

/-! ## Sifted sessions -/

/-- The same staging of another story. -/
def Staging.retold (staging : Staging) (story : Story) : Staging :=
  { staging with story := story }

end NarrativePlayer.Session

namespace NarrativePlayer.Sieve

open Session

def activity (sieve : Sieve) : Activity → Activity
  | .performance body generation stage => .performance (sieve.sequence body) generation stage
  | .call released finished => .call released finished

/-- What an event shows of a story that is sifted. Only offers show their actions. -/
def event (sieve : Sieve) : Event → Event
  | .showChoices prompt offers => .showChoices prompt (offers.map sieve.offer)
  | other => other

/-- The sifted session. -/
def state (sieve : Sieve) (state : State) : State :=
  { state with
    activities := state.activities.map sieve.activity, trace := state.trace.map sieve.event }

/-- The sifted session, with what came along. -/
def outcome {α : Type} (sieve : Sieve) (outcome : State × α) : State × α :=
  (sieve.state outcome.1, outcome.2)

section Parts

variable (sieve : Sieve) (state : State)

@[simp] theorem position_state : (sieve.state state).position = state.position := rfl

@[simp] theorem clock_state : (sieve.state state).clock = state.clock := rfl

@[simp] theorem printOpen_state : (sieve.state state).printOpen = state.printOpen := rfl

@[simp] theorem displayOpen_state : (sieve.state state).displayOpen = state.displayOpen := rfl

@[simp] theorem faulty_state : (sieve.state state).faulty = state.faulty := rfl

@[simp] theorem queue_state : (sieve.state state).queue = state.queue := rfl

@[simp] theorem latest_state : (sieve.state state).latest = state.latest := rfl

@[simp] theorem activity?_state (ticket : Nat) :
    (sieve.state state).activities[ticket]? = (state.activities[ticket]?).map sieve.activity :=
  List.getElem?_map

end Parts

theorem activity_all (activity : Activity) : all.activity activity = activity := by
  cases activity with
  | performance body generation stage => simp only [Sieve.activity, sequence_all]
  | call released finished => rfl

theorem event_all (event : Event) : all.event event = event := by
  cases event with
  | showChoices prompt offers =>
      simp only [Sieve.event, List.map_congr_left fun other _ => offer_all other, List.map_id_fun', id]
  | _ => rfl

theorem state_all (state : State) : all.state state = state := by
  simp only [Sieve.state, List.map_congr_left fun other _ => activity_all other,
    List.map_congr_left fun other _ => event_all other, List.map_id_fun', id]

theorem outcome_all {α : Type} (outcome : State × α) : all.outcome outcome = outcome := by
  simp only [Sieve.outcome, state_all]

end NarrativePlayer.Sieve

namespace NarrativePlayer.Session

namespace State

/-! ## Changes of single parts -/

section Parts

variable (sieve : Sieve) (staging : Staging) (lean : Story) (state : State)

theorem map_event_journaled (category : Journal.Category) (level : Journal.Level) (message : String) :
    (journaled staging category level message).map sieve.event =
      journaled staging category level message := by
  unfold journaled
  split
  · rfl
  · rfl

theorem map_event_assignmentsJournaled (submitted : Option String) (actions : List Action) :
    (assignmentsJournaled staging submitted actions).map sieve.event =
      assignmentsJournaled staging submitted actions := by
  unfold assignmentsJournaled
  simp only [List.map_flatMap, map_event_journaled]

theorem journaled_retold (category : Journal.Category) (level : Journal.Level) (message : String) :
    journaled (staging.retold lean) category level message =
      journaled staging category level message := rfl

theorem assignmentsJournaled_retold (submitted : Option String) (actions : List Action) :
    assignmentsJournaled (staging.retold lean) submitted (sieve.actions actions) =
      assignmentsJournaled staging submitted actions := by
  unfold assignmentsJournaled
  rw [sieve.assignments_actions]
  rfl

theorem note_sifted (category : Journal.Category) (level : Journal.Level) (message : String) :
    (sieve.state state).note (staging.retold lean) category level message =
      sieve.state (state.note staging category level message) := by
  simp only [note_eq, journaled_retold, Sieve.state, List.map_append, map_event_journaled]

theorem announce_sifted (scene : String) (mode : Mode) :
    (sieve.state state).announce (staging.retold lean) scene mode =
      sieve.state (state.announce staging scene mode) := by
  simp only [announce_eq, journaled_retold, Sieve.state, List.map_cons, List.map_append,
    map_event_journaled, Sieve.event]

theorem act_sifted (submitted : Option String) (actions : List Action) :
    (sieve.state state).act (staging.retold lean) submitted (sieve.actions actions) =
      sieve.state (state.act staging submitted actions) := by
  simp only [act_eq, assignmentsJournaled_retold, sieve.applyActions_actions, Sieve.state,
    List.map_append, map_event_assignmentsJournaled]

theorem place_sifted (position : Position) :
    (sieve.state state).place position = sieve.state (state.place position) := rfl

theorem spawn_sifted (activity : Activity) :
    (sieve.state state).spawn (sieve.activity activity) = sieve.state (state.spawn activity) := by
  simp only [spawn, Sieve.state, List.map_append, List.map_cons, List.map_nil, List.length_map]

theorem replace_sifted (ticket : Nat) (activity : Activity) :
    (sieve.state state).replace ticket (sieve.activity activity) =
      sieve.state (state.replace ticket activity) := by
  simp only [replace, Sieve.state, List.map_set]

theorem await_sifted (interaction : Interaction) (scene : String) :
    (sieve.state state).await (staging.retold lean) interaction scene =
      sieve.state (state.await staging interaction scene) :=
  announce_sifted sieve staging lean (state.place _) scene (.waiting interaction)

theorem finish_sifted (id : String) :
    (sieve.state state).finish (staging.retold lean) id = sieve.state (state.finish staging id) :=
  announce_sifted sieve staging lean (state.place _) id .ended

theorem beginSequence_sifted (id : String) (body : Sequence) :
    (sieve.state state).beginSequence (staging.retold lean) id (sieve.sequence body) =
      sieve.state (state.beginSequence staging id body) := by
  simp only [beginSequence, place, announce_eq, act_eq, spawn, journaled_retold, Sieve.sequence,
    assignmentsJournaled_retold, sieve.applyActions_actions, Sieve.state, Sieve.activity, Sieve.event,
    List.map_append, List.map_cons, List.map_nil, List.length_map, map_event_journaled,
    map_event_assignmentsJournaled]

theorem reply_sifted (entered : State × Entrance) :
    reply (sieve.outcome entered) = sieve.outcome (reply entered) := by
  obtain ⟨state, entrance⟩ := entered
  cases entrance with
  | made => rfl
  | failed trouble => rfl
  | held =>
      unfold reply Sieve.outcome
      dsimp only
      rw [← spawn_sifted]
      simp only [Sieve.state, Sieve.activity, List.length_map]

theorem abandon_sifted (id message : String) :
    (sieve.state state).abandon (staging.retold lean) id message =
      sieve.outcome (state.abandon staging id message) := by
  unfold abandon Sieve.outcome
  rw [note_sifted]

theorem beginLine_sifted (id : String) (generation index : Nat) (line : Line) :
    (sieve.state state).beginLine (staging.retold lean) id generation index line =
      sieve.outcome (state.beginLine staging id generation index line) := by
  simp only [beginLine, note_sifted, abandon_sifted, Sieve.position_state, Sieve.faulty_state]
  generalize state.note staging .timing .trace _ = noted
  cases noted.position.isCurrent generation with
  | false => rfl
  | true =>
      cases noted.faulty with
      | false => rfl
      | true => rfl

theorem endLine_sifted (id : String) (generation index : Nat) (line : Line) :
    (sieve.state state).endLine (staging.retold lean) id generation index line =
      sieve.outcome (state.endLine staging id generation index line) := by
  simp only [endLine, abandon_sifted, Sieve.position_state]
  split
  · rfl
  · split
    · rfl
    · rfl

end Parts

/-! ## Entering scenes -/

section Entering

variable {sieve : Sieve} {staging : Staging} {lean : Story}

theorem enter_sifted (reads : staging.story.ReadsAs sieve lean) (state : State) (id : String)
    (generation : Nat) :
    (sieve.state state).enter (staging.retold lean) id generation =
      sieve.outcome (state.enter staging id generation) := by
  have found : (staging.retold lean).story.find id = (staging.story.find id).map sieve.scene :=
    reads.find id
  unfold enter
  rw [found]
  cases staging.story.find id with
  | error trouble => rfl
  | ok scene =>
      simp only [Except.map, note_sifted, Sieve.position_state, Sieve.isTerminal_scene,
        Sieve.kind_scene, finish_sifted]
      split
      · rfl
      · split
        · rfl
        · cases scene with
          | sequence body =>
              simp only [Sieve.scene, beginSequence_sifted]
              rfl
          | question body =>
              simp only [Sieve.scene, await_sifted]
              rfl
          | choice body =>
              simp only [Sieve.scene, await_sifted]
              rfl

theorem conclude_sifted (reads : staging.story.ReadsAs sieve lean) (state : State) (generation : Nat)
    (body : Sequence) :
    (sieve.state state).conclude (staging.retold lean) generation (sieve.sequence body) =
      sieve.outcome (state.conclude staging generation body) := by
  simp only [conclude, abandon_sifted, Sieve.position_state, Sieve.sequence, await_sifted]
  split
  · rfl
  · split
    · rfl
    · split
      · exact congrArg (·, Stage.finished .succeeded)
          (announce_sifted sieve staging lean (state.place _) body.id .ended)
      · rename_i target next
        rw [enter_sifted reads]
        rcases state.enter staging target generation with ⟨entered, made | trouble | held⟩
        · rfl
        · rfl
        · rfl

theorem perform_sifted (reads : staging.story.ReadsAs sieve lean) (state : State) (body : Sequence)
    (generation : Nat) (stage : Stage) :
    (sieve.state state).perform (staging.retold lean) (sieve.sequence body) generation stage =
      sieve.outcome (state.perform staging body generation stage) := by
  have lines : (sieve.sequence body).lines = body.lines := rfl
  have id : (sieve.sequence body).id = body.id := rfl
  unfold perform
  split
  · rw [lines]
    split
    · rw [id, beginLine_sifted]
    · rw [conclude_sifted reads]
  · rw [lines]
    split
    · rw [id, endLine_sifted]
    · rfl
  · rfl
  · rfl

theorem goOn_sifted (reads : staging.story.ReadsAs sieve lean) (state : State) (ticket : Nat) :
    (sieve.state state).goOn (staging.retold lean) ticket = sieve.state (state.goOn staging ticket) := by
  simp only [goOn, Sieve.activity?_state]
  cases state.activities[ticket]? with
  | none => rfl
  | some activity =>
      cases activity with
      | performance body generation stage =>
          simp only [Option.map_some, Sieve.activity, perform_sifted reads]
          exact replace_sifted sieve _ ticket (.performance body generation _)
      | call released finished =>
          cases released with
          | false => rfl
          | true =>
              cases finished with
              | true => rfl
              | false => exact replace_sifted sieve (state.emit (.done ticket)) ticket (.call true true)

/-! ## Commands -/

theorem start_sifted (reads : staging.story.ReadsAs sieve lean) (state : State) :
    (sieve.state state).start (staging.retold lean) = sieve.outcome (state.start staging) := by
  have id : (staging.retold lean).story.id = staging.story.id := reads.id
  have version : (staging.retold lean).story.version = staging.story.version := reads.version
  have start : (staging.retold lean).story.start = staging.story.start := reads.start
  unfold State.start
  dsimp only
  rw [id, version, start, place_sifted, note_sifted, ← reply_sifted, ← enter_sifted reads]
  rfl

theorem stop_sifted (sieve : Sieve) (staging : Staging) (lean : Story) (state : State) :
    (sieve.state state).stop (staging.retold lean) = sieve.state (state.stop staging) := by
  unfold stop
  dsimp only
  rw [← announce_sifted, ← note_sifted]
  rfl

theorem ignore_sifted (sieve : Sieve) (staging : Staging) (lean : Story) (state : State)
    (message : String) :
    (sieve.state state).ignore (staging.retold lean) message =
      sieve.outcome (state.ignore staging message) := by
  unfold ignore Sieve.outcome
  rw [note_sifted]

theorem follow_sifted (reads : staging.story.ReadsAs sieve lean) (state : State)
    (submitted : Option String) (actions : List Action) (target : String) :
    (sieve.state state).follow (staging.retold lean) submitted (sieve.actions actions) target =
      sieve.outcome (state.follow staging submitted actions target) := by
  have found : (staging.retold lean).story.find target =
      (staging.story.find target).map sieve.scene := reads.find target
  unfold follow
  rw [found]
  cases staging.story.find target with
  | error trouble => rfl
  | ok scene =>
      simp only [Except.map, act_sifted]
      rw [← reply_sifted, ← enter_sifted reads]
      rfl

theorem submit_sifted (reads : staging.story.ReadsAs sieve lean) (state : State) (raw : String) :
    (sieve.state state).submit (staging.retold lean) raw = sieve.outcome (state.submit staging raw) := by
  unfold submit
  rw [Sieve.position_state]
  split
  · rw [ignore_sifted]
  · rename_i id pending
    have found : (staging.retold lean).story.find id >>= Scene.asQuestion =
        (staging.story.find id >>= Scene.asQuestion).map sieve.question :=
      reads.find_bind sieve.asQuestion_scene id
    rw [found]
    cases staging.story.find id >>= Scene.asQuestion with
    | error trouble => rfl
    | ok body =>
        simp only [Except.map, sieve.submission?_question]
        cases body.submission? with
        | none => rw [Option.map_none, ignore_sifted]
        | some transition =>
            have complaint : complaint? (sieve.transition transition).guards (body.field.normalize raw) =
                complaint? transition.guards (body.field.normalize raw) :=
              sieve.complaint?_guards transition.guards _
            simp only [Option.map_some, Sieve.question, complaint]
            split
            · rw [note_sifted]
              rfl
            · exact follow_sifted reads state _ transition.actions transition.target

theorem choose_sifted (reads : staging.story.ReadsAs sieve lean) (state : State) (offer : String) :
    (sieve.state state).choose (staging.retold lean) offer =
      sieve.outcome (state.choose staging offer) := by
  unfold choose
  rw [Sieve.position_state]
  split
  · rw [ignore_sifted]
  · rename_i id pending
    have found : (staging.retold lean).story.find id >>= Scene.asChoice =
        (staging.story.find id >>= Scene.asChoice).map sieve.choice :=
      reads.find_bind sieve.asChoice_scene id
    rw [found]
    cases staging.story.find id >>= Scene.asChoice with
    | error trouble => rfl
    | ok body =>
        simp only [Except.map, sieve.offer?_choice]
        cases body.offer? offer with
        | none => rw [Option.map_none, ignore_sifted]
        | some chosen => exact follow_sifted reads state none chosen.actions chosen.target

theorem acknowledge_sifted (reads : staging.story.ReadsAs sieve lean) (state : State) :
    (sieve.state state).acknowledge (staging.retold lean) =
      sieve.outcome (state.acknowledge staging) := by
  unfold acknowledge
  rw [Sieve.position_state]
  split
  · rw [ignore_sifted]
  · rename_i id pending
    have found : (staging.retold lean).story.find id >>= Scene.asSequence =
        (staging.story.find id >>= Scene.asSequence).map sieve.sequence :=
      reads.find_bind sieve.asSequence_scene id
    rw [found]
    cases staging.story.find id >>= Scene.asSequence with
    | error trouble => rfl
    | ok body =>
        simp only [Except.map, Sieve.sequence]
        cases body.events.find? enterEvent with
        | none =>
            dsimp only
            rw [place_sifted, note_sifted, announce_sifted]
            rfl
        | some target =>
            have leads : (staging.retold lean).story.find target =
                (staging.story.find target).map sieve.scene := reads.find target
            dsimp only
            rw [leads]
            cases staging.story.find target with
            | error trouble => rfl
            | ok scene =>
                simp only [Except.map]
                rw [← reply_sifted, ← enter_sifted reads]
                rfl

theorem execute_sifted (reads : staging.story.ReadsAs sieve lean) (state : State) (command : Command) :
    (sieve.state state).execute (staging.retold lean) command =
      sieve.outcome (state.execute staging command) := by
  cases command with
  | start => exact start_sifted reads state
  | stop => exact congrArg (·, Reply.done) (stop_sifted sieve staging lean state)
  | submit answer => exact submit_sifted reads state answer
  | choose offer => exact choose_sifted reads state offer
  | enter => exact acknowledge_sifted reads state

end Entering

/-! ## Gates and waking up -/

section Rousing

variable (sieve : Sieve) (state : State)

theorem getD_sifted {change : Activity → Option Activity}
    (alike : ∀ activity, change (sieve.activity activity) = (change activity).map sieve.activity)
    (activity : Activity) :
    (change (sieve.activity activity)).getD (sieve.activity activity) =
      sieve.activity ((change activity).getD activity) := by
  rw [alike]
  cases change activity with
  | none => rfl
  | some after => rfl

/-- What rouses activities whatever they perform rouses the same ones of the sifted session. -/
theorem rouse_sifted {change : Activity → Option Activity}
    (alike : ∀ activity, change (sieve.activity activity) = (change activity).map sieve.activity) :
    (sieve.state state).rouse change = sieve.state (state.rouse change) := by
  have activities : (sieve.state state).activities = state.activities.map sieve.activity := rfl
  have affected : (sieve.state state).affected change = state.affected change := by
    unfold State.affected
    rw [activities, List.zipIdx_map, List.filterMap_map]
    simp only [Function.comp_def, Prod.map, id, alike, Option.isSome_map]
  unfold State.rouse
  rw [affected]
  simp only [Sieve.state, List.map_map, Function.comp_def, getD_sifted sieve alike]

theorem released?_sifted (gate : Gate) (activity : Activity) :
    released? gate (sieve.activity activity) = (released? gate activity).map sieve.activity := by
  cases activity with
  | call released finished =>
      cases released with
      | true => rfl
      | false => cases gate <;> rfl
  | performance body generation stage =>
      cases stage with
      | printing index released =>
          cases released with
          | true => rfl
          | false => cases gate <;> rfl
      | presenting released =>
          cases released with
          | true => rfl
          | false => cases gate <;> rfl
      | _ => rfl

theorem awakened?_sifted (moment : Nat) (activity : Activity) :
    awakened? moment (sieve.activity activity) =
      (awakened? moment activity).map sieve.activity := by
  cases activity with
  | call => rfl
  | performance body generation stage =>
      cases stage with
      | resting index due =>
          simp only [awakened?, Sieve.activity]
          split
          · rfl
          · rfl
      | _ => rfl

theorem broken?_sifted (activity : Activity) :
    broken? (sieve.activity activity) = (broken? activity).map sieve.activity := by
  cases activity with
  | call => rfl
  | performance body generation stage =>
      cases stage with
      | printing index released => cases released <;> rfl
      | _ => rfl

theorem wakingTime?_sifted (activity : Activity) :
    wakingTime? (sieve.activity activity) = wakingTime? activity := by
  cases activity with
  | call => rfl
  | performance body generation stage => cases stage <;> rfl

theorem canGoOn_sifted (activity : Activity) : (sieve.activity activity).canGoOn = activity.canGoOn := by
  cases activity with
  | call => rfl
  | performance body generation stage =>
      cases stage with
      | printing index released => rfl
      | presenting released => rfl
      | _ => rfl

theorem release_sifted (gate : Gate) :
    (sieve.state state).release gate = sieve.state (state.release gate) :=
  rouse_sifted sieve state (released?_sifted sieve gate)

theorem setGate_sifted (gate : Gate) (opened : Bool) :
    (sieve.state state).setGate gate opened = sieve.state (state.setGate gate opened) := by
  cases gate with
  | print => rfl
  | display => rfl

theorem openGate_sifted (gate : Gate) :
    (sieve.state state).openGate gate = sieve.state (state.openGate gate) := by
  unfold openGate
  rw [setGate_sifted, release_sifted]

theorem moveTo_sifted (moment : Nat) :
    (sieve.state state).moveTo moment = sieve.state (state.moveTo moment) :=
  rouse_sifted sieve { state with clock := moment } (awakened?_sifted sieve moment)

theorem rouseOne_sifted {change : Activity → Option Activity}
    (alike : ∀ activity, change (sieve.activity activity) = (change activity).map sieve.activity)
    (ticket : Nat) :
    (sieve.state state).rouseOne change ticket = sieve.state (state.rouseOne change ticket) := by
  have modified : (state.activities.map sieve.activity).modify ticket
        (fun activity => (change activity).getD activity) =
      (state.activities.modify ticket fun activity => (change activity).getD activity).map
        sieve.activity := by
    refine List.ext_getElem? fun index => ?_
    rw [List.getElem?_modify, List.getElem?_map, List.getElem?_map, List.getElem?_modify]
    cases state.activities[index]? with
    | none => rfl
    | some activity =>
        simp only [Option.map_some, Option.map_eq_map]
        split
        · rw [getD_sifted sieve alike]
        · rfl
  simp only [State.rouseOne, Sieve.state, modified]

theorem nextWaking?_sifted : (sieve.state state).nextWaking? = state.nextWaking? := by
  unfold nextWaking?
  rw [show (sieve.state state).activities = state.activities.map sieve.activity from rfl,
    List.filterMap_map]
  simp only [Function.comp_def, wakingTime?_sifted]

theorem outcome?_sifted (ticket : Nat) :
    (sieve.state state).outcome? ticket = state.outcome? ticket := by
  unfold outcome?
  rw [Sieve.activity?_state]
  cases state.activities[ticket]? with
  | none => rfl
  | some activity =>
      cases activity with
      | call => rfl
      | performance body generation stage => cases stage <;> rfl

end Rousing

/-! ## The schedule, time, and waiting -/

section Scheduling

variable {sieve : Sieve} {staging : Staging} {lean : Story}

theorem pump_sifted (reads : staging.story.ReadsAs sieve lean) (state : State) :
    (sieve.state state).pump (staging.retold lean) = sieve.state (state.pump staging) := by
  unfold pump
  rw [Sieve.queue_state]
  split
  · rfl
  · rename_i ticket rest queued
    rw [Sieve.activity?_state]
    cases state.activities[ticket]? with
    | none => rfl
    | some activity =>
        simp only [Option.map_some, canGoOn_sifted, goOn_sifted reads]
        split
        · rfl
        · rfl

theorem drain_sifted (reads : staging.story.ReadsAs sieve lean) (bound : Nat) (state : State) :
    drain (staging.retold lean) bound (sieve.state state) =
      (drain staging bound state).map sieve.state := by
  induction bound generalizing state with
  | zero => rfl
  | succ bound inductionHypothesis =>
      simp only [drain, Sieve.queue_state, pump_sifted reads, inductionHypothesis]
      split
      · rfl
      · rfl

theorem advanceTo_sifted (reads : staging.story.ReadsAs sieve lean) (moment bound : Nat)
    (state : State) :
    advanceTo (staging.retold lean) moment bound (sieve.state state) =
      (advanceTo staging moment bound state).map sieve.state := by
  induction bound generalizing state with
  | zero => rfl
  | succ bound inductionHypothesis =>
      simp only [advanceTo, Sieve.queue_state, pump_sifted reads, nextWaking?_sifted, moveTo_sifted,
        inductionHypothesis]
      split
      · rfl
      · split
        · split
          · rfl
          · rfl
        · rfl

theorem watch_sifted (reads : staging.story.ReadsAs sieve lean) (deadline : Option Nat) (state : State)
    (progress : Watch) :
    watch (staging.retold lean) deadline (sieve.state state) progress =
      sieve.outcome (watch staging deadline state progress) := by
  cases progress with
  | seeking =>
      simp only [watch, Sieve.latest_state]
      split
      · rfl
      · rfl
  | looking ticket =>
      simp only [watch, outcome?_sifted, Sieve.clock_state]
      cases state.outcome? ticket with
      | some outcome => rfl
      | none =>
          by_cases early : isBefore state.clock deadline = true
          · simp only [early, if_true]
            rfl
          · simp only [early]
            rfl
  | watching ticket =>
      have gaveUp : (sieve.state state).giveUp deadline = sieve.outcome (state.giveUp deadline) := by
        cases deadline with
        | none => rfl
        | some last => exact congrArg (·, Watch.reported .timedOut) (moveTo_sifted sieve state last)
      simp only [watch, Sieve.queue_state, pump_sifted reads, outcome?_sifted, nextWaking?_sifted,
        moveTo_sifted, gaveUp]
      cases state.queue.isEmpty with
      | false => rfl
      | true =>
          cases state.outcome? ticket with
          | some outcome => rfl
          | none =>
              cases state.nextWaking? with
              | none => rfl
              | some due =>
                  dsimp only
                  cases isBefore due deadline <;> rfl
  | reported report => rfl

theorem watchFor_sifted (reads : staging.story.ReadsAs sieve lean) (deadline : Option Nat)
    (bound : Nat) (state : State) (progress : Watch) :
    watchFor (staging.retold lean) deadline bound (sieve.state state) progress =
      (watchFor staging deadline bound state progress).map sieve.outcome := by
  induction bound generalizing state progress with
  | zero => rfl
  | succ bound inductionHypothesis =>
      cases progress with
      | reported report => rfl
      | _ =>
          simp only [watchFor, watch_sifted reads, Sieve.outcome, inductionHypothesis]

/-- Waiting for the sequences of the sifted session takes as long, and ends in the same report. -/
theorem settle_sifted (reads : staging.story.ReadsAs sieve lean) (state : State) (limit : Option Nat)
    (bound : Nat) :
    (sieve.state state).settle (staging.retold lean) limit bound =
      (state.settle staging limit bound).map sieve.outcome :=
  watchFor_sifted reads _ bound state .seeking

/-- A move of the sifted session has the same reply. -/
theorem make_sifted (reads : staging.story.ReadsAs sieve lean) (bound : Nat) (state : State)
    (move : Move) :
    make (staging.retold lean) bound (sieve.state state) move =
      (make staging bound state move).map sieve.outcome := by
  cases move with
  | command told => simp only [make, execute_sifted reads, Sieve.outcome, Option.map_some]
  | tick =>
      simp only [make, drain_sifted reads, Option.map_map]
      rfl
  | advance time =>
      simp only [make, advanceTo_sifted reads, Sieve.clock_state, Option.map_map]
      rfl
  | shut gate => exact congrArg (fun shut => some (shut, none)) (setGate_sifted sieve state gate false)
  | lift gate => exact congrArg (fun lifted => some (lifted, none)) (openGate_sifted sieve state gate)
  | pulse gate => exact congrArg (fun pulsed => some (pulsed, none)) (release_sifted sieve state gate)
  | fault => rfl

/-- The step of a run has the same answer. -/
theorem takeStep_sifted (reads : staging.story.ReadsAs sieve lean) (bound : Nat) (state : State)
    (step : Step) :
    (sieve.state state).takeStep (staging.retold lean) bound step =
      (state.takeStep staging bound step).map sieve.outcome := by
  cases step with
  | move move =>
      simp only [takeStep, make_sifted reads, Option.map_map]
      rfl
  | settle limit =>
      simp only [takeStep, settle_sifted reads, Option.map_map]
      rfl

theorem run_sifted (reads : staging.story.ReadsAs sieve lean) (bound : Nat) (state : State)
    (steps : List Step) :
    (sieve.state state).run (staging.retold lean) bound steps =
      (state.run staging bound steps).map (List.map sieve.outcome) := by
  induction steps generalizing state with
  | nil => rfl
  | cons step rest inductionHypothesis =>
      simp only [run, takeStep_sifted reads]
      cases state.takeStep staging bound step with
      | none => rfl
      | some taken =>
          simp only [Option.map_some, Sieve.outcome, inductionHypothesis, Option.map_map]
          rfl

theorem after_sifted (reads : staging.story.ReadsAs sieve lean) (state : State)
    (happening : Happening) :
    (sieve.state state).after (staging.retold lean) happening =
      sieve.state (state.after staging happening) := by
  cases happening with
  | command told => exact congrArg Prod.fst (execute_sifted reads state told)
  | step ticket => exact goOn_sifted reads state ticket
  | release gate ticket => exact rouseOne_sifted sieve state (released?_sifted sieve gate) ticket
  | wake ticket => exact rouseOne_sifted sieve state (awakened?_sifted sieve state.clock) ticket
  | breakDown ticket => exact rouseOne_sifted sieve state (broken?_sifted sieve) ticket
  | turn gate opened => exact setGate_sifted sieve state gate opened
  | _ => rfl

theorem opening_sifted {story : Story} (reads : story.ReadsAs sieve lean) :
    opening lean = opening story := by
  unfold opening
  rw [reads.id, reads.start, reads.store, Story.isSome_position?, Story.isSome_position?,
    reads.declares]

end Scheduling

end State

/-! ## Vigils -/

/-- The sifted session, and whoever waits for it. -/
def Vigil.sifted (sieve : Sieve) (vigil : Vigil) : Vigil :=
  { vigil with state := sieve.state vigil.state }

theorem Vigil.attend_sifted {sieve : Sieve} {staging : Staging} {lean : Story}
    (reads : staging.story.ReadsAs sieve lean) (vigil : Vigil) (turns : List Turn) :
    (vigil.sifted sieve).attend (staging.retold lean) turns =
      (vigil.attend staging turns).sifted sieve := by
  have afterTurn : ∀ vigil turn, Vigil.after (staging.retold lean) (sifted sieve vigil) turn =
      (Vigil.after staging vigil turn).sifted sieve := by
    rintro ⟨state, waiting, reports⟩ turn
    cases turn with
    | happens happening untaken =>
        simp only [Vigil.after, Vigil.sifted, State.after_sifted reads]
    | waits => cases waiting <;> rfl
    | looks =>
        cases waiting with
        | nobody => rfl
        | seeking => simp only [Vigil.after, look, sifted, State.watch_sifted reads, heed, Sieve.outcome]
        | awaiting ticket =>
            simp only [Vigil.after, look, sifted, State.watch_sifted reads, heed, Sieve.outcome]
  induction turns generalizing vigil with
  | nil => rfl
  | cons turn rest inductionHypothesis =>
      unfold attend at *
      rw [List.foldl_cons, List.foldl_cons, afterTurn, inductionHypothesis]

end NarrativePlayer.Session
