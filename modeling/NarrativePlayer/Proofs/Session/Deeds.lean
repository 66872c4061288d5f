import NarrativePlayer.Proofs.Session.Activities

/-!
Contract: the deeds of a session.

A deed is what may write variables: an answer that is accepted, an option that is picked, or a sequence
that is announced as running. Owns which deeds there are in a happening, which is read off the command,
what was awaited when it came, and the calls of the terminal, and never off the variables; and that
whatever happens, replaying its deeds gives the variables. The deeds of a whole course are next door.
-/

namespace NarrativePlayer

/-- The question that an id stands for. -/
def Story.question? (story : Story) (id : String) : Option Question :=
  match story.find? id with
  | some (.question question) => some question
  | _ => none

/-- The choice that an id stands for. -/
def Story.choice? (story : Story) (id : String) : Option Choice :=
  match story.find? id with
  | some (.choice choice) => some choice
  | _ => none

/-- The sequence that an id stands for. -/
def Story.sequence? (story : Story) (id : String) : Option Sequence :=
  match story.find? id with
  | some (.sequence sequence) => some sequence
  | _ => none

namespace Session

/-- What may write variables. -/
inductive Deed where
  /-- A question accepted an answer, given here as it was typed. -/
  | answered (question raw : String)
  /-- An option of a choice was picked. -/
  | chose (choice offer : String)
  /-- A sequence was announced as running. -/
  | ran (sequence : String)
deriving DecidableEq, Repr

/-- The variables after a deed, as the story has it. -/
def Deed.apply (story : Story) (store : Table) : Deed → Table
  | .answered id raw =>
      match story.question? id with
      | none => store
      | some question =>
          match question.submission? with
          | none => store
          | some transition =>
              applyActions (some (question.field.normalize raw)) transition.actions store
  | .chose id offer =>
      match (story.choice? id).bind (·.offer? offer) with
      | none => store
      | some chosen => applyActions none chosen.actions store
  | .ran id =>
      match story.sequence? id with
      | none => store
      | some sequence => applyActions none sequence.actions store

/-- The variables after deeds, one after the other. -/
def replay (story : Story) (deeds : List Deed) (store : Table) : Table :=
  deeds.foldl (Deed.apply story) store

theorem replay_append (story : Story) (first second : List Deed) (store : Table) :
    replay story (first ++ second) store = replay story second (replay story first store) :=
  List.foldl_append

/-- The interaction that a deed answers. -/
def Deed.interaction? : Deed → Option Interaction
  | .answered _ _ => some .answer
  | .chose _ _ => some .choice
  | .ran _ => none

/-! ## What deeds are read off -/

/-- The deed of a command, if it is accepted: what it answers is awaited, there is a way out of the
scene that is waited with, no guard holds it up, and it leads to a scene that is declared. -/
def Command.deed? (story : Story) (position : Position) : Command → Option Deed
  | .submit raw =>
      (position.pendingFor? .answer).bind fun id =>
        (story.question? id).bind fun question =>
          question.submission?.bind fun transition =>
            if complaint? transition.guards (question.field.normalize raw) = none ∧
                story.declares transition.target = true then
              some (.answered id raw)
            else none
  | .choose offer =>
      (position.pendingFor? .choice).bind fun id =>
        (story.choice? id).bind fun choice =>
          (choice.offer? offer).bind fun chosen =>
            if story.declares chosen.target = true then some (.chose id offer) else none
  | _ => none

/-- The command among what can happen. -/
def Happening.command? : Happening → Option Command
  | .command told => some told
  | _ => none

/-- The deed that a call announces. -/
def Event.deed? : Event → Option Deed
  | .changed id .running => some (.ran id)
  | _ => none

/-- The deed that an activity is begun with. -/
def Activity.deed? : Activity → Option Deed
  | .performance sequence _ _ => some (.ran sequence.id)
  | .call _ _ => none

/-- Whether a call announces that an interaction is awaited. -/
def Event.announces (interaction : Interaction) : Event → Bool
  | .changed _ (.waiting other) => decide (other = interaction)
  | _ => false

/-- How many interactions of a kind are awaited: one or none. -/
def Position.awaits (position : Position) (interaction : Interaction) : Nat :=
  if (position.pendingFor? interaction).isSome then 1 else 0

theorem Position.awaits_park (position : Position) (interaction other : Interaction) (scene : String) :
    (position.park other scene).awaits interaction = if other = interaction then 1 else 0 := by
  unfold awaits pendingFor? park
  by_cases same : other = interaction
  · simp [same]
  · simp [same]

theorem Position.awaits_le_of_pending_eq {position other : Position}
    (same : position.pending = other.pending) (interaction : Interaction) (more : Nat) :
    0 + position.awaits interaction ≤ other.awaits interaction + more := by
  have equal : position.awaits interaction = other.awaits interaction := by
    unfold awaits pendingFor?
    rw [same]
  omega

theorem Position.awaits_of_pending_eq_none {position : Position} (interaction : Interaction)
    (nothing : position.pending = none) : position.awaits interaction = 0 := by
  simp [awaits, pendingFor?, nothing]

theorem Position.awaits_of_pendingFor? {position : Position} {interaction : Interaction} {id : String}
    (awaited : position.pendingFor? interaction = some id) : position.awaits interaction = 1 := by
  simp [awaits, awaited]

/-- How many of some deeds answer an interaction. -/
def answersTo (interaction : Interaction) (deeds : List Deed) : Nat :=
  deeds.countP fun deed => decide (deed.interaction? = some interaction)

theorem answersTo_append (interaction : Interaction) (first second : List Deed) :
    answersTo interaction (first ++ second) =
      answersTo interaction first + answersTo interaction second :=
  List.countP_append

namespace State

/-- The calls of the terminal that were made since an earlier state. -/
def callsSince (earlier later : State) : List Event :=
  later.calls.drop earlier.calls.length

/-- The deed that was accepted of a command. -/
def accepted (staging : Staging) (state : State) (happening : Happening) : List Deed :=
  (happening.command?.bind (·.deed? staging.story state.position)).toList

/-- The deeds of a happening: what was accepted, and then what was announced as running. -/
def deeds (staging : Staging) (state : State) (happening : Happening) : List Deed :=
  accepted staging state happening ++
    (callsSince state (state.after staging happening)).filterMap Event.deed?

theorem callsSince_of_calls {earlier later : State} {calls : List Event}
    (equal : later.calls = earlier.calls ++ calls) : callsSince earlier later = calls := by
  rw [callsSince, equal, List.drop_left]

theorem calls_of_trace {state later : State} {added : List Event}
    (equal : later.trace = added ++ state.trace) :
    later.calls = state.calls ++ (added.filter Event.isCall).reverse := by
  rw [calls, calls, equal, List.filter_append, List.reverse_append]

theorem calls_of_call {state later : State} {event : Event} {notes : List Event}
    (silent : Silent notes) (isCall : event.isCall = true)
    (equal : later.trace = event :: (notes ++ state.trace)) :
    later.calls = state.calls ++ [event] := by
  have added : later.trace = (event :: notes) ++ state.trace := equal
  rw [calls_of_trace added, List.filter_cons_of_pos isCall, silent.filter_isCall]
  rfl

end State

/-! ## What was accepted -/

/-- What a command leaves by to a scene that is declared is accepted, and its actions are those of the
deed. -/
theorem Leaves.replay_deed {story : Story} {position : Position} {command : Command}
    {submitted : Option String} {actions : List Action} {target : String}
    (leaves : Leaves story position command submitted actions target)
    (declared : story.declares target = true) (store : Table) :
    replay story (command.deed? story position).toList store =
      applyActions submitted actions store := by
  cases leaves with
  | submitted awaited found taken passed =>
      simp [replay, Command.deed?, Deed.apply, Story.question?, awaited, found, taken, passed, declared]
  | chosen awaited found taken =>
      simp [replay, Command.deed?, Deed.apply, Story.choice?, awaited, found, taken, declared]
  | acknowledged => rfl

/-- A command that is answered is accepted only if it leaves for a scene that is declared. -/
theorem leaves_of_deed {story : Story} {position : Position} {command : Command} {deed : Deed}
    (accepted : command.deed? story position = some deed) :
    ∃ submitted actions target, Leaves story position command submitted actions target ∧
      story.declares target = true ∧ deed.interaction? = command.interaction? ∧
      command.clearing = [.clear] := by
  cases command with
  | submit raw =>
      obtain ⟨id, awaited, rest⟩ := Option.bind_eq_some_iff.mp accepted
      obtain ⟨question, found, rest⟩ := Option.bind_eq_some_iff.mp rest
      obtain ⟨transition, taken, rest⟩ := Option.bind_eq_some_iff.mp rest
      split at rest
      · rename_i passed
        cases rest
        unfold Story.question? at found
        split at found
        · rename_i here
          cases found
          exact ⟨_, _, _, .submitted awaited here taken passed.1, passed.2, rfl, rfl⟩
        · cases found
      · cases rest
  | choose offer =>
      obtain ⟨id, awaited, rest⟩ := Option.bind_eq_some_iff.mp accepted
      obtain ⟨choice, found, rest⟩ := Option.bind_eq_some_iff.mp rest
      obtain ⟨chosen, taken, rest⟩ := Option.bind_eq_some_iff.mp rest
      split at rest
      · rename_i declared
        cases rest
        unfold Story.choice? at found
        split at found
        · rename_i here
          cases found
          exact ⟨_, _, _, .chosen awaited here taken, declared, rfl, rfl⟩
        · cases found
      · cases rest
  | start => cases accepted
  | stop => cases accepted
  | enter => cases accepted

theorem Ignores.deed?_eq_none {story : Story} {position : Position} {command : Command}
    (ignored : Ignores story position command) : command.deed? story position = none := by
  cases ignored with
  | unawaited answers elsewhere =>
      cases command with
      | submit raw =>
          cases answers
          simp [Command.deed?, elsewhere]
      | choose offer =>
          cases answers
          simp [Command.deed?, elsewhere]
      | start => rfl
      | stop => rfl
      | enter => rfl
  | noSubmission awaited found none => simp [Command.deed?, Story.question?, awaited, found, none]
  | unknownOffer awaited found none => simp [Command.deed?, Story.choice?, awaited, found, none]

theorem Leaves.deed?_eq_none {story : Story} {position : Position} {command : Command}
    {submitted : Option String} {actions : List Action} {target : String}
    (leaves : Leaves story position command submitted actions target)
    (absent : story.find? target = none) : command.deed? story position = none := by
  have undeclared : story.declares target = false := by
    rw [Bool.eq_false_iff]
    intro declared
    obtain ⟨scene, found⟩ := Story.exists_find?_of_declares declared
    rw [absent] at found
    cases found
  cases leaves with
  | submitted awaited found taken passed =>
      simp [Command.deed?, Story.question?, awaited, found, taken, undeclared]
  | chosen awaited found taken =>
      simp [Command.deed?, Story.choice?, awaited, found, taken, undeclared]
  | acknowledged => rfl

theorem deed?_eq_none_of_unfit {story : Story} {position : Position} {command : Command}
    {interaction : Interaction} {id : String} (answers : command.interaction? = some interaction)
    (awaited : position.pendingFor? interaction = some id)
    (unfit : ∀ scene, story.find? id = some scene → ¬ interaction.Fits scene) :
    command.deed? story position = none := by
  cases command with
  | submit raw =>
      cases answers
      have noQuestion : story.question? id = none := by
        unfold Story.question?
        split
        · rename_i question found
          exact absurd trivial (unfit _ found)
        · rfl
      simp [Command.deed?, awaited, noQuestion]
  | choose offer =>
      cases answers
      have noChoice : story.choice? id = none := by
        unfold Story.choice?
        split
        · rename_i choice found
          exact absurd trivial (unfit _ found)
        · rfl
      simp [Command.deed?, awaited, noChoice]
  | start => rfl
  | stop => rfl
  | enter => rfl

/-! ## What a step does, as told by its calls -/

/-- The calls of a step announce the sequences that it begins; replaying them after what was accepted
gives the variables; and what is accepted was awaited, and is awaited again only if that is announced. -/
structure Tells (story : Story) (accepted : List Deed) (state later : State) (calls : List Event) :
    Prop where
  called : later.calls = state.calls ++ calls
  begun : (later.activities.drop state.activities.length).filterMap Activity.deed? =
    calls.filterMap Event.deed?
  store : later.position.store =
    replay story (accepted ++ calls.filterMap Event.deed?) state.position.store
  awaits : ∀ interaction, answersTo interaction accepted + later.position.awaits interaction ≤
    state.position.awaits interaction + calls.countP (Event.announces interaction)

theorem Tells.of_silent (story : Story) {state later : State} {added : List Event}
    (silent : Silent added) (trace : later.trace = added ++ state.trace)
    (activities : later.activities.length = state.activities.length)
    (same : later.position = state.position) : Tells story [] state later [] where
  called := by rw [State.calls_of_trace trace, silent.filter_isCall]; rfl
  begun := by rw [List.drop_eq_nil_of_le (Nat.le_of_eq activities)]; rfl
  store := by rw [same]; rfl
  awaits interaction := by simp [same, answersTo]

/-- A step that makes one call, which announces no sequence. -/
theorem Tells.of_call (story : Story) {state later : State} {event : Event} {notes : List Event}
    (silent : Silent notes) (isCall : event.isCall = true) (noDeed : event.deed? = none)
    (trace : later.trace = event :: (notes ++ state.trace))
    (activities : later.activities.length = state.activities.length)
    (store : later.position.store = state.position.store)
    (awaits : ∀ interaction, later.position.awaits interaction ≤
      state.position.awaits interaction + if event.announces interaction then 1 else 0) :
    Tells story [] state later [event] where
  called := State.calls_of_call silent isCall trace
  begun := by
    rw [List.drop_eq_nil_of_le (Nat.le_of_eq activities), List.filterMap_cons_none noDeed]
    rfl
  store := by
    rw [List.filterMap_cons_none noDeed]
    exact store
  awaits interaction := by
    rw [List.countP_singleton]
    have awaited := awaits interaction
    simp only [answersTo, List.countP_nil]
    omega

/-- A step by which an interaction is awaited, and what it is about is shown. -/
theorem Tells.of_shown (story : Story) {state later : State} {shown : Event} {id : String}
    {awaited : Interaction} {notes : List Event} (silent : Silent notes) (isCall : shown.isCall = true)
    (noDeed : shown.deed? = none) (quiet : ∀ interaction, shown.announces interaction = false)
    (trace : later.trace = shown :: .changed id (.waiting awaited) :: (notes ++ state.trace))
    (activities : later.activities.length = state.activities.length)
    (position : later.position = state.position.park awaited id) :
    Tells story [] state later [.changed id (.waiting awaited), shown] := by
  have unannounced : [.changed id (.waiting awaited), shown].filterMap Event.deed? = [] := by
    rw [List.filterMap_cons_none rfl, List.filterMap_cons_none noDeed, List.filterMap_nil]
  have added : later.trace = ([shown, .changed id (.waiting awaited)] ++ notes) ++ state.trace := trace
  refine ⟨?_, ?_, ?_, fun interaction => ?_⟩
  · rw [State.calls_of_trace added, List.filter_append, silent.filter_isCall,
      List.filter_cons_of_pos isCall, List.filter_cons_of_pos rfl]
    rfl
  · rw [List.drop_eq_nil_of_le (Nat.le_of_eq activities), unannounced]
    rfl
  · rw [unannounced, position]
    rfl
  · rw [position, Position.awaits_park, List.countP_cons, List.countP_singleton, quiet]
    simp [answersTo, Event.announces]

/-- Entering a scene announces no other scene. -/
theorem Enters.tells {staging : Staging} {id : String} {state : State} {result : State × Entrance}
    (enters : Enters staging id state result) :
    ∃ calls, Tells staging.story [] state result.1 calls ∧
      ∀ deed ∈ calls.filterMap Event.deed?, deed = .ran id := by
  cases enters with
  | undeclared => exact ⟨[], .of_silent _ .nil rfl rfl rfl, by simp⟩
  | ends found terminal silent =>
      refine ⟨_, .of_call _ silent rfl rfl rfl rfl rfl fun interaction => ?_, by simp [Event.deed?]⟩
      simp [Position.awaits_of_pending_eq_none]
  | begins found goesOn silent silentLater =>
      have same := Story.id_of_find? found
      refine ⟨[.changed id .running], ⟨?_, ?_, ?_, fun interaction => ?_⟩, by simp [Event.deed?]⟩
      · simp [State.calls, List.filter_cons, silent.filter_isCall, silentLater.filter_isCall,
          Event.isCall]
      · simp [Event.deed?, Activity.deed?, ← same, Scene.id]
      · simp [Event.deed?, replay, Deed.apply, Story.sequence?, found]
      · exact Position.awaits_le_of_pending_eq rfl interaction _
  | asks found silent =>
      exact ⟨_, .of_shown _ silent rfl rfl (fun _ => rfl) rfl rfl rfl, by simp [Event.deed?]⟩
  | offers found silent =>
      exact ⟨_, .of_shown _ silent rfl rfl (fun _ => rfl) rfl rfl rfl, by simp [Event.deed?]⟩

/-- What a step tells that goes on from a state in which the way was cleared. -/
theorem Tells.since {story : Story} {accepted : List Deed} {state before later : State}
    {calls cleared : List Event} (tells : Tells story [] before later calls)
    (clears : cleared = [] ∨ cleared = [.clear])
    (called : before.calls = state.calls ++ cleared)
    (activities : before.activities.length = state.activities.length)
    (store : before.position.store = replay story accepted state.position.store)
    (nothing : before.position.pending = none)
    (answered : ∀ interaction, answersTo interaction accepted ≤ state.position.awaits interaction) :
    Tells story accepted state later (cleared ++ calls) := by
  have unannounced : cleared.filterMap Event.deed? = [] := by
    rcases clears with rfl | rfl
    · rfl
    · rfl
  refine ⟨?_, ?_, ?_, fun interaction => ?_⟩
  · rw [tells.called, called, List.append_assoc]
  · rw [← activities, tells.begun, List.filterMap_append, unannounced, List.nil_append]
  · rw [tells.store, store, List.filterMap_append, unannounced, replay_append]
    simp [replay]
  · have awaited := tells.awaits interaction
    have taken := answered interaction
    rw [Position.awaits_of_pending_eq_none interaction nothing] at awaited
    rw [List.countP_append]
    simp only [answersTo, List.countP_nil] at awaited
    omega

/-- Being held up is no deed. -/
theorem Tells.reply {story : Story} {accepted : List Deed} {state : State} {calls : List Event}
    {result : State × Entrance} (tells : Tells story accepted state result.1 calls)
    (notBefore : state.activities.length ≤ result.1.activities.length) :
    Tells story accepted state (State.reply result).1 calls := by
  obtain ⟨entered, entrance⟩ := result
  cases entrance with
  | made => exact tells
  | failed trouble => exact tells
  | held =>
      refine ⟨tells.called, ?_, tells.store, tells.awaits⟩
      show (List.filterMap Activity.deed?
        ((entered.activities ++ [Activity.call false false]).drop state.activities.length)) = _
      rw [List.drop_append_of_le_length notBefore, List.filterMap_append, tells.begun]
      simp [Activity.deed?]

/-- What is accepted of a command was awaited. -/
theorem answersTo_deed?_le (story : Story) (position : Position) (command : Command)
    (interaction : Interaction) :
    answersTo interaction (command.deed? story position).toList ≤ position.awaits interaction := by
  cases accepted : command.deed? story position with
  | none => exact Nat.zero_le _
  | some deed =>
      obtain ⟨submitted, actions, target, leaves, -, answers, -⟩ := leaves_of_deed accepted
      by_cases same : deed.interaction? = some interaction
      · have awaited : position.awaits interaction = 1 := by
          rw [answers] at same
          cases leaves with
          | submitted awaited => cases same; exact Position.awaits_of_pendingFor? awaited
          | chosen awaited => cases same; exact Position.awaits_of_pendingFor? awaited
          | acknowledged awaited => cases same; exact Position.awaits_of_pendingFor? awaited
        simp [answersTo, same, awaited]
      · simp [answersTo, same]

/-- A start accepts nothing and announces no scene but the first. -/
theorem tells_of_start {staging : Staging} {state : State} {notes : List Event} (silent : Silent notes)
    {entered : State × Entrance}
    (enters : Enters staging staging.story.start
      { state with
        position := state.position.release.renew
        trace := .clear :: (notes ++ state.trace) } entered) :
    ∃ calls, Tells staging.story [] state (State.reply entered).1 calls ∧
      ∀ deed ∈ calls.filterMap Event.deed?, deed = .ran staging.story.start := by
  obtain ⟨calls, tells, first⟩ := enters.tells
  obtain ⟨added, -, activities, -⟩ := enters.begun
  have since : Tells staging.story [] state entered.1 ([.clear] ++ calls) := by
    refine tells.since (.inr rfl) ?_ rfl rfl rfl (by simp [answersTo])
    exact State.calls_of_call silent rfl rfl
  exact ⟨_, since.reply (by simp [activities]), first⟩

theorem Obeys.tells {staging : Staging} {state : State} {command : Command}
    {result : State × Reply} (obeys : Obeys staging state command result) :
    ∃ calls, Tells staging.story (command.deed? staging.story state.position).toList state result.1
      calls := by
  cases obeys with
  | starts silent enters =>
      obtain ⟨calls, tells, -⟩ := tells_of_start silent enters
      exact ⟨calls, tells⟩
  | stops silent =>
      refine ⟨_, .of_call _ silent rfl rfl rfl rfl rfl fun interaction => ?_⟩
      simp [Position.awaits_of_pending_eq_none, Position.release, Position.renew]
  | ignores ignored silent =>
      rw [ignored.deed?_eq_none]
      exact ⟨[], .of_silent _ silent rfl rfl rfl⟩
  | misfits answers awaited unfit =>
      rw [deed?_eq_none_of_unfit answers awaited unfit]
      exact ⟨[], .of_silent _ .nil rfl rfl rfl⟩
  | @rejects raw id message question transition awaited found taken complaint notes silent =>
      have refused : (Command.submit raw).deed? staging.story state.position = none := by
        simp [Command.deed?, Story.question?, awaited, found, taken, complaint]
      rw [refused]
      exact ⟨_, .of_call _ silent rfl rfl rfl rfl rfl fun _ => Nat.le_add_right _ _⟩
  | refuses leaves absent =>
      rw [leaves.deed?_eq_none absent]
      exact ⟨[], .of_silent _ .nil rfl rfl rfl⟩
  | @moves command submitted actions target leaves scene found notes silent entered enters =>
      obtain ⟨calls, tells, -⟩ := enters.tells
      obtain ⟨added, -, activities, -⟩ := enters.begun
      have declared := Story.declares_of_find? found
      have since : Tells staging.story (command.deed? staging.story state.position).toList state
          entered.1 (command.clearing ++ calls) := by
        refine tells.since command.clearing_cases ?_ rfl (leaves.replay_deed declared _).symm rfl
          (answersTo_deed?_le staging.story state.position command)
        rcases command.clearing_cases with none | one
        · simp [State.calls, none, silent.filter_isCall]
        · rw [one]
          exact State.calls_of_call silent rfl rfl
      exact ⟨_, since.reply (by simp [activities])⟩
  | @closes id sequence awaited found noWay notes silent =>
      refine ⟨_, .of_call _ silent rfl rfl rfl rfl rfl fun interaction => ?_⟩
      simp [Position.awaits_of_pending_eq_none, Position.release]

theorem Advances.tells {staging : Staging} {sequence : Sequence} {generation : Nat} {state : State}
    {stage : Stage} {result : State × Stage}
    (advances : Advances staging sequence generation state stage result) :
    ∃ calls, Tells staging.story [] state result.1 calls := by
  cases advances with
  | givesUp stale silent => exact ⟨[], .of_silent _ silent rfl rfl rfl⟩
  | givesUpPrinted stale here silent => exact ⟨[], .of_silent _ silent rfl rfl rfl⟩
  | prints current here intact silent =>
      exact ⟨_, .of_call _ silent rfl rfl rfl rfl rfl fun _ => Nat.le_add_right _ _⟩
  | breaksOff current here faulty silent => exact ⟨[], .of_silent _ silent rfl rfl rfl⟩
  | rests => exact ⟨[], .of_silent _ .nil rfl rfl rfl⟩
  | passes => exact ⟨[], .of_silent _ .nil rfl rfl rfl⟩
  | skips => exact ⟨[], .of_silent _ .nil rfl rfl rfl⟩
  | waits current beyond awaited silent =>
      refine ⟨_, .of_call _ silent rfl rfl rfl rfl rfl fun interaction => ?_⟩
      simp [Position.awaits_park, Event.announces]
  | ends current beyond unawaited last silent =>
      refine ⟨_, .of_call _ silent rfl rfl rfl rfl rfl fun interaction => ?_⟩
      exact Nat.le_add_right _ _
  | leads current beyond unawaited next enters =>
      obtain ⟨calls, tells, -⟩ := enters.tells
      exact ⟨calls, tells⟩
  | presents current beyond unawaited next enters =>
      obtain ⟨calls, tells, -⟩ := enters.tells
      exact ⟨calls, tells⟩
  | fails current beyond unawaited next enters =>
      obtain ⟨rfl, -, -⟩ := enters.of_failed
      have uncalled : ∀ trouble, Silent [.failed sequence.id trouble] := by simp [Silent, Event.isCall]
      exact ⟨[], .of_silent _ (uncalled _) rfl rfl rfl⟩
  | presented => exact ⟨[], .of_silent _ .nil rfl rfl rfl⟩
  | stays => exact ⟨[], .of_silent _ .nil rfl rfl rfl⟩

namespace State

theorem tells_goOn (staging : Staging) (state : State) (ticket : Nat) :
    ∃ calls, Tells staging.story [] state (state.goOn staging ticket) calls := by
  have goesOn := state.goesOn_goOn staging ticket
  generalize state.goOn staging ticket = later at goesOn ⊢
  cases goesOn with
  | @performs sequence generation stage reached next here advances =>
      obtain ⟨calls, tells⟩ := advances.tells
      have inside := (List.getElem?_eq_some_iff.mp here).1
      refine ⟨calls, tells.called, ?_, tells.store, tells.awaits⟩
      show ((next.activities.set ticket (.performance sequence generation reached)).drop
        state.activities.length).filterMap Activity.deed? = _
      rw [List.drop_set_of_lt inside]
      exact tells.begun
  | returns here =>
      have uncalled : Silent [.done ticket] := by simp [Silent, Event.isCall]
      exact ⟨[], .of_silent _ uncalled rfl (by simp) rfl⟩
  | rests => exact ⟨[], .of_silent _ .nil rfl rfl rfl⟩

/-- In every happening, the variables are written by its deeds alone, and the sequences that are begun
are those that are announced as running. -/
theorem tells_after (staging : Staging) (state : State) (happening : Happening) :
    Tells staging.story (accepted staging state happening) state (state.after staging happening)
      (callsSince state (state.after staging happening)) := by
  have read : ∀ {deeds calls},
      Tells staging.story deeds state (state.after staging happening) calls →
      deeds = accepted staging state happening →
      Tells staging.story (accepted staging state happening) state (state.after staging happening)
        (callsSince state (state.after staging happening)) := by
    intro deeds calls tells same
    rw [callsSince_of_calls tells.called, ← same]
    exact tells
  cases happening with
  | command command =>
      obtain ⟨calls, tells⟩ := (state.obeys_execute staging command).tells
      exact read tells rfl
  | step ticket =>
      obtain ⟨calls, tells⟩ := tells_goOn staging state ticket
      exact read tells rfl
  | release gate ticket => exact read (.of_silent _ .nil rfl (by simp [after, rouseOne]) rfl) rfl
  | wake ticket => exact read (.of_silent _ .nil rfl (by simp [after, rouseOne]) rfl) rfl
  | breakDown ticket => exact read (.of_silent _ .nil rfl (by simp [after, rouseOne]) rfl) rfl
  | turn gate opened => cases gate <;> exact read (.of_silent _ .nil rfl rfl rfl) rfl
  | clock moment => exact read (.of_silent _ .nil rfl rfl rfl) rfl
  | fault => exact read (.of_silent _ .nil rfl rfl rfl) rfl
  | take => exact read (.of_silent _ .nil rfl rfl rfl) rfl
  | arrange queue => exact read (.of_silent _ .nil rfl rfl rfl) rfl

end State

end Session

end NarrativePlayer
