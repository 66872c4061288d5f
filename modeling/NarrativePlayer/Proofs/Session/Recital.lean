import NarrativePlayer.Proofs.Session.SettledChains

/-!
Contract: a session told command by command.

Each command is carried out and then everything is waited for, at a terminal that is done with every
call at once. Owns that such a recital is the telling in sequence: the replies and reports, all that the
session shows of itself after each command and after the waiting, and every call of the terminal with
its time. What is asked of the story is that the chains which are walked visit no scene twice; a chain
that does is walked for ever.
-/

namespace NarrativePlayer.Session

namespace State

/-- The records of commands, each of them carried out and then waited for, if the waiting ever ends
within a number of steps. -/
def recital (staging : Staging) (bound : Nat) : State → List Command → Option (List Record)
  | _, [] => some []
  | state, command :: rest =>
      let obeyed := state.execute staging command
      match obeyed.1.settle staging none bound with
      | none => none
      | some (settled, report) =>
          (recital staging bound settled rest).map fun records =>
            ⟨obeyed.2, obeyed.1.account, report, settled.account⟩ :: records

/-! ## Commands -/

/-- How a session with a prompt terminal responds to a command. -/
inductive Responds (state : State) : State × Reply → Arrival → Prop
  | refused (trouble : Trouble) (position : Position) (trace : List Event) :
      Responds state (state.shifted position trace, .failed trouble) (.refused trouble)
  | still (position : Position) (trace : List Event) :
      Responds state (state.shifted position trace, .done) .still
  | telling (body : Sequence) (position : Position) (trace : List Event) :
      Responds state
        ((state.shifted position trace).telling state.activities body position.generation (.ready 0)
          (state.queue ++ [state.activities.length]) (some state.activities.length), .done)
        (.telling body)

@[simp] theorem account_reply (result : State × Entrance) :
    (reply result).1.account = result.1.account := by
  obtain ⟨entered, entrance⟩ := result
  cases entrance <;> rfl

theorem responds_of_arrives {state : State} {position : Position} {trace : List Event}
    {result : State × Entrance} {arrival : Arrival}
    (arrives : Arrives (state.shifted position trace) result arrival) :
    Responds state (reply result) arrival := by
  cases arrives with
  | refused trouble => exact .refused trouble position trace
  | still position trace => exact .still position trace
  | telling body position trace => exact .telling body position trace

theorem awaited?_account (state : State) (story : Story) (interaction : Interaction) :
    state.account.awaited? story interaction =
      (state.position.pendingFor? interaction).bind story.find? := by
  unfold Account.awaited? Position.pendingFor?
  have same : state.account.pending = state.position.pending := rfl
  rw [same]
  cases state.position.pending with
  | none => rfl
  | some pending =>
      dsimp only
      split
      · rfl
      · rfl

theorem account_notes (state : State) {notes : List Event} (silent : Silent notes) :
    ({ state with trace := notes ++ state.trace } : State).account = state.account := by
  simp [account, calls, silent.filter_isCall]

section Commands

variable {staging : Staging} {state : State}

theorem obey_of_ignores {command : Command}
    (ignored : Ignores staging.story state.position command) :
    state.account.obey staging.story command = (state.account, .still) := by
  cases ignored with
  | unawaited answers elsewhere =>
      cases command with
      | start => cases answers
      | stop => cases answers
      | submit raw =>
          cases answers
          simp [Account.obey, awaited?_account, elsewhere]
      | choose offer =>
          cases answers
          simp [Account.obey, awaited?_account, elsewhere]
      | enter =>
          cases answers
          simp [Account.obey, awaited?_account, elsewhere]
  | noSubmission awaited found noWay =>
      simp [Account.obey, awaited?_account, awaited, found, noWay]
  | unknownOffer awaited found unknown =>
      simp [Account.obey, awaited?_account, awaited, found, unknown]

theorem obey_of_leaves {command : Command} {submitted : Option String} {actions : List Action}
    {target : String} (leaves : Leaves staging.story state.position command submitted actions target) :
    state.account.obey staging.story command =
      state.account.depart staging.story command.clearing submitted actions target := by
  cases leaves with
  | submitted awaited found taken passed =>
      simp [Account.obey, awaited?_account, awaited, found, taken, passed, Command.clearing]
  | chosen awaited found taken =>
      simp [Account.obey, awaited?_account, awaited, found, taken, Command.clearing]
  | acknowledged awaited found taken =>
      simp [Account.obey, awaited?_account, awaited, found, taken, Command.clearing]

/-- A command that leaves a scene enters its target as it does in sequence. -/
theorem departs_of_enters (displayOpen : state.displayOpen = true) {clearing notes : List Event}
    (silent : Silent notes) (clears : clearing = [] ∨ clearing = [.clear]) {submitted : Option String}
    {actions : List Action} {target : String} {scene : Scene}
    (found : staging.story.find? target = some scene) {result : State × Entrance}
    (enters : Enters staging target
      { state with
        position :=
          { state.position.release with
            store := applyActions submitted actions state.position.store }
        trace := clearing ++ (notes ++ state.trace) } result) :
    ∃ arrival, Responds state (reply result) arrival ∧
      state.account.depart staging.story clearing submitted actions target =
        ((reply result).1.account, arrival) := by
  obtain ⟨arrival, arrives, equal⟩ := arrives_of_enters enters displayOpen rfl
  refine ⟨arrival, responds_of_arrives arrives, ?_⟩
  rw [account_reply, ← equal, Account.depart, found]
  rcases clears with rfl | rfl
  · simp [account, calls, Account.act, Position.release, silent.filter_isCall]
  · simp [account, calls, Account.act, Position.release, silent.filter_isCall, List.filter_cons,
      Event.isCall]

theorem responds_execute (prompt : state.Prompt) (steady : state.Steady staging.story)
    (command : Command) :
    ∃ arrival, Responds state (state.execute staging command) arrival ∧
      state.account.obey staging.story command =
        ((state.execute staging command).1.account, arrival) := by
  have obeys := state.obeys_execute staging command
  generalize state.execute staging command = result at obeys ⊢
  cases obeys with
  | starts silent enters =>
      obtain ⟨arrival, arrives, equal⟩ := arrives_of_enters enters prompt.displayOpen rfl
      refine ⟨arrival, responds_of_arrives arrives, ?_⟩
      rw [account_reply, ← equal, Account.obey]
      simp [account, calls, Account.call, Position.release, Position.renew, silent.filter_isCall,
        List.filter_cons, Event.isCall]
  | stops silent =>
      refine ⟨_, .still _ _, ?_⟩
      simp [Account.obey, account, calls, Account.call, Position.release, Position.renew,
        silent.filter_isCall, List.filter_cons, Event.isCall]
  | ignores ignored silent =>
      refine ⟨_, .still _ _, ?_⟩
      have unheard := account_notes state silent
      rw [unheard]
      exact obey_of_ignores ignored
  | misfits answers awaited unfit =>
      obtain ⟨scene, found, fits⟩ := steady.coherent.fits awaited
      exact absurd fits (unfit scene found)
  | @rejects raw id message question transition awaited found taken complaint notes silent =>
      have refused : state.account.obey staging.story (.submit raw) =
          (state.account.call (.invalid message), .still) := by
        simp [Account.obey, awaited?_account, awaited, found, taken, complaint]
      refine ⟨_, .still _ _, ?_⟩
      rw [refused]
      simp [account, calls, Account.call, silent.filter_isCall, List.filter_cons, Event.isCall]
  | refuses leaves absent =>
      refine ⟨_, .refused _ state.position state.trace, ?_⟩
      rw [obey_of_leaves leaves, Account.depart, absent]
  | moves leaves found silent enters =>
      rw [obey_of_leaves leaves]
      exact departs_of_enters prompt.displayOpen silent command.clearing_cases found enters
  | @closes id sequence awaited found noWay notes silent =>
      obtain ⟨-, here, -⟩ := steady.coherent.awaited (Position.pending_of_pendingFor? awaited)
      have current : state.position.current = some id := here
      have same : sequence.id = id := Story.id_of_find? found
      have ended : state.account.obey staging.story .enter =
          (state.account.turn id .ended none, .still) := by
        simp [Account.obey, awaited?_account, awaited, found, noWay, same]
      refine ⟨_, .still _ _, ?_⟩
      rw [ended]
      simp [account, calls, Account.turn, Account.call, Position.release, current,
        silent.filter_isCall, List.filter_cons, Event.isCall]

end Commands

/-! ## Waiting -/

theorem settle_of_watchesOn {staging : Staging} {state final : State} {report : Report}
    (watches : WatchesOn staging state .seeking final (.reported report)) :
    ∃ enough, ∀ bound, enough ≤ bound →
      state.settle staging none bound = some (final, report) := by
  obtain ⟨steps, reaches⟩ := watches
  refine ⟨steps + 1, fun bound enough => ?_⟩
  have spare : bound = (bound - (steps + 1) + 1) + steps := by omega
  rw [spare]
  exact (reaches _).trans (watchFor_reported staging none _ final report)

theorem Quiet.shifted {state : State} (quiet : state.Quiet) (position : Position)
    (trace : List Event) : (state.shifted position trace).Quiet :=
  ⟨quiet.toPrompt.shifted position trace, quiet.isOver, quiet.queue, quiet.latest⟩

theorem Quiet.seek {state : State} (quiet : state.Quiet) (staging : Staging) :
    WatchesOn staging state .seeking state (.reported .settled) := by
  refine .once (by simp) ?_
  rw [watch, quiet.latest]

/-- Whatever a command leads to is told to its end while it is waited for. -/
theorem Responds.watched {staging : Staging} {state : State} {result : State × Reply}
    {arrival : Arrival} (responds : Responds state result arrival) (quiet : state.Quiet)
    (tells : ∀ body, arrival = .telling body → result.1.account.Tells staging.story body)
    (straight : ∀ id ∈ arrival.beginning?.toList, staging.story.Straight id) :
    ∃ final : State, final.Quiet ∧
      final.account = (Account.conclude staging.story (result.1.account, arrival)).1 ∧
      WatchesOn staging result.1 .seeking final
        (.reported (Account.conclude staging.story (result.1.account, arrival)).2) := by
  cases responds with
  | refused trouble position trace =>
      exact ⟨_, quiet.shifted position trace, rfl, (quiet.shifted position trace).seek staging⟩
  | still position trace =>
      exact ⟨_, quiet.shifted position trace, rfl, (quiet.shifted position trace).seek staging⟩
  | telling body position trace =>
      have ends := Story.endsWithin_of_straight (straight body.id (by simp [Arrival.beginning?]))
      have follows : Follows state.activities none (.watching state.activities.length) := .itself
      obtain ⟨final, quietFinally, same, proceeds⟩ := follows.proceed staging _ quiet.isOver
        (quiet.toPrompt.shifted position trace) rfl (tells body rfl) ends
      rw [quiet.queue]
      exact ⟨final, quietFinally, same, (seek_telling staging rfl).trans proceeds⟩

theorem Responds.reply_eq {state : State} {result : State × Reply} {arrival : Arrival}
    (responds : Responds state result arrival) : result.2 = arrival.reply := by
  cases responds with
  | refused => rfl
  | still => rfl
  | telling => rfl

/-! ## Recitals -/

/-- From a quiet state on, a recital is the telling in sequence. -/
theorem Quiet.recital {staging : Staging}
    (startDeclared : staging.story.declares staging.story.start = true) (commands : List Command)
    {state : State} (quiet : state.Quiet) (steady : state.Steady staging.story)
    (straight : ∀ id ∈ Account.beginnings staging.story state.account commands,
      staging.story.Straight id) :
    ∃ enough, ∀ bound, enough ≤ bound →
      State.recital staging bound state commands =
        some (Account.tell staging.story state.account commands) := by
  induction commands generalizing state with
  | nil => exact ⟨0, fun _ _ => rfl⟩
  | cons command rest inductionHypothesis =>
      obtain ⟨arrival, responds, obeyed⟩ := responds_execute quiet.toPrompt steady command
      rw [Account.beginnings, obeyed] at straight
      have tells : ∀ body, arrival = .telling body →
          (state.execute staging command).1.account.Tells staging.story body := by
        intro body isTelling
        subst isTelling
        exact Account.tells_of_obey obeyed
      obtain ⟨final, quietFinally, same, watches⟩ := responds.watched quiet tells
        fun id first => straight id (List.mem_append_left _ first)
      obtain ⟨enough, settles⟩ := settle_of_watchesOn watches
      have steadyFinally : final.Steady staging.story :=
        (steady.after startDeclared (.command command)).of_reaches startDeclared
          (reaches_settle (settles enough (Nat.le_refl _)))
      obtain ⟨enoughLater, recites⟩ := inductionHypothesis quietFinally steadyFinally fun id later =>
        straight id (List.mem_append_right _ (same ▸ later))
      refine ⟨max enough enoughLater, fun bound within => ?_⟩
      have settled := settles bound (by omega)
      have recited := recites bound (by omega)
      rw [State.recital, settled, Account.tell, obeyed]
      dsimp only
      rw [recited, same, responds.reply_eq]
      rfl

theorem quiet_of_opening {story : Story} {state : State} (opened : opening story = .ok state) :
    state.Quiet := by
  obtain ⟨rfl, -⟩ := initial_of_opening opened
  refine ⟨⟨rfl, rfl, rfl⟩, fun activity member => ?_, rfl, rfl⟩
  cases member

theorem account_of_opening {story : Story} {state : State} (opened : opening story = .ok state) :
    state.account = .opening story := by
  obtain ⟨rfl, -⟩ := initial_of_opening opened
  rfl

/-- On a story whose start is declared, whatever is commanded, as long as the chains that are walked
visit no scene twice: every waiting ends, and the replies, the reports, and all that the session shows
of itself after each command and after the waiting, every call of the terminal included, are those of
the telling in sequence. -/
theorem recital_eq_tell (staging : Staging) {initial : State}
    (opened : opening staging.story = .ok initial) (commands : List Command)
    (straight : ∀ id ∈ Account.beginnings staging.story (.opening staging.story) commands,
      staging.story.Straight id) :
    ∃ enough, ∀ bound, enough ≤ bound →
      initial.recital staging bound commands =
        some (Account.tell staging.story (.opening staging.story) commands) := by
  have account := account_of_opening opened
  rw [← account] at straight ⊢
  exact (quiet_of_opening opened).recital (initial_of_opening opened).2 commands
    (steady_of_opening opened) straight

/-- The sample story from its start to its end, with the answer in the prompt and in the last line. -/
theorem sample_recited :
    let commands : List Command := [.start, .submit "Bea", .choose "on", .enter]
    let records := Account.tell .sample (.opening .sample) commands
    (∀ id ∈ Account.beginnings .sample (.opening .sample) commands, Story.sample.Straight id) ∧
      (∃ enough, ∀ bound, enough ≤ bound →
        (initial .empty).recital ⟨.sample, .silent⟩ bound commands = some records) ∧
      records.map (·.settled.mode) = [.waiting .answer, .waiting .choice, .waiting .enter, .ended] ∧
      ∃ last, records.getLast? = some last ∧
        last.settled.store = .ofList [("met", "yes"), ("name", "Bea")] ∧
        .showChoices "Where to, Bea?" [⟨"on", "On", [], "parting"⟩] ∈ last.settled.calls ∧
        .print 5 "Farewell, Bea." false none ∈ last.settled.calls := by
  intro commands records
  have opened : opening Story.sample = .ok (initial .empty) := rfl
  have straight : ∀ id ∈ Account.beginnings .sample (.opening .sample) commands,
      Story.sample.Straight id := by decide
  refine ⟨straight, recital_eq_tell ⟨.sample, .silent⟩ opened commands straight, by decide +kernel, _, rfl,
    ?_, ?_, ?_⟩
  · decide +kernel
  · decide +kernel
  · decide +kernel

end State

end NarrativePlayer.Session
