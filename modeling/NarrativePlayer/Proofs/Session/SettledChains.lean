import NarrativePlayer.Proofs.Session.WatchedLines

/-!
Contract: waiting until a story stands still.

Owns what a session comes to after the last line of a sequence: the same as the telling in sequence,
whether nothing follows, the next scene cannot be entered, or another sequence is begun. So waiting goes
through a chain of sequences that is over at some time, and leaves the session quiet.
-/

namespace NarrativePlayer.Session

def Outcome.report : Outcome → Report
  | .succeeded => .settled
  | .failed trouble => .failed trouble
  | .brokenOff => .brokenOff

namespace State

/-- Nothing goes on, and nothing is left to be waited for. -/
structure Quiet (state : State) : Prop extends Prompt state where
  isOver : ∀ activity ∈ state.activities, activity.isOver = true
  queue : state.queue = []
  latest : state.latest = none

theorem over_concat {past : List Activity} (isOver : ∀ activity ∈ past, activity.isOver = true)
    (body : Sequence) (generation : Nat) (outcome : Outcome) :
    ∀ activity ∈ past ++ [.performance body generation (.finished outcome)],
      activity.isOver = true := by
  intro activity member
  rcases List.mem_append.mp member with before | isLast
  · exact isOver activity before
  · rw [List.mem_singleton.mp isLast]
    rfl

theorem quiet_telling {state : State} {past : List Activity} {body : Sequence} {generation : Nat}
    {outcome : Outcome} (prompt : state.Prompt)
    (isOver : ∀ activity ∈ past, activity.isOver = true) :
    (state.telling past body generation (.finished outcome) [] none).Quiet where
  printOpen := prompt.printOpen
  displayOpen := prompt.displayOpen
  intact := prompt.intact
  isOver := over_concat isOver body generation outcome
  queue := rfl
  latest := rfl

/-! ## Entering a scene -/

/-- A state in another position, with more in its trace. -/
def shifted (state : State) (position : Position) (trace : List Event) : State :=
  { state with position := position, trace := trace }

theorem Prompt.shifted {state : State} (prompt : state.Prompt) (position : Position)
    (trace : List Event) : (state.shifted position trace).Prompt :=
  ⟨prompt.printOpen, prompt.displayOpen, prompt.intact⟩

/-- How a session with a prompt terminal enters a scene. -/
inductive Arrives (state : State) : State × Entrance → Arrival → Prop
  | refused (trouble : Trouble) : Arrives state (state, .failed trouble) (.refused trouble)
  | still (position : Position) (trace : List Event) :
      Arrives state (state.shifted position trace, .made) .still
  | telling (body : Sequence) (position : Position) (trace : List Event) :
      Arrives state
        ((state.shifted position trace).telling state.activities body position.generation (.ready 0)
          (state.queue ++ [state.activities.length]) (some state.activities.length), .made)
        (.telling body)

theorem arrives_of_enters {staging : Staging} {state : State} {id : String}
    {result : State × Entrance} (enters : Enters staging id state result)
    (displayOpen : state.displayOpen = true) (nothing : state.position.pending = none) :
    ∃ arrival, Arrives state result arrival ∧
      state.account.arrive staging.story id = (result.1.account, arrival) := by
  cases enters with
  | undeclared absent =>
      refine ⟨_, .refused _, ?_⟩
      simp [Account.arrive, absent]
  | ends found terminal silent =>
      refine ⟨_, .still _ _, ?_⟩
      simp [Account.arrive, found, terminal, Account.turn, Account.call, account, calls,
        List.filter_cons, silent.filter_isCall, Event.isCall]
  | begins found goesOn silent silentLater =>
      refine ⟨_, .telling _ _ _, ?_⟩
      simp [Account.arrive, found, goesOn, Account.turn, Account.call, Account.act, account, calls,
        List.filter_cons, silent.filter_isCall, silentLater.filter_isCall, Event.isCall, nothing]
  | asks found silent =>
      rw [if_pos displayOpen]
      refine ⟨_, .still _ _, ?_⟩
      simp [Account.arrive, found, Account.park, Account.turn, Account.call, account, calls,
        List.filter_cons, silent.filter_isCall, Event.isCall, Position.park]
  | offers found silent =>
      rw [if_pos displayOpen]
      refine ⟨_, .still _ _, ?_⟩
      simp [Account.arrive, found, Account.park, Account.turn, Account.call, account, calls,
        List.filter_cons, silent.filter_isCall, Event.isCall, Position.park]

/-! ## After the last line -/

/-- How a sequence that is told comes to its end. -/
inductive Closes (state : State) (past : List Activity) (body : Sequence) (generation : Nat)
    (latest : Option Nat) : State → Arrival → Prop
  | refused (trouble : Trouble) (trace : List Event) :
      Closes state past body generation latest
        ((state.shifted state.position trace).telling past body generation
          (.finished (.failed trouble)) [past.length] latest) (.refused trouble)
  | still (position : Position) (trace : List Event) :
      Closes state past body generation latest
        ((state.shifted position trace).telling past body generation (.finished .succeeded)
          [past.length] latest) .still
  | telling (next : Sequence) (position : Position) (trace : List Event) :
      Closes state past body generation latest
        ((state.shifted position trace).telling
          (past ++ [.performance body generation (.finished .succeeded)]) next position.generation
          (.ready 0) [past.length, past.length + 1] (some (past.length + 1))) (.telling next)

section Closing

variable (staging : Staging) {state : State} {past : List Activity} {body : Sequence}
  {generation : Nat} {latest : Option Nat} {index : Nat}

@[simp] theorem account_replace (state : State) (ticket : Nat) (activity : Activity) :
    (state.replace ticket activity).account = state.account := rfl

theorem shifted_telling_replace (position : Position) (trace : List Event) (reached : Stage) :
    ((state.telling past body generation (.ready index) [past.length] latest).shifted position
        trace).replace past.length (.performance body generation reached) =
      (state.shifted position trace).telling past body generation reached [past.length] latest :=
  (state.shifted position trace).replace_telling past body generation (.ready index) [past.length]
    latest reached

theorem closes_still (position : Position) (trace : List Event) :
    Closes state past body generation latest
      (((state.telling past body generation (.ready index) [past.length] latest).shifted position
        trace).replace past.length (.performance body generation (.finished .succeeded))) .still := by
  rw [shifted_telling_replace]
  exact .still position trace

theorem closes_of_arrives {entered : State} {arrival : Arrival}
    (arrives : Arrives (state.telling past body generation (.ready index) [past.length] latest)
      (entered, .made) arrival) :
    Closes state past body generation latest
      (entered.replace past.length (.performance body generation (.finished .succeeded))) arrival := by
  cases arrives with
  | still position trace => exact closes_still position trace
  | telling next position trace =>
      have replaced : Closes state past body generation latest _ _ := .telling next position trace
      simpa [State.telling, shifted, replace] using replaced

theorem pump_telling_last (prompt : state.Prompt) (tells : state.account.Tells staging.story body)
    (current : state.position.generation = generation) (beyond : body.lines[index]? = none) :
    ∃ next arrival, Closes state past body generation latest next arrival ∧
      (state.telling past body generation (.ready index) [past.length] latest).pump staging = next ∧
      state.account.close staging.story body = (next.account, arrival) := by
  have advances := (state.telling past body generation (.ready index) [past.length]
    latest).advances_perform staging body generation (.ready index)
  generalize performed : (state.telling past body generation (.ready index) [past.length]
    latest).perform staging body generation (.ready index) = result at advances
  obtain ⟨next, reached⟩ := result
  have pumped := pump_telling staging rfl performed
  rw [pumped]
  cases advances with
  | waits _ _ awaited silent =>
      refine ⟨_, _, closes_still _ _, rfl, ?_⟩
      simp [Account.close, awaited, Account.park, Account.turn, Account.call, account, calls, telling,
        shifted, replace, Position.park, List.filter_cons, silent.filter_isCall, Event.isCall]
  | ends _ _ unawaited last silent =>
      have here : state.position.current = some body.id := tells.here
      have nothing : state.position.pending = none := tells.unawaited
      refine ⟨_, _, closes_still _ _, rfl, ?_⟩
      simp [Account.close, unawaited, last, Account.turn, Account.call, account, calls, telling,
        shifted, replace, here, nothing, List.filter_cons, silent.filter_isCall, Event.isCall]
  | leads _ _ unawaited next enters =>
      obtain ⟨arrival, arrives, equal⟩ := arrives_of_enters enters prompt.displayOpen tells.unawaited
      refine ⟨_, arrival, closes_of_arrives arrives, rfl, ?_⟩
      simpa [Account.close, unawaited, next] using equal
  | presents _ _ unawaited next enters =>
      obtain ⟨arrival, arrives, -⟩ := arrives_of_enters enters prompt.displayOpen tells.unawaited
      cases arrives
  | @fails _ target entered trouble _ _ unawaited next enters =>
      obtain ⟨arrival, arrives, equal⟩ := arrives_of_enters enters prompt.displayOpen tells.unawaited
      cases arrives with
      | refused =>
          refine ⟨_, _, .refused trouble (.failed body.id trouble :: state.trace),
            shifted_telling_replace _ _ _, ?_⟩
          have unheard : (state.shifted state.position
              (.failed body.id trouble :: state.trace)).account = state.account := rfl
          rw [account_telling, unheard]
          simpa [Account.close, unawaited, next] using equal
  | givesUp stale => exact absurd current stale
  | prints _ here => rw [beyond] at here; cases here
  | breaksOff _ here => rw [beyond] at here; cases here
  | stays stuck => cases stuck

end Closing

/-! ## Chains of sequences -/

section Chains

variable (staging : Staging) {state : State} {past : List Activity} {body : Sequence}
  {generation : Nat} {latest : Option Nat} {progress : Watch}

/-- The end of a sequence without an heir is reported. -/
theorem Follows.finish (follows : Follows past latest progress) (outcome : Outcome) :
    WatchesOn staging
      (state.telling past body generation (.finished outcome) [past.length] latest) progress
      (state.telling past body generation (.finished outcome) [] none) (.reported outcome.report) := by
  refine (follows.pump staging (pump_telling_of_stuck staging rfl)).trans ?_
  refine (follows.outcome staging rfl).trans ?_
  cases outcome with
  | succeeded => exact .once (by simp [afterOutcome]) rfl
  | failed trouble => exact .refl _ _ _
  | brokenOff => exact .refl _ _ _

theorem Follows.stop (follows : Follows past latest progress)
    (isOver : ∀ activity ∈ past, activity.isOver = true) (prompt : state.Prompt) {next : State}
    {arrival : Arrival} (closes : Closes state past body generation latest next arrival)
    (last : arrival.beginning? = none) :
    ∃ final : State, final.Quiet ∧ final.account = next.account ∧
      WatchesOn staging next progress final (.reported arrival.report) := by
  cases closes with
  | refused trouble trace =>
      exact ⟨_, quiet_telling (prompt.shifted state.position trace) isOver, rfl,
        follows.finish staging (.failed trouble)⟩
  | still position trace =>
      exact ⟨_, quiet_telling (prompt.shifted position trace) isOver, rfl,
        follows.finish staging .succeeded⟩
  | telling => cases last

/-- The sequence that another led to is told next, once the other has left the queue. -/
theorem Follows.inherit (follows : Follows past latest progress) (next : Sequence) (since : Nat)
    (stage : Stage) :
    Follows (past ++ [.performance body generation (.finished .succeeded)]) (some (past.length + 1))
        progress ∧
      WatchesOn staging
        (state.telling (past ++ [.performance body generation (.finished .succeeded)]) next since stage
          [past.length, past.length + 1] (some (past.length + 1))) progress
        (state.telling (past ++ [.performance body generation (.finished .succeeded)]) next since stage
          [past.length + 1] (some (past.length + 1))) progress := by
  have length : (past ++ [Activity.performance body generation (.finished .succeeded)]).length =
      past.length + 1 := List.length_append
  have heir : Follows (past ++ [.performance body generation (.finished .succeeded)])
      (some (past.length + 1)) progress := by
    rw [← length]
    cases follows with
    | itself => exact .former List.getElem?_concat_length
    | former isOver =>
        have inside := (List.getElem?_eq_some_iff.mp isOver).1
        exact .former ((List.getElem?_append_left inside).trans isOver)
  have inside : past.length <
      (past ++ [Activity.performance body generation (.finished .succeeded)]).length := by omega
  have ended : (state.telling (past ++ [.performance body generation (.finished .succeeded)]) next
      since stage [past.length, past.length + 1] (some (past.length + 1))).activities[past.length]? =
      some (.performance body generation (.finished .succeeded)) :=
    (List.getElem?_append_left inside).trans List.getElem?_concat_length
  exact ⟨heir, heir.pump staging (pump_of_stuck staging rfl ended rfl)⟩

/-- All lines are printed, and the sequence comes to its end. -/
theorem Follows.tell (follows : Follows past latest progress)
    (isOver : ∀ activity ∈ past, activity.isOver = true) (prompt : state.Prompt)
    (current : state.position.generation = generation)
    (tells : state.account.Tells staging.story body) :
    ∃ (told : State) (latest' : Option Nat) (progress' : Watch) (next : State) (arrival : Arrival),
      told.Prompt ∧ Follows past latest' progress' ∧
      Closes told past body generation latest' next arrival ∧
      (state.account.recite body.lines).close staging.story body = (next.account, arrival) ∧
      WatchesOn staging (state.telling past body generation (.ready 0) [past.length] latest) progress
        next progress' := by
  obtain ⟨trace, clock, latest', progress', recited, follows', lines⟩ :=
    follows.lines staging isOver prompt current (List.drop_zero : body.lines.drop 0 = body.lines)
  have promptStill : ({ state with trace := trace, clock := clock } : State).Prompt :=
    ⟨prompt.printOpen, prompt.displayOpen, prompt.intact⟩
  have tellsStill : ({ state with trace := trace, clock := clock } : State).account.Tells
      staging.story body :=
    ⟨tells.found, tells.goesOn, tells.running, tells.here, tells.unawaited⟩
  have beyond : body.lines[0 + body.lines.length]? = none := by simp
  obtain ⟨next, arrival, closes, pumped, closed⟩ :=
    pump_telling_last staging promptStill tellsStill current beyond
  rw [recited] at closed
  exact ⟨_, latest', progress', next, arrival, promptStill, follows', closes, closed,
    lines.trans (follows'.pump staging pumped)⟩

/-- Waiting tells a sequence, and the chain of sequences that follow from it, as they are told in
sequence. -/
theorem Follows.proceed (more : Nat) (follows : Follows past latest progress)
    (isOver : ∀ activity ∈ past, activity.isOver = true) (prompt : state.Prompt)
    (current : state.position.generation = generation)
    (tells : state.account.Tells staging.story body)
    (ends : staging.story.EndsWithin more body.id) :
    ∃ final : State, final.Quiet ∧
      final.account = (Account.proceed staging.story more body state.account).1 ∧
      WatchesOn staging (state.telling past body generation (.ready 0) [past.length] latest) progress
        final (.reported (Account.proceed staging.story more body state.account).2) := by
  induction more generalizing state past body generation latest progress with
  | zero =>
      obtain ⟨told, latest', progress', next, arrival, promptStill, follows', closes, closed, tellsOn⟩ :=
        follows.tell staging isOver prompt current tells
      have last := Account.beginning?_of_close tells.found tells.goesOn ends closed
      obtain ⟨final, quiet, same, stop⟩ := follows'.stop staging isOver promptStill closes last
      rw [Account.proceed_of_last 0 closed last]
      exact ⟨final, quiet, same, tellsOn.trans stop⟩
  | succ more inductionHypothesis =>
      obtain ⟨told, latest', progress', next, arrival, promptStill, follows', closes, closed, tellsOn⟩ :=
        follows.tell staging isOver prompt current tells
      by_cases last : arrival.beginning? = none
      · obtain ⟨final, quiet, same, stop⟩ := follows'.stop staging isOver promptStill closes last
        rw [Account.proceed_of_last (more + 1) closed last]
        exact ⟨final, quiet, same, tellsOn.trans stop⟩
      · cases closes with
        | refused => exact absurd rfl last
        | still => exact absurd rfl last
        | telling heir position trace =>
            obtain ⟨tellsHeir, leads⟩ := Account.onward?_of_close tells.found tells.goesOn closed
            obtain ⟨inherits, leaves⟩ := follows'.inherit staging heir position.generation (.ready 0)
            have length : (past ++ [Activity.performance body generation (.finished .succeeded)]).length
                = past.length + 1 := List.length_append
            obtain ⟨final, quiet, same, proceeds⟩ := inductionHypothesis inherits
              (over_concat isOver body generation .succeeded) (promptStill.shifted position trace) rfl
              tellsHeir (ends heir.id leads)
            rw [length] at proceeds
            rw [Account.proceed_of_heir more closed]
            exact ⟨final, quiet, same, tellsOn.trans (leaves.trans proceeds)⟩

end Chains

end State

end NarrativePlayer.Session
