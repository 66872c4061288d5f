import NarrativePlayer.Proofs.Session.AwaitedInteraction
import NarrativePlayer.Proofs.Session.SequentialTelling

/-!
Contract: how waiting goes through the lines of a sequence.

When the terminal is done with every call at once, all sequences but the last are over between two
steps, and the waiting watches the last, or one before it. Owns the shape of such states, `telling`,
what one step of waiting makes of it, and that a line takes the account where the telling in sequence
takes it. What follows the last line is not decided here.
-/

namespace NarrativePlayer.Session

/-- Whether an activity is a sequence that has come to its end. -/
def Activity.isOver : Activity → Bool
  | .performance _ _ (.finished _) => true
  | _ => false

/-- How a sequence at a stage has ended, if it has. -/
def Stage.outcome? : Stage → Option Outcome
  | .finished outcome => some outcome
  | _ => none

theorem Activity.exists_of_isOver {activity : Activity} (isOver : activity.isOver = true) :
    ∃ sequence generation outcome, activity = .performance sequence generation (.finished outcome) := by
  unfold Activity.isOver at isOver
  split at isOver
  · exact ⟨_, _, _, rfl⟩
  · cases isOver

theorem Activity.wakingTime?_of_isOver {activity : Activity} (isOver : activity.isOver = true) :
    State.wakingTime? activity = none := by
  obtain ⟨sequence, generation, outcome, rfl⟩ := exists_of_isOver isOver
  rfl

theorem Activity.awakened?_of_isOver {activity : Activity} (isOver : activity.isOver = true)
    (moment : Nat) : State.awakened? moment activity = none := by
  obtain ⟨sequence, generation, outcome, rfl⟩ := exists_of_isOver isOver
  rfl

namespace State

/-- What a session shows of itself. -/
def account (state : State) : Account where
  mode := state.position.mode
  current := state.position.current
  pending := state.position.pending
  store := state.position.store
  clock := state.clock
  calls := state.calls

/-- The terminal is done with every call at once. -/
structure Prompt (state : State) : Prop where
  printOpen : state.printOpen = true
  displayOpen : state.displayOpen = true
  intact : state.faulty = false

theorem pump_of_canGoOn (staging : Staging) {state : State} {ticket : Nat} {rest : List Nat}
    {activity : Activity} (queued : state.queue = ticket :: rest)
    (here : state.activities[ticket]? = some activity) (canGoOn : activity.canGoOn = true) :
    state.pump staging = state.goOn staging ticket := by
  unfold pump
  rw [queued]
  dsimp only
  rw [here]
  exact if_pos canGoOn

theorem pump_of_stuck (staging : Staging) {state : State} {ticket : Nat} {rest : List Nat}
    {activity : Activity} (queued : state.queue = ticket :: rest)
    (here : state.activities[ticket]? = some activity) (stuck : activity.canGoOn = false) :
    state.pump staging = { state with queue := rest } := by
  unfold pump
  rw [queued]
  dsimp only
  rw [here]
  exact if_neg (by rw [stuck]; exact Bool.false_ne_true)

/-- A state in which a sequence is told after others. -/
def telling (state : State) (past : List Activity) (body : Sequence) (generation : Nat)
    (stage : Stage) (queue : List Nat) (latest : Option Nat) : State :=
  { state with
    activities := past ++ [.performance body generation stage], queue := queue, latest := latest }

/-- A state once a line was printed. -/
def printing (state : State) (line : Line) (notes : List Event) : State :=
  { state with
    trace :=
      .print state.clock (Template.fill line.text state.position.store) line.instant line.speed ::
        (notes ++ state.trace) }

theorem account_printing (state : State) (line : Line) {notes : List Event} (silent : Silent notes) :
    (state.printing line notes).account = state.account.printed line := by
  simp [account, calls, printing, Account.printed, Account.call, List.filter_cons,
    silent.filter_isCall, Event.isCall]

section Telling

variable (state : State) (past : List Activity) (body : Sequence) (generation : Nat) (stage : Stage)
  (queue : List Nat) (latest : Option Nat)

@[simp] theorem account_telling :
    (state.telling past body generation stage queue latest).account = state.account := rfl

@[simp] theorem getElem?_telling :
    (state.telling past body generation stage queue latest).activities[past.length]? =
      some (.performance body generation stage) :=
  List.getElem?_concat_length

theorem outcome?_telling :
    (state.telling past body generation stage queue latest).outcome? past.length =
      stage.outcome? := by
  unfold outcome?
  rw [getElem?_telling]
  cases stage <;> rfl

theorem outcome?_telling_of_past {earlier since : Nat} {former : Sequence} {outcome : Outcome}
    (isOver : past[earlier]? = some (.performance former since (.finished outcome))) :
    (state.telling past body generation stage queue latest).outcome? earlier = some outcome := by
  have inside := (List.getElem?_eq_some_iff.mp isOver).1
  have here : (state.telling past body generation stage queue latest).activities[earlier]? =
      some (.performance former since (.finished outcome)) := by
    rw [← isOver]
    exact List.getElem?_append_left inside
  unfold outcome?
  rw [here]

theorem replace_telling (reached : Stage) :
    (state.telling past body generation stage queue latest).replace past.length
        (.performance body generation reached) =
      state.telling past body generation reached queue latest := by
  unfold replace telling
  rw [List.set_append_right _ _ (Nat.le_refl _), Nat.sub_self]
  rfl

end Telling

section Steps

variable (staging : Staging) {state : State} {past : List Activity} {body : Sequence}
  {generation : Nat} {latest : Option Nat}

/-- A sequence at the head of the queue goes on if it can. -/
theorem pump_telling {stage reached : Stage} {next : State}
    (canGoOn : (Activity.performance body generation stage).canGoOn = true)
    (performed : (state.telling past body generation stage [past.length] latest).perform staging body
      generation stage = (next, reached)) :
    (state.telling past body generation stage [past.length] latest).pump staging =
      next.replace past.length (.performance body generation reached) := by
  have here := state.getElem?_telling past body generation stage [past.length] latest
  rw [pump_of_canGoOn staging rfl here canGoOn, goOn, here]
  dsimp only
  rw [performed]

/-- A sequence at the head of the queue leaves it if it cannot go on. -/
theorem pump_telling_of_stuck {stage : Stage}
    (stuck : (Activity.performance body generation stage).canGoOn = false) :
    (state.telling past body generation stage [past.length] latest).pump staging =
      state.telling past body generation stage [] latest :=
  pump_of_stuck staging rfl (state.getElem?_telling past body generation stage [past.length] latest)
    stuck

theorem pump_telling_ready (prompt : state.Prompt) (current : state.position.generation = generation)
    {index : Nat} {line : Line} (here : body.lines[index]? = some line) :
    ∃ notes, Silent notes ∧
      (state.telling past body generation (.ready index) [past.length] latest).pump staging =
        (state.printing line notes).telling past body generation (.printing index true)
          [past.length] latest := by
  have isCurrent : state.position.isCurrent generation = true := decide_eq_true current
  refine ⟨_, Silent.journaled staging .timing .trace
    s!"[Line] '{body.id}' #{index}: {Template.fill line.text state.position.store}", ?_⟩
  refine (pump_telling staging rfl ?_).trans ((state.printing line _).replace_telling past body generation
    (.ready index) [past.length] latest (.printing index true))
  simp [perform, here, beginLine, note_eq, emit, telling, printing, isCurrent, prompt.printOpen,
    prompt.intact]

theorem pump_telling_printed (current : state.position.generation = generation) {index : Nat}
    {line : Line} (here : body.lines[index]? = some line) :
    (state.telling past body generation (.printing index true) [past.length] latest).pump
        staging =
      state.telling past body generation
        (if 0 < line.delay then .resting index (state.clock + line.delay) else .ready (index + 1))
        [past.length] latest := by
  have isCurrent : state.position.isCurrent generation = true := decide_eq_true current
  by_cases pause : 0 < line.delay
  · have performed : (state.telling past body generation (.printing index true)
        [past.length] latest).perform staging body generation (.printing index true) =
        (state.telling past body generation (.printing index true) [past.length] latest,
          .resting index (state.clock + line.delay)) := by
      simp [perform, here, endLine, telling, isCurrent, pause]
    rw [pump_telling staging rfl performed, replace_telling, if_pos pause]
  · have performed : (state.telling past body generation (.printing index true)
        [past.length] latest).perform staging body generation (.printing index true) =
        (state.telling past body generation (.printing index true) [past.length] latest,
          .ready (index + 1)) := by
      simp [perform, here, endLine, telling, isCurrent, pause]
    rw [pump_telling staging rfl performed, replace_telling, if_neg pause]

/-- Once a pause is over, the sequence that rests can go on, and no other. -/
theorem moveTo_telling_resting (isOver : ∀ activity ∈ past, activity.isOver = true) {index due : Nat} :
    (state.telling past body generation (.resting index due) [] latest).moveTo due =
      { state with clock := due }.telling past body generation (.ready (index + 1)) [past.length]
        latest := by
  have asleep : ∀ activity ∈ past, awakened? due activity = none := fun activity member =>
    Activity.awakened?_of_isOver (isOver activity member) due
  have awake : awakened? due (.performance body generation (.resting index due)) =
      some (.performance body generation (.ready (index + 1))) := if_pos (Nat.le_refl _)
  have kept : past.map (fun activity => (awakened? due activity).getD activity) = past := by
    refine (List.map_congr_left fun activity member => ?_).trans (List.map_id past)
    rw [asleep activity member]
    rfl
  have unaffected : past.zipIdx.filterMap (fun entry =>
      if (awakened? due entry.1).isSome then some entry.2 else none) = [] := by
    refine List.filterMap_eq_nil_iff.mpr fun entry member => ?_
    simp [asleep entry.1 (List.fst_mem_of_mem_zipIdx member)]
  simp [moveTo, rouse, affected, telling, kept, awake, List.zipIdx_append, unaffected]

theorem nextWaking?_telling_resting (isOver : ∀ activity ∈ past, activity.isOver = true)
    {index due : Nat} {queue : List Nat} :
    (state.telling past body generation (.resting index due) queue latest).nextWaking? =
      some due := by
  have asleep : past.filterMap wakingTime? = [] := by
    refine List.filterMap_eq_nil_iff.mpr fun activity member => ?_
    exact Activity.wakingTime?_of_isOver (isOver activity member)
  simp [nextWaking?, telling, asleep, wakingTime?]

end Steps

/-! ## Waiting -/

/-- Waiting goes on from one state to another in some number of steps. -/
def WatchesOn (staging : Staging) (state : State) (progress : Watch) (later : State)
    (further : Watch) : Prop :=
  ∃ steps, ∀ bound, watchFor staging none (bound + steps) state progress =
    watchFor staging none bound later further

theorem WatchesOn.refl (staging : Staging) (state : State) (progress : Watch) :
    WatchesOn staging state progress state progress :=
  ⟨0, fun _ => rfl⟩

theorem WatchesOn.trans {staging : Staging} {first second third : State}
    {progress further final : Watch} (toSecond : WatchesOn staging first progress second further)
    (toThird : WatchesOn staging second further third final) :
    WatchesOn staging first progress third final := by
  obtain ⟨early, reachesSecond⟩ := toSecond
  obtain ⟨late, reachesThird⟩ := toThird
  refine ⟨late + early, fun bound => ?_⟩
  rw [← Nat.add_assoc, reachesSecond, reachesThird]

theorem WatchesOn.once {staging : Staging} {state later : State} {progress further : Watch}
    (unreported : ∀ report, progress ≠ .reported report)
    (watched : watch staging none state progress = (later, further)) :
    WatchesOn staging state progress later further := by
  refine ⟨1, fun bound => ?_⟩
  rw [watchFor_step staging none bound state unreported, watched]

/-- The waiting watches the sequence after those that are past, or a past one that it is the heir of. -/
inductive Follows (past : List Activity) : Option Nat → Watch → Prop
  | itself : Follows past none (.watching past.length)
  | former {earlier since : Nat} {sequence : Sequence}
      (isOver : past[earlier]? = some (.performance sequence since (.finished .succeeded))) :
      Follows past (some past.length) (.watching earlier)

section Following

variable (staging : Staging) {state : State} {past : List Activity} {body : Sequence}
  {generation : Nat} {stage : Stage} {latest : Option Nat} {progress : Watch}

theorem Follows.pump {ticket : Nat} {rest : List Nat} {next : State}
    (follows : Follows past latest progress)
    (pumped : (state.telling past body generation stage (ticket :: rest) latest).pump staging =
      next) :
    WatchesOn staging (state.telling past body generation stage (ticket :: rest) latest) progress
      next progress := by
  subst pumped
  cases follows with
  | itself => exact .once (by simp) rfl
  | former isOver => exact .once (by simp) rfl

/-- When nothing can go on, the waiting looks at the sequence that goes on later, or is over. -/
theorem Follows.look (follows : Follows past latest progress) :
    WatchesOn staging (state.telling past body generation stage [] latest) progress
        (state.telling past body generation stage [] none) (.watching past.length) ∨
      WatchesOn staging (state.telling past body generation stage [] latest) progress
        (state.telling past body generation stage [] none) (.looking past.length) := by
  cases follows with
  | itself => exact .inl (.refl _ _ _)
  | @former earlier since sequence isOver =>
      refine .inr ?_
      have outcome := state.outcome?_telling_of_past past body generation stage [] (some past.length)
        isOver
      have succeeded : watch staging none
          (state.telling past body generation stage [] (some past.length)) (.watching earlier) =
          (state.telling past body generation stage [] (some past.length), .seeking) := by
        rw [watch, outcome]
        rfl
      exact (WatchesOn.once (by simp) succeeded).trans (.once (by simp) rfl)

theorem Follows.watching (follows : Follows past latest progress)
    (unfinished : stage.outcome? = none) :
    WatchesOn staging (state.telling past body generation stage [] latest) progress
      (state.telling past body generation stage [] none) (.watching past.length) := by
  rcases follows.look staging with watching | looking
  · exact watching
  · refine looking.trans (.once (by simp) ?_)
    rw [watch, outcome?_telling, unfinished]
    rfl

theorem Follows.outcome (follows : Follows past latest progress) {outcome : Outcome}
    (finished : stage.outcome? = some outcome) :
    WatchesOn staging (state.telling past body generation stage [] latest) progress
      (state.telling past body generation stage [] none) (afterOutcome outcome) := by
  rcases follows.look staging with watching | looking
  · refine watching.trans (.once (by simp) ?_)
    rw [watch, outcome?_telling, finished]
    rfl
  · refine looking.trans (.once (by simp) ?_)
    rw [watch, outcome?_telling, finished]

/-- The sequence entered last is found, and watched from then on. -/
theorem seek_telling {queue : List Nat} (unfinished : stage.outcome? = none) :
    WatchesOn staging (state.telling past body generation stage queue (some past.length)) .seeking
      (state.telling past body generation stage queue none) (.watching past.length) := by
  have found : WatchesOn staging
      (state.telling past body generation stage queue (some past.length)) .seeking
      (state.telling past body generation stage queue none) (.looking past.length) :=
    .once (by simp) rfl
  refine found.trans (.once (by simp) ?_)
  rw [watch, outcome?_telling, unfinished]
  rfl

/-! ## Lines -/

/-- A pause is waited for. -/
theorem Follows.pause (follows : Follows past latest progress)
    (isOver : ∀ activity ∈ past, activity.isOver = true) {index due : Nat} :
    WatchesOn staging
      (state.telling past body generation (.resting index due) [past.length] latest) progress
      ({ state with clock := due }.telling past body generation (.ready (index + 1)) [past.length]
        none) (.watching past.length) := by
  refine (follows.pump staging (pump_telling_of_stuck staging rfl)).trans ?_
  refine (follows.watching staging rfl).trans (.once (by simp) ?_)
  rw [watch, outcome?_telling]
  have waking : (state.telling past body generation (.resting index due) [] none).nextWaking? =
      some due := nextWaking?_telling_resting isOver
  rw [← moveTo_telling_resting isOver]
  simp only [waking]
  rfl

/-- A line is printed, and its pause waited for. -/
theorem Follows.line (follows : Follows past latest progress)
    (isOver : ∀ activity ∈ past, activity.isOver = true) (prompt : state.Prompt)
    (current : state.position.generation = generation) {index : Nat} {line : Line}
    (here : body.lines[index]? = some line) :
    ∃ notes latest' progress', Silent notes ∧ Follows past latest' progress' ∧
      WatchesOn staging
        (state.telling past body generation (.ready index) [past.length] latest) progress
        ({ state.printing line notes with clock := state.clock + line.delay }.telling past body
          generation (.ready (index + 1)) [past.length] latest') progress' := by
  obtain ⟨notes, silent, printed⟩ := pump_telling_ready staging prompt current here
  have sameGeneration : (state.printing line notes).position.generation = generation := current
  have prints := (follows.pump staging printed).trans
    (follows.pump staging (pump_telling_printed staging sameGeneration here))
  by_cases pause : 0 < line.delay
  · rw [if_pos pause] at prints
    exact ⟨notes, none, .watching past.length, silent, .itself, prints.trans (follows.pause staging isOver)⟩
  · have noDelay : line.delay = 0 := by omega
    rw [if_neg pause] at prints
    rw [noDelay]
    exact ⟨notes, latest, progress, silent, follows, prints⟩

/-- All lines from one on are printed, as they are in sequence. -/
theorem Follows.lines (follows : Follows past latest progress)
    (isOver : ∀ activity ∈ past, activity.isOver = true) (prompt : state.Prompt)
    (current : state.position.generation = generation) {index : Nat} {rest : List Line}
    (remaining : body.lines.drop index = rest) :
    ∃ (trace : List Event) (clock : Nat) (latest' : Option Nat) (progress' : Watch),
      { state with trace := trace, clock := clock }.account = state.account.recite rest ∧
      Follows past latest' progress' ∧
      WatchesOn staging
        (state.telling past body generation (.ready index) [past.length] latest) progress
        ({ state with trace := trace, clock := clock }.telling past body generation
          (.ready (index + rest.length)) [past.length] latest') progress' := by
  induction rest generalizing state index latest progress with
  | nil => exact ⟨state.trace, state.clock, latest, progress, rfl, follows, .refl _ _ _⟩
  | cons line rest inductionHypothesis =>
      have here : body.lines[index]? = some line := by
        rw [← List.head?_drop, remaining]
        rfl
      have further : body.lines.drop (index + 1) = rest := by
        rw [← List.drop_drop, remaining]
        rfl
      obtain ⟨notes, latest', progress', silent, follows', prints⟩ :=
        follows.line staging isOver prompt current here
      have promptStill :
          ({ state.printing line notes with clock := state.clock + line.delay } : State).Prompt :=
        ⟨prompt.printOpen, prompt.displayOpen, prompt.intact⟩
      obtain ⟨trace, clock, final, last, told, followsFinally, tells⟩ :=
        inductionHypothesis follows' promptStill current further
      have moved :
          ({ state.printing line notes with clock := state.clock + line.delay } : State).account =
            (state.account.printed line).pass line.delay := by
        rw [← account_printing state line silent]
        rfl
      refine ⟨trace, clock, final, last, ?_, followsFinally, ?_⟩
      · rw [Account.recite, ← moved]
        exact told
      · rw [List.length_cons, Nat.add_comm rest.length 1, ← Nat.add_assoc]
        exact prints.trans tells

end Following

end State

end NarrativePlayer.Session
