import NarrativePlayer.Proofs.Player.Display
import NarrativePlayer.Proofs.Player.PlayTermination
import NarrativePlayer.Proofs.Session.CallsBeforePrompt

/-!
Contract: what a reader is asked with.

Whenever a line is read, the last prompt on the screen is that of the scene that is waited with, as the
variables are now, and behind it stands nothing but what reminds of it. Owns this for every play, with what
has been written up to every turn of it. What becomes of the line is not owned here.
-/

namespace NarrativePlayer.Player

open Session

/-! ## Prompts -/

/-- The text with which a widget asks. -/
def promptOf : Event → String
  | .showInput field => answerPrompt field
  | .showChoices prompt offers => choicePrompt prompt offers
  | _ => ""

/-- The prompt of what is waited for. Where nothing is shown for it, there is none. -/
def promptText (widget : Option Event) : String :=
  (widget.map promptOf).getD ""

/-- Lines as they stand on the screen. -/
def told (lines : List String) : String :=
  String.join (lines.map (· ++ "\n"))

theorem told_cons (line : String) (rest : List String) :
    told (line :: rest) = line ++ "\n" ++ told rest := by
  simp [told]

theorem told_append (first second : List String) : told (first ++ second) = told first ++ told second := by
  simp [told]

theorem shown_cons (prompted : Bool) (event : Event) (rest : List Event) :
    shown prompted (event :: rest) =
      ((shown prompted [event]).1 ++ (shown (shown prompted [event]).2 rest).1,
        (shown (shown prompted [event]).2 rest).2) :=
  shown_append prompted [event] rest

theorem shown_print (prompted : Bool) (time : Nat) (text : String) (instant : Bool) (speed : Option Nat) :
    shown prompted [.print time text instant speed] = (text ++ "\n", prompted) := by
  simp [shown, cuesOfAll, cuesOf]

@[simp] theorem shown_changed (prompted : Bool) (scene : String) (mode : Mode) :
    shown prompted [.changed scene mode] = ("", prompted) := rfl

@[simp] theorem shown_clear (prompted : Bool) :
    shown prompted [.clear] = (if prompted then "\n" else "", false) := by
  cases prompted <;> simp [shown, cuesOfAll, cuesOf]

@[simp] theorem shown_invalid (prompted : Bool) (message : String) :
    shown prompted [.invalid message] = (s!"! {message}\n", prompted) := by
  simp [shown, cuesOfAll, cuesOf]

theorem shown_widget {widget : Event} (asks : widget.isWidget = true) (prompted : Bool) :
    shown prompted [widget] = (promptOf widget, true) := by
  cases widget with
  | showInput field => simp [shown, cuesOfAll, cuesOf, promptOf]
  | showChoices prompt offers => simp [shown, cuesOfAll, cuesOf, promptOf]
  | _ => cases asks

/-- What tells something prints lines, and leaves a prompt on the screen if one is there. -/
theorem shown_of_tells {telling : List Event} (tells : ∀ call ∈ telling, Event.tells call = true) :
    ∃ lines, ∀ prompted, shown prompted telling = (told lines, prompted) := by
  induction telling with
  | nil => exact ⟨[], fun _ => rfl⟩
  | cons call rest inductionHypothesis =>
      obtain ⟨tellsHere, tellsLater⟩ := List.forall_mem_cons.mp tells
      obtain ⟨lines, same⟩ := inductionHypothesis tellsLater
      cases call with
      | print time text instant speed =>
          refine ⟨text :: lines, fun prompted => ?_⟩
          rw [shown_cons, shown_print, same, told_cons]
      | changed scene mode =>
          refine ⟨lines, fun prompted => ?_⟩
          rw [shown_cons, shown_changed, same, String.empty_append]
      | _ => cases tellsHere

theorem isWidget_of_widget? {account : Account} {story : Story} {widget : Event}
    (asks : account.widget? story = some widget) : widget.isWidget = true := by
  unfold Account.widget? Position.widget? at asks
  split at asks
  · obtain ⟨question, -, rfl⟩ := Option.map_eq_some_iff.mp asks
    rfl
  · obtain ⟨choice, -, rfl⟩ := Option.map_eq_some_iff.mp asks
    rfl
  · cases asks
  · cases asks

/-- Where no prompt is on the screen, what unfolds puts lines there and the prompt of what is then waited
for. -/
theorem shown_of_unfolds {story : Story} {account later : Account}
    (unfolds : account.Unfolds story later) {prompted : Bool} {before : String}
    (cleared : shown prompted account.calls = (before, false)) :
    ∃ lines, shown prompted later.calls =
      (before ++ told lines ++ promptText (later.widget? story), (later.widget? story).isSome) := by
  obtain ⟨telling, tells, calls⟩ := unfolds
  obtain ⟨lines, same⟩ := shown_of_tells tells
  refine ⟨lines, ?_⟩
  rw [calls, shown_append, shown_append, cleared, same]
  cases asks : later.widget? story with
  | none => simp [shown_nil, promptText]
  | some widget => simp [shown_widget (isWidget_of_widget? asks), promptText]

/-! ## Screens -/

/-- What may be written where something is still waited for: a complaint, a bare prompt, or a hint. -/
inductive Reminds : Mode → String → Prop
  | complaint (message : String) : Reminds (.waiting .answer) s!"! {message}\n"
  | bare : Reminds (.waiting .answer) "> "
  | hint : Reminds (.waiting .choice) "Enter a number from the list > "

/-- A text ends with the prompt of what an account waits for, and with what reminds of that. -/
def EndsAsking (story : Story) (account : Account) (text : String) : Prop :=
  ∃ before reminders, text = before ++ promptText (account.widget? story) ++ String.join reminders ∧
    ∀ reminder ∈ reminders, Reminds account.mode reminder

/-- A show whose screen is kept: everything that happened is on it, and it asks for what is waited for. -/
structure Asks (story : Story) (shown : Show) (text : String) : Prop where
  untold : shown.session.trace = []
  prompted : shown.prompted = (shown.session.account.widget? story).isSome
  ends : EndsAsking story shown.session.account text

namespace EndsAsking

variable {story : Story} {account : Account} {text : String}

theorem of_shown (before : String) :
    EndsAsking story account (before ++ promptText (account.widget? story)) :=
  ⟨before, [], by simp, fun _ => nofun⟩

theorem of_unasked (nothing : account.widget? story = none) : EndsAsking story account text :=
  ⟨text, [], by simp [nothing, promptText], fun _ => nofun⟩

theorem reminded (ends : EndsAsking story account text) {reminder : String}
    (reminds : Reminds account.mode reminder) : EndsAsking story account (text ++ reminder) := by
  obtain ⟨before, reminders, rfl, remind⟩ := ends
  refine ⟨before, reminders ++ [reminder], ?_, fun other member => ?_⟩
  · simp [String.append_assoc]
  · rcases List.mem_append.mp member with earlier | last
    · exact remind other earlier
    · rw [List.mem_singleton.mp last]
      exact reminds

end EndsAsking

/-! ## Turns -/

section

variable {options : Options} {staging : Staging}

/-- What a session shows after some of it was presented, where what it comes to is asked for on the screen
as it then is. -/
theorem asks_present {session : State} {prompted : Bool} {text : String}
    (onScreen : (shown prompted session.account.calls).2 = (session.account.widget? staging.story).isSome)
    (ends : EndsAsking staging.story session.account (text ++ (shown prompted session.account.calls).1)) :
    Asks staging.story (present options session prompted).1
      (text ++ written .output (present options session prompted).2) := by
  rw [written_present, present_fst]
  exact ⟨rfl, onScreen, ends⟩

theorem asks_of_unfolds {base : Account} {session : State} {prompted : Bool}
    (unfolds : base.Unfolds staging.story session.account) (before text : String)
    (cleared : shown prompted base.calls = (before, false)) :
    Asks staging.story (present options session prompted).1
      (text ++ written .output (present options session prompted).2) := by
  obtain ⟨lines, same⟩ := shown_of_unfolds unfolds cleared
  refine asks_present (congrArg Prod.snd same) ?_
  rw [same, ← String.append_assoc]
  exact .of_shown _

theorem calls_of_untold {session : State} (untold : session.trace = []) : session.account.calls = [] := by
  have none : session.calls = [] := by
    rw [State.calls, untold]
    rfl
  exact none

theorem account_untold (session : State) : session.untold.account = { session.account with calls := [] } :=
  rfl

theorem Asks.unmoved {shown : Show} {text : String} (asks : Asks staging.story shown text) {session : State}
    (same : session.account = shown.session.account) :
    Asks staging.story (present options session shown.prompted).1
      (text ++ written .output (present options session shown.prompted).2) := by
  refine asks_present ?_ ?_
  · rw [same, calls_of_untold asks.untold]
    exact asks.prompted
  · rw [same, calls_of_untold asks.untold, shown_nil, String.append_empty]
    exact asks.ends

/-- Whatever is commanded, the screen asks for what is then waited for. -/
theorem asks_execute (options : Options) {shown : Show} {text : String} (asks : Asks staging.story shown text)
    (quiet : shown.session.Quiet) (steady : shown.session.Steady staging.story) {command : Command}
    (goesOn : command ≠ .stop)
    (unfailed : ∀ trouble, (shown.session.execute staging command).2 ≠ .failed trouble) :
    Asks staging.story (present options (shown.session.execute staging command).1 shown.prompted).1
      (text ++ written .output (present options (shown.session.execute staging command).1 shown.prompted).2) := by
  obtain ⟨arrival, responds, obeyed⟩ := State.responds_execute quiet.toPrompt steady command
  have takes := Account.takes_obey staging.story shown.session.account goesOn
  rw [obeyed] at takes
  -- From here on, only what became of the account counts.
  generalize (shown.session.execute staging command).1 = session at takes ⊢
  have nothing := calls_of_untold asks.untold
  generalize outcome : (session.account, arrival) = arrived at takes
  cases takes with
  | refuses trouble =>
      obtain ⟨-, rfl⟩ := Prod.mk.inj outcome
      exact absurd responds.reply_eq (unfailed trouble)
  | stays => exact asks.unmoved (congrArg Prod.fst outcome)
  | rejects answers message =>
      have same : session.account = shown.session.account.call (.invalid message) :=
        congrArg Prod.fst outcome
      have calls : session.account.calls = [.invalid message] := by
        rw [same, Account.call, nothing]
        rfl
      have mode : shown.session.account.mode = .waiting .answer :=
        (steady.coherent.awaited answers).1
      have reminds : Reminds shown.session.account.mode s!"! {message}\n" := mode ▸ .complaint message
      refine asks_present ?_ ?_
      · rw [calls, shown_invalid, same]
        exact asks.prompted
      · rw [calls, shown_invalid, same]
        exact asks.ends.reminded reminds
  | leaves clears unfolds =>
      subst outcome
      refine asks_of_unfolds unfolds (if shown.prompted then "\n" else "") text ?_
      rcases clears with cleared | ⟨kept, unasked⟩
      · rw [cleared, nothing]
        exact shown_clear shown.prompted
      · rw [kept, nothing, asks.prompted, unasked]
        rfl

/-- Where a prompt was answered, it is ended with a line break, and lines are told up to the next prompt. -/
theorem shown_of_depart {shown : Show} {target : String} {scene : Scene} {command : Command}
    {submitted : Option String} {actions : List Action} (staging : Staging)
    (quiet : shown.session.Quiet) (steady : shown.session.Steady staging.story)
    (untold : shown.session.trace = []) (prompted : shown.prompted = true)
    (obeys : shown.session.account.obey staging.story command =
      shown.session.account.depart staging.story [.clear] submitted actions target)
    (found : staging.story.find? target = some scene) :
    ((shown.session.execute staging command).1.account.mode = .waiting .answer ↔
        ∃ next, scene = .question next) ∧
      ∃ lines, Player.shown shown.prompted (shown.session.execute staging command).1.account.calls =
        ("\n" ++ told lines ++
            promptText ((shown.session.execute staging command).1.account.widget? staging.story),
          ((shown.session.execute staging command).1.account.widget? staging.story).isSome) := by
  rw [Account.depart_of_find? found] at obeys
  generalize left : ({ shown.session.account.act submitted actions with
    pending := none, calls := shown.session.account.calls ++ [.clear] } : Account) = base at obeys
  have nothing : base.pending = none := by
    rw [← left]
  have cleared : Player.shown shown.prompted base.calls = ("\n", false) := by
    rw [← left, prompted]
    dsimp only
    rw [calls_of_untold untold]
    rfl
  rw [(State.execute_of_obey quiet.toPrompt steady obeys).1]
  exact ⟨Account.arrive_asks_iff found, shown_of_unfolds (Account.unfolds_arrive nothing target) cleared⟩

/-- How things stand at a turn, in any story, with all that has been written so far. -/
inductive Ready (staging : Staging) : Turn → String → Prop
  | waiting {shown : Show} {arrival : Arrival} {text : String}
      (startDeclared : staging.story.declares staging.story.start = true)
      (underway : State.Underway staging shown.session arrival) (asks : Asks staging.story shown text) :
      Ready staging (.waiting shown) text
  | reading {shown : Show} {interaction : Interaction} {text : String}
      (startDeclared : staging.story.declares staging.story.start = true)
      (quiet : shown.session.Quiet) (steady : shown.session.Steady staging.story)
      (mode : shown.session.position.mode = .waiting interaction) (asks : Asks staging.story shown text) :
      Ready staging (.reading shown) text
  | closed (exit : Nat) (text : String) : Ready staging (.closed exit) text

/-- What is written after a command reminds of what is waited for, if anything is written. -/
def RemindsOnly (closing : Show → List Cue) : Prop :=
  ∀ after, closing after = [] ∨
    ∃ reminder, Reminds after.session.position.mode reminder ∧ closing after = [.plain .output reminder]

theorem Asks.closed {story : Story} {shown : Show} {text : String} (asks : Asks story shown text)
    {closing : Show → List Cue} (closes : RemindsOnly closing) :
    Asks story shown (text ++ written .output (closing shown)) := by
  rcases closes shown with nothing | ⟨reminder, reminds, same⟩
  · rw [nothing, written_nil, String.append_empty]
    exact asks
  · rw [same, written_plain]
    exact ⟨asks.untold, asks.prompted, asks.ends.reminded reminds⟩

theorem ready_afterCommand {shown : Show} {text : String}
    (startDeclared : staging.story.declares staging.story.start = true)
    (asks : Asks staging.story shown text) (quiet : shown.session.Quiet)
    (steady : shown.session.Steady staging.story) {command : Command} (goesOn : command ≠ .stop)
    (stood : command = .start ∨ shown.session.account.Stands) {closing : Show → List Cue}
    (closes : RemindsOnly closing) :
    Ready staging (afterCommand options shown.prompted (shown.session.execute staging command) closing).1
      (text ++ written .output
        (afterCommand options shown.prompted (shown.session.execute staging command) closing).2) := by
  by_cases failed : ∃ trouble, (shown.session.execute staging command).2 = .failed trouble
  · obtain ⟨trouble, failed⟩ := failed
    rw [afterCommand_of_failed options shown.prompted failed]
    exact .closed 1 _
  · have unfailed : ∀ trouble, (shown.session.execute staging command).2 ≠ .failed trouble :=
      fun trouble here => failed ⟨trouble, here⟩
    obtain ⟨arrival, underway, -⟩ := quiet.underway_execute steady startDeclared stood unfailed
    have asksLater := asks_execute options asks quiet steady goesOn unfailed
    rw [afterCommand_of_unfailed options shown.prompted unfailed, written_append, ← String.append_assoc]
    have underwayLater : State.Underway staging
        (present options (shown.session.execute staging command).1 shown.prompted).1.session arrival := by
      rw [present_fst]
      exact underway
    exact .waiting startDeclared underwayLater (asksLater.closed closes)

theorem ready_afterSettling {shown : Show} {text : String} {arrival : Arrival}
    (startDeclared : staging.story.declares staging.story.start = true)
    (underway : State.Underway staging shown.session arrival) (asks : Asks staging.story shown text)
    {steps : Nat} {final : State} {report : Report}
    (done : shown.session.settle staging none steps = some (final, report)) :
    Ready staging (afterSettling options shown.prompted final report).1
      (text ++ written .output (afterSettling options shown.prompted final report).2) := by
  obtain ⟨settles, -⟩ := underway.of_settle startDeclared done
  have asksFinally : Asks staging.story (present options final shown.prompted).1
      (text ++ written .output (present options final shown.prompted).2) := by
    rcases underway.unmoved_or_unfolds startDeclared done with same | ⟨-, nothing, unfolds⟩
    · exact asks.unmoved same
    · refine asks_of_unfolds unfolds "" text ?_
      rw [calls_of_untold asks.untold, asks.prompted, Account.widget?_of_unawaited nothing]
      rfl
  rcases settles.cases with ⟨rfl, ended⟩ | ⟨rfl, interaction, mode⟩ | ⟨trouble, rfl⟩
  · rw [afterSettling_of_ended options shown.prompted ended]
    exact .closed 0 _
  · rw [afterSettling_of_waiting options shown.prompted mode]
    rw [present_fst] at asksFinally ⊢
    exact .reading startDeclared settles.quiet.untold settles.steady.untold mode asksFinally
  · rw [afterSettling_of_failed]
    exact .closed 1 _

/-- A line is only read once the wait is over and nothing but what happened meanwhile has been shown. -/
theorem session_of_reading {session final : State} {report : Report} {prompted : Bool} {after : Show}
    (settles : State.Settles staging session final report)
    (reads : (afterSettling options prompted final report).1 = .reading after) :
    after.session = final.untold ∧
      written .output (afterSettling options prompted final report).2 =
        (shown prompted final.account.calls).1 := by
  rcases settles.cases with ⟨rfl, ended⟩ | ⟨rfl, interaction, mode⟩ | ⟨trouble, rfl⟩
  · rw [afterSettling_of_ended options prompted ended] at reads
    cases reads
  · rw [afterSettling_of_waiting options prompted mode, present_fst] at reads
    rw [afterSettling_of_waiting options prompted mode]
    cases reads
    exact ⟨rfl, written_present options final prompted⟩
  · rw [afterSettling_of_failed] at reads
    cases reads

/-! ## Lines -/

theorem remindsOnly_bareAfter : RemindsOnly bareAfter := by
  intro after
  unfold bareAfter
  split
  · rename_i mode
    exact .inr ⟨"> ", mode ▸ .bare, rfl⟩
  · exact .inl rfl

theorem remindsOnly_nothing : RemindsOnly fun _ => [] :=
  fun _ => .inl rfl

theorem ready_takeLine {shown : Show} {interaction : Interaction} {text : String}
    (startDeclared : staging.story.declares staging.story.start = true)
    (quiet : shown.session.Quiet) (steady : shown.session.Steady staging.story)
    (mode : shown.session.position.mode = .waiting interaction) (asks : Asks staging.story shown text)
    (line : Option ReadLine) :
    Ready staging (takeLine options staging shown line).1
      (text ++ written .output (takeLine options staging shown line).2) := by
  have stands : shown.session.account.Stands := .inr (congrArg Mode.isWaiting mode)
  match line with
  | none => exact .closed 0 _
  | some (.error fault) => exact .closed 1 _
  | some (.ok line) =>
      by_cases quit : Text.trim line = quitWord
      · rw [takeLine, if_pos quit]
        exact .closed 0 _
      · cases interaction with
        | answer =>
            rw [takeLine_of_answer options staging mode quit]
            exact ready_afterCommand startDeclared asks quiet steady Command.noConfusion (.inr stands)
              remindsOnly_bareAfter
        | enter =>
            rw [takeLine_of_enter options staging mode quit]
            exact ready_afterCommand startDeclared asks quiet steady Command.noConfusion (.inr stands)
              remindsOnly_nothing
        | choice =>
            cases listed : chosenOffer? staging.story shown.session.position line with
            | some offer =>
                rw [takeLine_of_offer options staging mode quit listed]
                exact ready_afterCommand startDeclared asks quiet steady Command.noConfusion (.inr stands)
                  remindsOnly_nothing
            | none =>
                rw [takeLine_of_unlisted options staging mode quit listed, written_plain]
                have reminds : Reminds shown.session.account.mode "Enter a number from the list > " := by
                  rw [show shown.session.account.mode = .waiting .choice from mode]
                  exact .hint
                exact .waiting startDeclared (quiet.underway steady stands)
                  ⟨asks.untold, asks.prompted, asks.ends.reminded reminds⟩

end

theorem ready_openStory (options : Options) (story : Story) :
    Ready (stagingFor options story) (openStory options story).1
      (written .output (openStory options story).2) := by
  cases declared : story.declares story.start with
  | false =>
      rw [openStory_of_undeclared options declared]
      exact .closed 1 _
  | true =>
      have opened := State.opening_of_declared declared
      have steady : (State.initial story.store).Steady (stagingFor options story).story :=
        State.steady_of_opening opened
      have asks : Asks (stagingFor options story).story ⟨State.initial story.store, false⟩
          (written .output (reviewCues options (Review.review .standard story) ++ headingCues story)) :=
        ⟨rfl, rfl, .of_unasked rfl⟩
      rw [openStory_of_declared options declared, written_append]
      exact ready_afterCommand declared asks (State.quiet_of_opening opened) steady Command.noConfusion
        (.inl rfl) remindsOnly_nothing

/-! ## Plays -/

/-- A play of a story, with the lines that a reader types, has come to a point, and has written some cues. -/
inductive Plays (options : Options) (story : Story) (lines : List ReadLine) : Point → List Cue → Prop
  | opens : Plays options story lines ⟨(openStory options story).1, lines⟩ (openStory options story).2
  | settles {shown : Show} {left : List ReadLine} {cues : List Cue} {steps : Nat} {session : State}
      {report : Report} (plays : Plays options story lines ⟨.waiting shown, left⟩ cues)
      (settled : shown.session.settle (stagingFor options story) none steps = some (session, report)) :
      Plays options story lines ⟨(afterSettling options shown.prompted session report).1, left⟩
        (cues ++ (afterSettling options shown.prompted session report).2)
  | reads {shown : Show} {left : List ReadLine} {cues : List Cue}
      (plays : Plays options story lines ⟨.reading shown, left⟩ cues) :
      Plays options story lines
        ⟨(takeLine options (stagingFor options story) shown left.head?).1, left.tail⟩
        (cues ++ (takeLine options (stagingFor options story) shown left.head?).2)

namespace Plays

variable {options : Options} {story : Story} {lines : List ReadLine}

/-- A play comes to the first line that is read by opening the story and waiting once. -/
theorem of_opened {shown first : Show} {steps : Nat} {session : State} {report : Report}
    (opened : (openStory options story).1 = .waiting shown)
    (settled : shown.session.settle (stagingFor options story) none steps = some (session, report))
    (reads : (afterSettling options shown.prompted session report).1 = .reading first) :
    ∃ cues, Plays options story lines ⟨.reading first, lines⟩ cues := by
  have begun : Plays options story lines ⟨(openStory options story).1, lines⟩ _ := .opens
  rw [opened] at begun
  have waited := begun.settles settled
  rw [reads] at waited
  exact ⟨_, waited⟩

/-- All that a play writes until it is over is written turn by turn. -/
theorem of_play {steps bound : Nat} {turn : Turn} {left : List ReadLine} {before later : List Cue}
    {exit : Nat} (plays : Plays options story lines ⟨turn, left⟩ before)
    (played : play options (stagingFor options story) steps bound turn left = some (exit, later)) :
    ∃ rest, Plays options story lines ⟨.closed exit, rest⟩ (before ++ later) := by
  induction bound generalizing turn left before later with
  | zero => cases played
  | succ bound inductionHypothesis =>
      cases turn with
      | closed exit =>
          cases played
          exact ⟨left, (List.append_nil before).symm ▸ plays⟩
      | waiting shown =>
          obtain ⟨session, report, cues, settled, playedLater, rfl⟩ := settled_of_play played
          rw [← List.append_assoc]
          exact inductionHypothesis (plays.settles settled) playedLater
      | reading shown =>
          obtain ⟨cues, playedLater, rfl⟩ := read_of_play played
          rw [← List.append_assoc]
          exact inductionHypothesis plays.reads playedLater

theorem of_playStory {input : List UInt8} {bound exit : Nat} {cues : List Cue}
    (played : CommandLine.playStory options story input bound = some (exit, cues)) :
    ∃ rest, Plays options story (CommandLine.readLines input) ⟨.closed exit, rest⟩ cues := by
  obtain ⟨later, playedLater, rfl⟩ := play_of_playStory played
  exact of_play .opens playedLater

/-- At every turn of a play the screen asks for what is waited for. -/
theorem ready {point : Point} {cues : List Cue} (plays : Plays options story lines point cues) :
    Ready (stagingFor options story) point.turn (written .output cues) := by
  induction plays with
  | opens => exact ready_openStory options story
  | settles plays settled inductionHypothesis =>
      cases inductionHypothesis with
      | waiting startDeclared underway asks =>
          rw [written_append]
          exact ready_afterSettling startDeclared underway asks settled
  | reads plays inductionHypothesis =>
      cases inductionHypothesis with
      | reading startDeclared quiet steady mode asks =>
          rw [written_append]
          exact ready_takeLine startDeclared quiet steady mode asks _

/-- Wherever a line is read, something is waited for, and the screen asks for it. -/
theorem reading {shown : Show} {left : List ReadLine} {cues : List Cue}
    (plays : Plays options story lines ⟨.reading shown, left⟩ cues) :
    story.declares story.start = true ∧ shown.session.Quiet ∧ shown.session.Steady story ∧
      (∃ interaction, shown.session.position.mode = .waiting interaction) ∧
        Asks story shown (written .output cues) := by
  have ready := plays.ready
  cases ready with
  | reading startDeclared quiet steady mode asks =>
      exact ⟨startDeclared, quiet, steady, ⟨_, mode⟩, asks⟩

end Plays

end NarrativePlayer.Player
