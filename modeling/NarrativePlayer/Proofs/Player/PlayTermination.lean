import NarrativePlayer.CommandLine
import NarrativePlayer.Proofs.Player.TypedNumbers
import NarrativePlayer.Proofs.Session.RefusedCommands
import NarrativePlayer.Proofs.Session.WaitTermination

/-!
Contract: a story is played to its end, or to that of its reader.

In a story without circles every wait is over at some time, so a play is over when its lines are, if not
before. Owns how things stand at every turn of a play, what becomes of a line, and for what reasons a play
can be over. What is on the screen meanwhile is not owned here.
-/

namespace NarrativePlayer.Player

open Session

/-! ## Turns -/

/-- A point of a play: whose turn it is, and the lines that were not read yet. -/
structure Point where
  turn : Turn
  lines : List ReadLine

/-- One turn of a play. A line that is read is read no more. -/
inductive TakesTurn (options : Options) (staging : Staging) : Point → Point → Prop
  | settles {shown : Show} {lines : List ReadLine} {steps : Nat} {session : State} {report : Report}
      (settled : shown.session.settle staging none steps = some (session, report)) :
      TakesTurn options staging ⟨.waiting shown, lines⟩
        ⟨(afterSettling options shown.prompted session report).1, lines⟩
  | reads (shown : Show) (lines : List ReadLine) :
      TakesTurn options staging ⟨.reading shown, lines⟩
        ⟨(takeLine options staging shown lines.head?).1, lines.tail⟩

/-- A play comes from one point to another by any number of turns. -/
def Comes (options : Options) (staging : Staging) : Point → Point → Prop :=
  Relation.ReflTransGen (TakesTurn options staging)

section

variable {options : Options} {staging : Staging}

/-- A play that is over from a wait on was over from what came after the wait on. -/
theorem settled_of_play {steps bound : Nat} {shown : Show} {lines : List ReadLine} {exit : Nat}
    {cues : List Cue}
    (played : play options staging steps (bound + 1) (.waiting shown) lines = some (exit, cues)) :
    ∃ session report later, shown.session.settle staging none steps = some (session, report) ∧
      play options staging steps bound (afterSettling options shown.prompted session report).1 lines =
        some (exit, later) ∧
      cues = (afterSettling options shown.prompted session report).2 ++ later := by
  rw [play] at played
  split at played
  · cases played
  · rename_i session report settled
    obtain ⟨⟨code, later⟩, playedLater, same⟩ := Option.map_eq_some_iff.mp played
    obtain ⟨rfl, rfl⟩ := Prod.mk.inj same
    exact ⟨session, report, later, settled, playedLater, rfl⟩

/-- A play that is over from the reading of a line on was over from what came after that on. -/
theorem read_of_play {steps bound : Nat} {shown : Show} {lines : List ReadLine} {exit : Nat}
    {cues : List Cue}
    (played : play options staging steps (bound + 1) (.reading shown) lines = some (exit, cues)) :
    ∃ later, play options staging steps bound (takeLine options staging shown lines.head?).1 lines.tail =
        some (exit, later) ∧
      cues = (takeLine options staging shown lines.head?).2 ++ later := by
  rw [play] at played
  obtain ⟨⟨code, later⟩, playedLater, same⟩ := Option.map_eq_some_iff.mp played
  obtain ⟨rfl, rfl⟩ := Prod.mk.inj same
  exact ⟨later, playedLater, rfl⟩

/-- The play of a story is a play from its opening on. -/
theorem play_of_playStory {story : Story} {input : List UInt8} {bound exit : Nat} {cues : List Cue}
    (played : CommandLine.playStory options story input bound = some (exit, cues)) :
    ∃ later, play options (stagingFor options story) bound bound (openStory options story).1
        (CommandLine.readLines input) = some (exit, later) ∧
      cues = (openStory options story).2 ++ later := by
  obtain ⟨⟨code, later⟩, playedLater, same⟩ := Option.map_eq_some_iff.mp played
  obtain ⟨rfl, rfl⟩ := Prod.mk.inj same
  exact ⟨later, playedLater, rfl⟩

/-- A play that is over has come to its exit turn by turn. -/
theorem comes_of_play {steps bound : Nat} {turn : Turn} {lines : List ReadLine} {exit : Nat}
    {cues : List Cue} (played : play options staging steps bound turn lines = some (exit, cues)) :
    ∃ rest, Comes options staging ⟨turn, lines⟩ ⟨.closed exit, rest⟩ := by
  induction bound generalizing turn lines cues with
  | zero => cases played
  | succ bound inductionHypothesis =>
      cases turn with
      | closed exit =>
          cases played
          exact ⟨lines, .refl⟩
      | waiting shown =>
          obtain ⟨session, report, later, settled, playedLater, -⟩ := settled_of_play played
          obtain ⟨rest, comes⟩ := inductionHypothesis playedLater
          exact ⟨rest, .head (.settles settled) comes⟩
      | reading shown =>
          obtain ⟨later, playedLater, -⟩ := read_of_play played
          obtain ⟨rest, comes⟩ := inductionHypothesis playedLater
          exact ⟨rest, .head (.reads shown lines) comes⟩

theorem comes_of_closed {exit : Nat} {lines : List ReadLine} {point : Point}
    (comes : Comes options staging ⟨.closed exit, lines⟩ point) : point = ⟨.closed exit, lines⟩ := by
  induction comes with
  | refl => rfl
  | tail _ turns inductionHypothesis =>
      rw [inductionHypothesis] at turns
      cases turns

/-! ## Lines -/

/-- What is written after an answer was taken: a bare prompt, where an answer is waited for. -/
def bareAfter (after : Show) : List Cue :=
  if after.session.position.mode = .waiting .answer then [.plain .output "> "] else []

theorem takeLine_of_answer (options : Options) (staging : Staging) {shown : Show}
    (mode : shown.session.position.mode = .waiting .answer) {line : String}
    (goesOn : Text.trim line ≠ quitWord) :
    takeLine options staging shown (some (.ok line)) =
      afterCommand options shown.prompted (shown.session.execute staging (.submit line)) bareAfter := by
  rw [takeLine, if_neg goesOn, useLine, mode]
  rfl

theorem takeLine_of_offer (options : Options) (staging : Staging) {shown : Show}
    (mode : shown.session.position.mode = .waiting .choice) {line offer : String}
    (goesOn : Text.trim line ≠ quitWord)
    (listed : chosenOffer? staging.story shown.session.position line = some offer) :
    takeLine options staging shown (some (.ok line)) =
      afterCommand options shown.prompted (shown.session.execute staging (.choose offer)) fun _ => [] := by
  rw [takeLine, if_neg goesOn, useLine, mode]
  simp only [listed]
  rfl

theorem takeLine_of_unlisted (options : Options) (staging : Staging) {shown : Show}
    (mode : shown.session.position.mode = .waiting .choice) {line : String}
    (goesOn : Text.trim line ≠ quitWord)
    (unlisted : chosenOffer? staging.story shown.session.position line = none) :
    takeLine options staging shown (some (.ok line)) =
      (.waiting shown, [.plain .output "Enter a number from the list > "]) := by
  rw [takeLine, if_neg goesOn, useLine, mode]
  simp only [unlisted]

theorem takeLine_of_enter (options : Options) (staging : Staging) {shown : Show}
    (mode : shown.session.position.mode = .waiting .enter) {line : String}
    (goesOn : Text.trim line ≠ quitWord) :
    takeLine options staging shown (some (.ok line)) =
      afterCommand options shown.prompted (shown.session.execute staging .enter) fun _ => [] := by
  rw [takeLine, if_neg goesOn, useLine, mode]
  rfl

/-- What a line means where something is waited for: it is an answer as it stands, or it picks an option, or
whatever it says it is an acknowledgement. -/
inductive Means (story : Story) (position : Position) (line : String) : Interaction → Command → Prop
  | answer : Means story position line .answer (.submit line)
  | option {id : String} {choice : Choice} {offer : Offer}
      (pending : position.pending = some ⟨.choice, id⟩) (found : story.find? id = some (.choice choice))
      (picks : Picks choice line offer) : Means story position line .choice (.choose offer.id)
  | acknowledgement : Means story position line .enter .enter

/-- A line picks none of the options of the choice that is waited for. -/
def PicksNone (story : Story) (position : Position) (line : String) : Prop :=
  ∃ id choice, position.pending = some ⟨.choice, id⟩ ∧ story.find? id = some (.choice choice) ∧
    ∀ offer, ¬ Picks choice line offer

/-- What is written after a command that came from a line. -/
def closingOf : Interaction → Show → List Cue
  | .answer => bareAfter
  | .choice | .enter => fun _ => []

/-- What becomes of a line. It is the word for leaving, or it is used for the one command that it means; only
where it picks none of the options, nothing is done and the reader is asked again. -/
inductive Uses (options : Options) (staging : Staging) (shown : Show) (interaction : Interaction)
    (line : String) : Prop
  | quits (word : Text.trim line = quitWord)
      (taken : takeLine options staging shown (some (.ok line)) =
        leave options staging shown [.plain .output "Goodbye!\n"])
  | commands {command : Command} (goesOn : Text.trim line ≠ quitWord)
      (means : Means staging.story shown.session.position line interaction command)
      (taken : takeLine options staging shown (some (.ok line)) =
        afterCommand options shown.prompted (shown.session.execute staging command) (closingOf interaction))
  | repeats (goesOn : Text.trim line ≠ quitWord) (chooses : interaction = .choice)
      (unlisted : PicksNone staging.story shown.session.position line)
      (taken : takeLine options staging shown (some (.ok line)) =
        (.waiting shown, [.plain .output "Enter a number from the list > "]))

/-- A line means a command that answers what is waited for. -/
theorem Means.answers {story : Story} {position : Position} {line : String} {interaction : Interaction}
    {command : Command} (means : Means story position line interaction command) :
    command.interaction? = some interaction := by
  cases means with
  | answer => rfl
  | option => rfl
  | acknowledgement => rfl

theorem uses_line (options : Options) (staging : Staging) {shown : Show}
    (steady : shown.session.Steady staging.story) {interaction : Interaction}
    (mode : shown.session.position.mode = .waiting interaction) (line : String) :
    Uses options staging shown interaction line := by
  by_cases quit : Text.trim line = quitWord
  · exact .quits quit (by rw [takeLine, if_pos quit])
  · obtain ⟨id, scene, pending, current, found, ofKind⟩ := steady.exists_pending mode
    cases interaction with
    | answer => exact .commands quit .answer (takeLine_of_answer options staging mode quit)
    | enter => exact .commands quit .acknowledgement (takeLine_of_enter options staging mode quit)
    | choice =>
        cases scene with
        | sequence body => cases ofKind
        | question body => cases ofKind
        | choice choice =>
            by_cases picked : ∃ offer, Picks choice line offer
            · obtain ⟨offer, picks⟩ := picked
              exact .commands quit (.option pending found picks)
                (takeLine_of_offer options staging mode quit (chosenOffer?_of_picks current found picks))
            · have unpicked : ∀ offer, ¬ Picks choice line offer := not_exists.mp picked
              exact .repeats quit rfl ⟨id, choice, pending, found, unpicked⟩
                (takeLine_of_unlisted options staging mode quit
                  (chosenOffer?_of_unpicked current found unpicked))

/-! ## How things stand -/

/-- How things stand at a turn. A wait comes to an end, and not to another wait; a line is read when nothing
goes on and something is waited for, and used for that. -/
inductive Proper (options : Options) (staging : Staging) : Turn → Prop
  | waiting {shown : Show} {final : State} {report : Report}
      (settles : State.Settles staging shown.session final report)
      (moves : ∀ again, (afterSettling options shown.prompted final report).1 ≠ .waiting again) :
      Proper options staging (.waiting shown)
  | reading {shown : Show} {interaction : Interaction} {id : String} (quiet : shown.session.Quiet)
      (steady : shown.session.Steady staging.story)
      (mode : shown.session.position.mode = .waiting interaction)
      (awaited : shown.session.position.pendingFor? interaction = some id)
      (uses : ∀ line, Uses options staging shown interaction line) :
      Proper options staging (.reading shown)
  | closed (exit : Nat) : Proper options staging (.closed exit)

/-- What the end of a wait comes to. -/
theorem afterSettling_cases (options : Options) (prompted : Bool) {session final : State} {report : Report}
    (settles : State.Settles staging session final report) :
    (report = .settled ∧ final.position.mode = .ended ∧
      (afterSettling options prompted final report).1 = .closed 0) ∨
    (∃ interaction, final.position.mode = .waiting interaction ∧
      ∃ onScreen, (afterSettling options prompted final report).1 = .reading ⟨final.untold, onScreen⟩) ∨
    ∃ trouble, report = .failed trouble ∧ (afterSettling options prompted final report).1 = .closed 1 := by
  rcases settles.cases with ⟨rfl, ended⟩ | ⟨rfl, interaction, mode⟩ | ⟨trouble, rfl⟩
  · refine .inl ⟨rfl, ended, ?_⟩
    simp only [afterSettling, present, ended]
  · refine .inr (.inl ⟨interaction, mode, (cuesOfAll options prompted final.trace.reverse).2, ?_⟩)
    simp only [afterSettling, present, mode, State.untold]
  · exact .inr (.inr ⟨trouble, rfl, rfl⟩)

theorem proper_waiting {shown : Show} {final : State} {report : Report}
    (settles : State.Settles staging shown.session final report) :
    Proper options staging (.waiting shown) := by
  refine .waiting settles fun again same => ?_
  rcases afterSettling_cases options shown.prompted settles with
    ⟨-, -, turn⟩ | ⟨interaction, -, onScreen, turn⟩ | ⟨trouble, -, turn⟩
  · cases turn.symm.trans same
  · cases turn.symm.trans same
  · cases turn.symm.trans same

theorem proper_reading {shown : Show} (quiet : shown.session.Quiet)
    (steady : shown.session.Steady staging.story) {interaction : Interaction}
    (mode : shown.session.position.mode = .waiting interaction) :
    Proper options staging (.reading shown) := by
  obtain ⟨id, scene, pending, -, -, -⟩ := steady.exists_pending mode
  have awaited : shown.session.position.pendingFor? interaction = some id := by
    simp [Position.pendingFor?, pending]
  exact .reading quiet steady mode awaited (uses_line options staging steady mode)

theorem proper_afterSettling (prompted : Bool) {session final : State} {report : Report}
    (settles : State.Settles staging session final report) :
    Proper options staging (afterSettling options prompted final report).1 := by
  rcases afterSettling_cases options prompted settles with
    ⟨-, -, turn⟩ | ⟨interaction, mode, onScreen, turn⟩ | ⟨trouble, -, turn⟩
  · rw [turn]
    exact .closed 0
  · rw [turn]
    exact proper_reading settles.quiet.untold settles.steady.untold mode
  · rw [turn]
    exact .closed 1

/-! ## From turn to turn -/

/-- With all bounds that are large enough, a play is over with an exit code and some cues. -/
def Ends (options : Options) (staging : Staging) (turn : Turn) (lines : List ReadLine) (exit : Nat)
    (cues : List Cue) : Prop :=
  ∃ enough, ∀ steps bound, enough ≤ steps → enough ≤ bound →
    play options staging steps bound turn lines = some (exit, cues)

theorem Ends.closed (exit : Nat) (lines : List ReadLine) :
    Ends options staging (.closed exit) lines exit [] := by
  refine ⟨1, fun steps bound _ within => ?_⟩
  obtain ⟨more, rfl⟩ : ∃ more, bound = more + 1 := ⟨bound - 1, by omega⟩
  rfl

theorem Ends.settled {shown : Show} {lines : List ReadLine} {final : State} {report : Report}
    {exit : Nat} {cues : List Cue} (settles : State.Settles staging shown.session final report)
    (ends : Ends options staging (afterSettling options shown.prompted final report).1 lines exit cues) :
    Ends options staging (.waiting shown) lines exit
      ((afterSettling options shown.prompted final report).2 ++ cues) := by
  obtain ⟨enough, settled⟩ := settles.settled
  obtain ⟨enoughLater, played⟩ := ends
  refine ⟨max enough enoughLater + 1, fun steps bound manySteps manyTurns => ?_⟩
  obtain ⟨more, rfl⟩ : ∃ more, bound = more + 1 := ⟨bound - 1, by omega⟩
  rw [play, settled steps (by omega)]
  simp only [played steps more (by omega) (by omega), Option.map_some]

theorem Ends.read {shown : Show} (lines : List ReadLine) {exit : Nat} {cues : List Cue}
    (ends : Ends options staging (takeLine options staging shown lines.head?).1 lines.tail exit cues) :
    Ends options staging (.reading shown) lines exit
      ((takeLine options staging shown lines.head?).2 ++ cues) := by
  obtain ⟨enough, played⟩ := ends
  refine ⟨enough + 1, fun steps bound manySteps manyTurns => ?_⟩
  obtain ⟨more, rfl⟩ : ∃ more, bound = more + 1 := ⟨bound - 1, by omega⟩
  rw [play]
  simp only [played steps more (by omega) (by omega), Option.map_some]

theorem afterCommand_cases (options : Options) (prompted : Bool) (outcome : State × Reply)
    (closing : Show → List Cue) :
    (∃ trouble, outcome.2 = .failed trouble ∧
      (afterCommand options prompted outcome closing).1 = .closed 1) ∨
    ((∀ trouble, outcome.2 ≠ .failed trouble) ∧ ∃ onScreen,
      (afterCommand options prompted outcome closing).1 = .waiting ⟨outcome.1.untold, onScreen⟩) := by
  obtain ⟨session, reply⟩ := outcome
  cases reply with
  | failed trouble => exact .inl ⟨trouble, rfl, rfl⟩
  | done => exact .inr ⟨fun _ => Reply.noConfusion, _, rfl⟩
  | held ticket => exact .inr ⟨fun _ => Reply.noConfusion, _, rfl⟩

section

variable (startDeclared : staging.story.declares staging.story.start = true)
  (acyclic : staging.story.Acyclic)

include startDeclared acyclic

/-- Whatever a command leads to can be waited for. -/
theorem proper_afterCommand {session : State} (quiet : session.Quiet)
    (steady : session.Steady staging.story) {command : Command}
    (stood : command = .start ∨ session.account.Stands) (prompted : Bool) (closing : Show → List Cue) :
    Proper options staging
      (afterCommand options prompted (session.execute staging command) closing).1 := by
  rcases afterCommand_cases options prompted (session.execute staging command) closing with
    ⟨trouble, -, turn⟩ | ⟨unfailed, onScreen, turn⟩
  · rw [turn]
    exact .closed 1
  · obtain ⟨final, report, settles⟩ := quiet.settles steady startDeclared acyclic stood unfailed
    rw [turn]
    exact proper_waiting settles

theorem proper_takeLine {shown : Show} {interaction : Interaction} (quiet : shown.session.Quiet)
    (steady : shown.session.Steady staging.story)
    (mode : shown.session.position.mode = .waiting interaction) (line : String) :
    Proper options staging (takeLine options staging shown (some (.ok line))).1 := by
  have stands : shown.session.account.Stands := .inr (congrArg Mode.isWaiting mode)
  cases uses_line options staging steady mode line with
  | quits word taken =>
      rw [taken]
      exact .closed 0
  | commands goesOn means taken =>
      rw [taken]
      exact proper_afterCommand startDeclared acyclic quiet steady (.inr stands) shown.prompted _
  | repeats goesOn chooses unlisted taken =>
      rw [taken]
      exact proper_waiting (quiet.settles_at_once steady stands)

/-- In every turn things stand properly, as long as all lines can be read. -/
theorem proper_turn {before after : Point} (turns : TakesTurn options staging before after)
    (proper : Proper options staging before.turn)
    (readable : ∀ line ∈ before.lines, ∃ text, line = .ok text) :
    Proper options staging after.turn ∧ after.lines <:+ before.lines := by
  cases turns with
  | @settles shown lines steps session report settled =>
      cases proper with
      | waiting settles moves =>
          obtain ⟨rfl, rfl⟩ := settles.unique settled
          exact ⟨proper_afterSettling shown.prompted settles, List.suffix_refl lines⟩
  | reads shown lines =>
      cases proper with
      | reading quiet steady mode awaited uses =>
          refine ⟨?_, List.tail_suffix lines⟩
          cases lines with
          | nil => exact .closed 0
          | cons line rest =>
              obtain ⟨text, rfl⟩ := readable line List.mem_cons_self
              exact proper_takeLine startDeclared acyclic quiet steady mode text

theorem proper_comes {before after : Point} (comes : Comes options staging before after)
    (proper : Proper options staging before.turn)
    (readable : ∀ line ∈ before.lines, ∃ text, line = .ok text) :
    Proper options staging after.turn ∧ after.lines <:+ before.lines := by
  induction comes with
  | refl => exact ⟨proper, List.suffix_refl _⟩
  | tail _ turns inductionHypothesis =>
      obtain ⟨properThen, suffix⟩ := inductionHypothesis
      obtain ⟨properAfter, further⟩ := proper_turn startDeclared acyclic turns properThen
        fun line member => readable line (suffix.subset member)
      exact ⟨properAfter, further.trans suffix⟩

/-! ## The end of a play -/

/-- Where things stand properly, a play is over at some time: every wait is, and between two waits a line is
read. -/
theorem ends_of_proper {lines : List ReadLine} (readable : ∀ line ∈ lines, ∃ text, line = .ok text)
    {turn : Turn} (proper : Proper options staging turn) :
    ∃ exit cues, Ends options staging turn lines exit cues := by
  -- A wait comes to a reading with the lines that are left, so readings are what the induction is about.
  have whole : ∀ {lines : List ReadLine},
      (∀ {shown}, Proper options staging (.reading shown) →
        ∃ exit cues, Ends options staging (.reading shown) lines exit cues) →
      ∀ {turn}, Proper options staging turn → ∃ exit cues, Ends options staging turn lines exit cues := by
    intro lines readings turn proper
    cases proper with
    | closed exit => exact ⟨exit, [], .closed exit lines⟩
    | reading quiet steady mode awaited uses => exact readings (.reading quiet steady mode awaited uses)
    | @waiting shown final report settles moves =>
        have ends : ∃ exit cues,
            Ends options staging (afterSettling options shown.prompted final report).1 lines exit cues := by
          have properThen : Proper options staging (afterSettling options shown.prompted final report).1 :=
            proper_afterSettling shown.prompted settles
          generalize (afterSettling options shown.prompted final report).1 = turn at properThen moves
          cases properThen with
          | @waiting again => exact absurd rfl (moves again)
          | reading quiet steady mode awaited uses => exact readings (.reading quiet steady mode awaited uses)
          | closed exit => exact ⟨exit, [], .closed exit lines⟩
        obtain ⟨exit, cues, ends⟩ := ends
        exact ⟨exit, _, ends.settled settles⟩
  induction lines generalizing turn with
  | nil =>
      refine whole (fun {shown} _ => ?_) proper
      exact ⟨0, _, .read [] (.closed 0 [])⟩
  | cons line rest inductionHypothesis =>
      obtain ⟨text, rfl⟩ := readable line List.mem_cons_self
      refine whole (fun {shown} reading => ?_) proper
      cases reading with
      | reading quiet steady mode awaited uses =>
          have properThen : Proper options staging (takeLine options staging shown (some (.ok text))).1 :=
            proper_takeLine startDeclared acyclic quiet steady mode text
          obtain ⟨exit, cues, ends⟩ := inductionHypothesis
            (fun line member => readable line (List.mem_cons_of_mem _ member)) properThen
          exact ⟨exit, _, .read (.ok text :: rest) ends⟩

end

/-- Why a play is over. -/
inductive Closes (options : Options) (staging : Staging) : Point → Nat → Prop
  | theEnd {shown : Show} {final : State} (lines : List ReadLine)
      (settles : State.Settles staging shown.session final .settled)
      (ended : final.position.mode = .ended) : Closes options staging ⟨.waiting shown, lines⟩ 0
  /-- A sequence led to an id that is not declared. -/
  | ledAstray {shown : Show} {final : State} {trouble : Trouble} {ticket generation : Nat}
      {sequence : Sequence} {target : String} (lines : List ReadLine)
      (settles : State.Settles staging shown.session final (.failed trouble))
      (performs : final.Performs ticket sequence generation (.finished (.failed trouble)))
      (onward : sequence.next = some target) (absent : staging.story.find? target = none) :
      Closes options staging ⟨.waiting shown, lines⟩ 1
  | noMoreLines (shown : Show) : Closes options staging ⟨.reading shown, []⟩ 0
  | quits {line : String} (shown : Show) (rest : List ReadLine) (word : Text.trim line = quitWord) :
      Closes options staging ⟨.reading shown, .ok line :: rest⟩ 0
  /-- A line meant a command that leads to an id that is not declared. -/
  | refused {shown : Show} {interaction : Interaction} {line : String} {command : Command}
      {submitted : Option String} {actions : List Action} {target : String} (rest : List ReadLine)
      (means : Means staging.story shown.session.position line interaction command)
      (taken : takeLine options staging shown (some (.ok line)) =
        afterCommand options shown.prompted (shown.session.execute staging command) (closingOf interaction))
      (leaves : Leaves staging.story shown.session.position command submitted actions target)
      (absent : staging.story.find? target = none) :
      Closes options staging ⟨.reading shown, .ok line :: rest⟩ 1

theorem closes_of_turn {before : Point} {exit : Nat} {rest : List ReadLine}
    (turns : TakesTurn options staging before ⟨.closed exit, rest⟩)
    (proper : Proper options staging before.turn)
    (readable : ∀ line ∈ before.lines, ∃ text, line = .ok text) :
    Closes options staging before exit := by
  generalize reached : Point.mk (.closed exit) rest = after at turns
  cases turns with
  | @settles shown lines steps session report settled =>
      obtain ⟨closed, rfl⟩ := Point.mk.inj reached
      cases proper with
      | waiting settles moves =>
          obtain ⟨rfl, rfl⟩ := settles.unique settled
          rcases afterSettling_cases options shown.prompted settles with
            ⟨rfl, ended, turn⟩ | ⟨interaction, mode, onScreen, turn⟩ | ⟨trouble, rfl, turn⟩
          · cases closed.trans turn
            exact .theEnd rest settles ended
          · cases closed.trans turn
          · cases closed.trans turn
            obtain ⟨ticket, sequence, generation, target, performs, -, onward, absent, -⟩ :=
              settles.ledAstray
            exact .ledAstray rest settles performs onward absent
  | reads shown lines =>
      obtain ⟨closed, rfl⟩ := Point.mk.inj reached
      cases proper with
      | @reading _ interaction id quiet steady mode awaited uses =>
          cases lines with
          | nil =>
              cases closed
              exact .noMoreLines shown
          | cons line rest =>
              obtain ⟨text, rfl⟩ := readable line List.mem_cons_self
              have turn : Turn.closed exit = (takeLine options staging shown (some (.ok text))).1 := closed
              cases uses text with
              | quits word taken =>
                  rw [taken] at turn
                  cases turn
                  exact .quits shown rest word
              | @commands command unquit means taken =>
                  rw [taken] at turn
                  rcases afterCommand_cases options shown.prompted
                    (shown.session.execute staging command) (closingOf interaction) with
                    ⟨trouble, failed, stops⟩ | ⟨-, onScreen, goesOn⟩
                  · cases turn.trans stops
                    have answering : command.interaction?.isSome = true := by
                      rw [means.answers]
                      rfl
                    obtain ⟨submitted, actions, target, leaves, absent, -⟩ :=
                      steady.leaves_of_failed answering failed
                    exact .refused rest means taken leaves absent
                  · cases turn.trans goesOn
              | repeats unquit chooses unlisted taken =>
                  rw [taken] at turn
                  cases turn

end

/-! ## Whole plays -/

/-- A story is opened properly, or closed at once because its start is not declared. -/
theorem proper_openStory (options : Options) {story : Story} (acyclic : story.Acyclic) :
    (story.declares story.start = false ∧ (openStory options story).1 = .closed 1) ∨
      story.declares story.start = true ∧
        Proper options (stagingFor options story) (openStory options story).1 ∧
          ∀ exit, (openStory options story).1 ≠ .closed exit := by
  cases opened : State.opening story with
  | error trouble =>
      refine .inl ⟨?_, by simp only [openStory, opened]⟩
      cases declared : story.declares story.start with
      | false => rfl
      | true => cases opened.symm.trans (State.opening_of_declared declared)
  | ok session =>
      have startDeclared := (State.initial_of_opening opened).2
      have turn : (openStory options story).1 =
          (afterCommand options false (session.execute (stagingFor options story) .start) fun _ => []).1 := by
        simp only [openStory, opened, State.execute]
      have quiet := State.quiet_of_opening opened
      have steady := State.steady_of_opening opened
      rw [turn]
      refine .inr ⟨startDeclared,
        proper_afterCommand startDeclared acyclic quiet steady (.inl rfl) false _, ?_⟩
      intro exit closed
      rcases afterCommand_cases options false (session.execute (stagingFor options story) .start)
        (fun _ => []) with ⟨trouble, failed, -⟩ | ⟨-, onScreen, goesOn⟩
      · have obeys := session.obeys_execute (stagingFor options story) .start
        obtain ⟨notes, entered, -, result, enters⟩ := obeys.of_start
        rw [result] at failed
        exact enters.reply_not_failed startDeclared trouble failed
      · cases closed.symm.trans goesOn

/-- In a story in which no sequence leads back to itself by itself, whatever a reader types, and however long
the reader goes on: the play is over at some time. At every turn until then, waiting comes to an end and is
not followed by another wait; a line is read only when nothing goes on and something is waited for, and is
read once, the first of those that are left. The word for leaving apart, the line is submitted where an
answer is waited for, where a choice is it chooses the option whose number it writes, or if there is none
is asked for again, and otherwise it lets the sequence go on. The play fails only if the start of the story
is not declared, or a sequence or a command leads to an id that is not. Otherwise the story has ended, or
the reader has left or has nothing more to say. -/
theorem play_comes_to_end (options : Options) (story : Story) (acyclic : story.Acyclic)
    (input : List UInt8)
    (readable : ∀ line ∈ CommandLine.readLines input, ∃ text, line = .ok text) :
    let staging := stagingFor options story
    let beginning : Point := ⟨(openStory options story).1, CommandLine.readLines input⟩
    (∃ exit cues enough rest,
      (∀ bound, enough ≤ bound → CommandLine.playStory options story input bound = some (exit, cues)) ∧
        Comes options staging beginning ⟨.closed exit, rest⟩) ∧
    (∀ point, Comes options staging beginning point →
      Proper options staging point.turn ∧ point.lines <:+ CommandLine.readLines input) ∧
    (∀ before exit rest, Comes options staging beginning before →
      TakesTurn options staging before ⟨.closed exit, rest⟩ → Closes options staging before exit) ∧
    ∀ exit, beginning.turn = .closed exit → exit = 1 ∧ story.declares story.start = false := by
  intro staging beginning
  have played : ∃ exit cues, Ends options staging beginning.turn beginning.lines exit cues ∧
      (∀ point, Comes options staging beginning point →
        Proper options staging point.turn ∧ point.lines <:+ beginning.lines) ∧
      ∀ exit, beginning.turn = .closed exit → exit = 1 ∧ story.declares story.start = false := by
    rcases proper_openStory options acyclic with
      ⟨undeclared, turn⟩ | ⟨startDeclared, proper, stillOpen⟩
    · have closed : beginning = ⟨.closed 1, CommandLine.readLines input⟩ := congrArg (Point.mk · _) turn
      rw [closed]
      refine ⟨1, [], .closed 1 _, fun point comes => ?_, fun exit same => ?_⟩
      · rw [comes_of_closed comes]
        exact ⟨.closed 1, List.suffix_refl _⟩
      · cases same
        exact ⟨rfl, undeclared⟩
    · obtain ⟨exit, cues, ends⟩ := ends_of_proper startDeclared acyclic readable proper
      exact ⟨exit, cues, ends, fun point comes =>
        proper_comes startDeclared acyclic comes proper readable,
        fun exit closed => absurd closed (stillOpen exit)⟩
  obtain ⟨exit, cues, ⟨enough, plays⟩, properly, closedAtOnce⟩ := played
  obtain ⟨rest, comes⟩ := comes_of_play (plays enough enough (Nat.le_refl _) (Nat.le_refl _))
  refine ⟨⟨exit, (openStory options story).2 ++ cues, enough, rest, fun bound within => ?_, comes⟩,
    properly, ?_, closedAtOnce⟩
  · have ends : play options (stagingFor options story) bound bound (openStory options story).1
        (CommandLine.readLines input) = some (exit, cues) := plays bound bound within within
    simp only [CommandLine.playStory, ends, Option.map_some]
  · intro before exit rest comesBefore turns
    obtain ⟨properBefore, suffix⟩ := properly before comesBefore
    exact closes_of_turn turns properBefore fun line member => readable line (suffix.subset member)

/-- A reader who answers "Bea", takes the first option and then goes on comes to the end of the story. -/
theorem sample_play_ends :
    let options : Options := ⟨false, none⟩
    let input : List UInt8 := [66, 101, 97, 10, 49, 10, 10]
    CommandLine.readLines input = [.ok "Bea", .ok "1", .ok ""] ∧
    (∃ exit cues enough, ∀ bound, enough ≤ bound →
      CommandLine.playStory options .sample input bound = some (exit, cues)) ∧
    (CommandLine.playStory options .sample input 30).map
        (fun (exit, cues) => (exit, written .output cues)) =
      some (0, "=== sample ===\n(type :q to quit)\n\nHello.\nWho are you?\nName > \n"
        ++ "Where to, Bea?\n  1. On\n> \nFarewell, Bea.\n\n== THE END ==\n") := by
  intro options input
  have lines : CommandLine.readLines input = [.ok "Bea", .ok "1", .ok ""] := by decide +kernel
  have readable : ∀ line ∈ CommandLine.readLines input, ∃ text, line = .ok text := by
    rw [lines]
    simp
  obtain ⟨⟨exit, cues, enough, -, ends, -⟩, -⟩ :=
    play_comes_to_end options .sample (by decide) input readable
  exact ⟨lines, ⟨exit, cues, enough, ends⟩, by decide +kernel⟩

end NarrativePlayer.Player
