import NarrativePlayer.CommandLine
import NarrativePlayer.Proofs.Player.Display
import NarrativePlayer.Proofs.Player.PlayTermination
import NarrativePlayer.Proofs.Session.FinishedWaits

/-!
Contract: the pace of a story is not heard in what is told.

Two stories that are the same but for the pauses and speeds of their lines are played side by side, with
whatever options, on the same lines. Owns that the two plays go turn by turn through sessions that show the
same of themselves, write the same to the output, in however many writes, and are over with the same exit
code, or that neither is ever over. What is written as an error, and when anything is written, is not owned
here.
-/

namespace NarrativePlayer.Player

open Session

/-! ## Side by side -/

/-- Two shows that differ in times and paces only. -/
structure SameShow (shown other : Show) : Prop where
  account : shown.session.account.unpaced = other.session.account.unpaced
  prompted : shown.prompted = other.prompted

/-- Two turns at which the same can come. -/
inductive Alike (staging staging' : Staging) : Turn → Turn → Prop
  | waiting {shown other : Show} {arrival arrival' : Arrival} (same : SameShow shown other)
      (underway : State.Underway staging shown.session arrival)
      (underway' : State.Underway staging' other.session arrival')
      (arrivals : arrival.unpaced = arrival'.unpaced) :
      Alike staging staging' (.waiting shown) (.waiting other)
  | reading {shown other : Show} {interaction : Interaction} (same : SameShow shown other)
      (quiet : shown.session.Quiet) (steady : shown.session.Steady staging.story)
      (quiet' : other.session.Quiet) (steady' : other.session.Steady staging'.story)
      (mode : shown.session.position.mode = .waiting interaction) :
      Alike staging staging' (.reading shown) (.reading other)
  | closed (exit : Nat) : Alike staging staging' (.closed exit) (.closed exit)

/-- Two outcomes of a turn that lead to the same, and write the same to the output. -/
def GoAlike (staging staging' : Staging) (taken taken' : Turn × List Cue) : Prop :=
  Alike staging staging' taken.1 taken'.1 ∧ written .output taken.2 = written .output taken'.2

section

variable (options options' : Options) {staging staging' : Staging} {state state' : State}

theorem mode_eq_of_account_eq (same : state.account.unpaced = state'.account.unpaced) :
    state.position.mode = state'.position.mode :=
  congrArg Account.mode same

theorem stands_of_mode {interaction : Interaction} (mode : state.position.mode = .waiting interaction) :
    state.account.Stands :=
  .inr (congrArg Mode.isWaiting mode)

theorem shown_eq_of_account_eq (same : state.account.unpaced = state'.account.unpaced) (prompted : Bool) :
    shown prompted state.account.calls = shown prompted state'.account.calls := by
  have calls : state.account.calls.map Event.unpaced = state'.account.calls.map Event.unpaced :=
    congrArg Account.calls same
  rw [← shown_unpaced, calls, shown_unpaced]

theorem sameShow_present (same : state.account.unpaced = state'.account.unpaced) (prompted : Bool) :
    SameShow (present options state prompted).1 (present options' state' prompted).1 := by
  rw [present_fst, present_fst]
  refine ⟨?_, congrArg Prod.snd (shown_eq_of_account_eq same prompted)⟩
  exact congrArg (fun account : Account => { account with calls := [] }) same

theorem written_present_eq (same : state.account.unpaced = state'.account.unpaced) (prompted : Bool) :
    written .output (present options state prompted).2 =
      written .output (present options' state' prompted).2 := by
  rw [written_present, written_present, shown_eq_of_account_eq same]

/-- Two waits that are over leave behind the same. -/
theorem goAlike_afterSettling {session session' final final' : State} {report : Report}
    (settles : State.Settles staging session final report)
    (settles' : State.Settles staging' session' final' report)
    (same : final.account.unpaced = final'.account.unpaced) (prompted : Bool) :
    GoAlike staging staging' (afterSettling options prompted final report)
      (afterSettling options' prompted final' report) := by
  have shows := sameShow_present options options' same prompted
  have texts := written_present_eq options options' same prompted
  have modes := mode_eq_of_account_eq same
  rcases settles.cases with ⟨rfl, ended⟩ | ⟨rfl, interaction, mode⟩ | ⟨trouble, rfl⟩
  · rw [afterSettling_of_ended options prompted ended,
      afterSettling_of_ended options' prompted (modes.symm.trans ended)]
    refine ⟨.closed 0, ?_⟩
    rw [written_append, written_append, texts]
  · rw [afterSettling_of_waiting options prompted mode,
      afterSettling_of_waiting options' prompted (modes.symm.trans mode)]
    rw [present_fst, present_fst] at shows
    rw [present_fst, present_fst]
    exact ⟨.reading shows settles.quiet.untold settles.steady.untold settles'.quiet.untold
      settles'.steady.untold mode, texts⟩
  · rw [afterSettling_of_failed, afterSettling_of_failed]
    refine ⟨.closed 1, ?_⟩
    rw [written_append, written_append, texts]

section Stories

variable (retold : staging.story.unpaced = staging'.story.unpaced)

include retold

theorem declares_retold (id : String) : staging.story.declares id = staging'.story.declares id := by
  rw [← Story.declares_unpaced, retold, Story.declares_unpaced]

theorem start_retold : staging.story.start = staging'.story.start := by
  have starts := congrArg Story.start retold
  exact starts

theorem startDeclared_retold (startDeclared : staging.story.declares staging.story.start = true) :
    staging'.story.declares staging'.story.start = true := by
  rw [← start_retold retold, ← declares_retold retold]
  exact startDeclared

theorem straight_retold (id : String) : staging.story.Straight id ↔ staging'.story.Straight id := by
  rw [← Story.straight_unpaced, retold, Story.straight_unpaced]

theorem chosenOffer?_retold {position position' : Position} (current : position.current = position'.current)
    (line : String) :
    chosenOffer? staging.story position line = chosenOffer? staging'.story position' line := by
  have unpaced : ∀ (story : Story) (given : Position),
      chosenOffer? story.unpaced given line = chosenOffer? story given line := by
    intro story given
    unfold chosenOffer?
    have found : given.current.bind story.unpaced.find? =
        (given.current.bind story.find?).map Scene.unpaced := by
      cases given.current <;> simp
    rw [found]
    generalize given.current.bind story.find? = found?
    generalize number? (Text.trim line) = number?
    cases found? with
    | none => rcases number? with _ | _ | _ <;> rfl
    | some scene => rcases number? with _ | _ | _ <;> cases scene <;> rfl
  have same : chosenOffer? staging'.story.unpaced position line =
      chosenOffer? staging'.story.unpaced position' line := by
    unfold chosenOffer?
    rw [current]
  rw [← unpaced, retold, same, unpaced]

/-! ## Commands -/

/-- A command is obeyed alike. -/
theorem execute_alike (quiet : state.Quiet) (steady : state.Steady staging.story)
    (quiet' : state'.Quiet) (steady' : state'.Steady staging'.story)
    (same : state.account.unpaced = state'.account.unpaced) (command : Command) :
    (state.execute staging command).1.account.unpaced =
        (state'.execute staging' command).1.account.unpaced ∧
      (state.execute staging command).2 = (state'.execute staging' command).2 ∧
      (state.account.obey staging.story command).2.unpaced =
        (state'.account.obey staging'.story command).2.unpaced := by
  obtain ⟨arrival, responds, obeyed⟩ := State.responds_execute quiet.toPrompt steady command
  obtain ⟨arrival', responds', obeyed'⟩ := State.responds_execute quiet'.toPrompt steady' command
  have obeyedUnpaced := Account.obey_unpaced state.account staging.story command
  rw [same, retold, Account.obey_unpaced, obeyed, obeyed'] at obeyedUnpaced
  obtain ⟨accounts, arrivals⟩ := Prod.ext_iff.mp obeyedUnpaced
  have arrivalsSame : arrival'.unpaced = arrival.unpaced := arrivals
  refine ⟨accounts.symm, ?_, ?_⟩
  · rw [responds.reply_eq, responds'.reply_eq, ← Arrival.reply_unpaced, ← arrivalsSame,
      Arrival.reply_unpaced]
  · rw [obeyed, obeyed']
    exact arrivalsSame.symm

theorem goAlike_afterCommand (startDeclared : staging.story.declares staging.story.start = true)
    (quiet : state.Quiet) (steady : state.Steady staging.story)
    (quiet' : state'.Quiet) (steady' : state'.Steady staging'.story)
    (same : state.account.unpaced = state'.account.unpaced) {command : Command}
    (stood : command = .start ∨ state.account.Stands) (prompted : Bool) {closing closing' : Show → List Cue}
    (closes : ∀ shown other, SameShow shown other →
      written .output (closing shown) = written .output (closing' other)) :
    GoAlike staging staging'
      (afterCommand options prompted (state.execute staging command) closing)
      (afterCommand options' prompted (state'.execute staging' command) closing') := by
  obtain ⟨accounts, replies, arrivals⟩ := execute_alike retold quiet steady quiet' steady' same command
  have startDeclared' := startDeclared_retold retold startDeclared
  have stood' : command = .start ∨ state'.account.Stands := by
    refine stood.imp_right fun stands => ?_
    rw [Account.Stands] at stands ⊢
    have modes : state.account.mode = state'.account.mode := mode_eq_of_account_eq same
    rwa [← modes]
  have shows := sameShow_present options options' accounts prompted
  have texts := written_present_eq options options' accounts prompted
  by_cases failed : ∃ trouble, (state.execute staging command).2 = .failed trouble
  · obtain ⟨trouble, failed⟩ := failed
    have failed' := replies.symm.trans failed
    rw [afterCommand_of_failed options prompted failed, afterCommand_of_failed options' prompted failed']
    refine ⟨.closed 1, ?_⟩
    rw [written_append, written_append, texts]
  · have unfailed : ∀ trouble, (state.execute staging command).2 ≠ .failed trouble :=
      fun trouble here => failed ⟨trouble, here⟩
    have unfailed' : ∀ trouble, (state'.execute staging' command).2 ≠ .failed trouble :=
      fun trouble here => failed ⟨trouble, replies.trans here⟩
    obtain ⟨arrival, underway, obeyed⟩ := quiet.underway_execute steady startDeclared stood unfailed
    obtain ⟨arrival', underway', obeyed'⟩ := quiet'.underway_execute steady' startDeclared' stood' unfailed'
    rw [obeyed, obeyed'] at arrivals
    rw [afterCommand_of_unfailed options prompted unfailed, afterCommand_of_unfailed options' prompted unfailed']
    refine ⟨?_, ?_⟩
    · rw [present_fst] at shows ⊢
      rw [present_fst] at shows ⊢
      exact .waiting shows underway underway' arrivals
    · rw [written_append, written_append, texts, closes _ _ shows]

/-! ## Turns -/

theorem goAlike_leave {shown other : Show} (same : SameShow shown other)
    (quiet : shown.session.Quiet) (steady : shown.session.Steady staging.story)
    (quiet' : other.session.Quiet) (steady' : other.session.Steady staging'.story)
    (farewell : List Cue) :
    GoAlike staging staging' (leave options staging shown farewell)
      (leave options' staging' other farewell) := by
  obtain ⟨accounts, -, -⟩ := execute_alike retold quiet steady quiet' steady' same.account .stop
  refine ⟨.closed 0, ?_⟩
  have texts := written_present_eq options options' accounts shown.prompted
  show written .output ((present options (shown.session.stop staging) shown.prompted).2 ++ farewell) =
    written .output ((present options' (other.session.stop staging') other.prompted).2 ++ farewell)
  rw [written_append, written_append, ← same.prompted]
  exact congrArg (· ++ written .output farewell) texts

variable (startDeclared : staging.story.declares staging.story.start = true)

include startDeclared

/-- Where one of two waits is over, so is the other, and leaves behind the same. -/
theorem settles_alike {session session' final : State} {arrival arrival' : Arrival} {report : Report}
    (underway : State.Underway staging session arrival)
    (underway' : State.Underway staging' session' arrival')
    (same : session.account.unpaced = session'.account.unpaced)
    (arrivals : arrival.unpaced = arrival'.unpaced) {bound : Nat}
    (done : session.settle staging none bound = some (final, report)) :
    State.Settles staging session final report ∧
      ∃ final', State.Settles staging' session' final' report ∧
        final.account.unpaced = final'.account.unpaced := by
  obtain ⟨settles, concluded⟩ := underway.of_settle startDeclared done
  have startDeclared' := startDeclared_retold retold startDeclared
  have straight' : ∀ id, arrival'.beginning? = some id → staging'.story.Straight id := by
    intro id begins
    rw [← Arrival.beginning?_unpaced, ← arrivals, Arrival.beginning?_unpaced] at begins
    exact (straight_retold retold id).mp (underway.straight_of_settle done begins)
  obtain ⟨final', report', settles', concluded'⟩ := underway'.settles startDeclared' straight'
  have concludedAlike : (final.account.unpaced, report) = (final'.account.unpaced, report') := by
    have unpaced := Account.conclude_unpaced staging.story (session.account, arrival)
    rw [← concluded, retold] at unpaced
    have arrived : Account.unpacedArrival (session.account, arrival) =
        Account.unpacedArrival (session'.account, arrival') := Prod.ext same arrivals
    rw [arrived, Account.conclude_unpaced, ← concluded'] at unpaced
    exact unpaced.symm
  obtain ⟨accounts, rfl⟩ := Prod.mk.inj concludedAlike
  exact ⟨settles, final', settles', accounts⟩

/-- A line is taken alike. -/
theorem goAlike_takeLine {shown other : Show} {interaction : Interaction} (same : SameShow shown other)
    (quiet : shown.session.Quiet) (steady : shown.session.Steady staging.story)
    (quiet' : other.session.Quiet) (steady' : other.session.Steady staging'.story)
    (mode : shown.session.position.mode = .waiting interaction) (line : Option ReadLine) :
    GoAlike staging staging' (takeLine options staging shown line) (takeLine options' staging' other line) := by
  have mode' : other.session.position.mode = .waiting interaction :=
    (mode_eq_of_account_eq same.account).symm.trans mode
  have stands := stands_of_mode mode
  have commands : ∀ (command : Command) (closing : Show → List Cue),
      (∀ shown other, SameShow shown other →
        written .output (closing shown) = written .output (closing other)) →
      GoAlike staging staging'
        (afterCommand options shown.prompted (shown.session.execute staging command) closing)
        (afterCommand options' other.prompted (other.session.execute staging' command) closing) := by
    intro command closing closes
    rw [← same.prompted]
    exact goAlike_afterCommand options options' retold startDeclared quiet steady quiet' steady' same.account
      (.inr stands) shown.prompted closes
  match line with
  | none => exact goAlike_leave options options' retold same quiet steady quiet' steady' []
  | some (.error fault) => exact ⟨.closed 1, by rw [takeLine, takeLine]⟩
  | some (.ok line) =>
      by_cases quit : Text.trim line = quitWord
      · rw [takeLine, takeLine, if_pos quit, if_pos quit]
        exact goAlike_leave options options' retold same quiet steady quiet' steady' _
      · cases interaction with
        | answer =>
            rw [takeLine_of_answer options staging mode quit, takeLine_of_answer options' staging' mode' quit]
            refine commands (.submit line) bareAfter fun shown other sameAfter => ?_
            rw [bareAfter, bareAfter, mode_eq_of_account_eq sameAfter.account]
        | enter =>
            rw [takeLine_of_enter options staging mode quit, takeLine_of_enter options' staging' mode' quit]
            exact commands .enter _ fun _ _ _ => rfl
        | choice =>
            have offers : chosenOffer? staging.story shown.session.position line =
                chosenOffer? staging'.story other.session.position line :=
              chosenOffer?_retold retold (congrArg Account.current same.account) line
            cases listed : chosenOffer? staging.story shown.session.position line with
            | some offer =>
                rw [takeLine_of_offer options staging mode quit listed,
                  takeLine_of_offer options' staging' mode' quit (offers.symm.trans listed)]
                exact commands (.choose offer) _ fun _ _ _ => rfl
            | none =>
                rw [takeLine_of_unlisted options staging mode quit listed,
                  takeLine_of_unlisted options' staging' mode' quit (offers.symm.trans listed)]
                exact ⟨.waiting same (quiet.underway steady stands)
                  (quiet'.underway steady' (stands_of_mode mode')) rfl, rfl⟩

/-! ## Plays -/

/-- Where a play is over, the play beside it is over with the same exit code and the same output. -/
theorem ends_alike {steps bound : Nat} {turn turn' : Turn} (alike : Alike staging staging' turn turn')
    {lines : List ReadLine} {exit : Nat} {cues : List Cue}
    (played : play options staging steps bound turn lines = some (exit, cues)) :
    ∃ cues', Ends options' staging' turn' lines exit cues' ∧
      written .output cues' = written .output cues := by
  -- The plays go turn by turn, but a wait takes another number of steps in each, so the bound of the one play
  -- says nothing about that of the other.
  induction bound generalizing turn turn' lines cues with
  | zero => cases played
  | succ bound inductionHypothesis =>
      cases alike with
      | closed =>
          cases played
          exact ⟨[], .closed _ lines, rfl⟩
      | waiting same underway underway' arrivals =>
          obtain ⟨final, report, later, done, playedLater, rfl⟩ := settled_of_play played
          obtain ⟨settles, final', settles', accounts⟩ :=
            settles_alike retold startDeclared underway underway' same.account arrivals done
          obtain ⟨turns, texts⟩ := goAlike_afterSettling options options'
            settles settles' accounts _
          obtain ⟨cues', ends, writes⟩ := inductionHypothesis turns playedLater
          rw [same.prompted] at ends texts
          refine ⟨_, ends.settled settles', ?_⟩
          rw [written_append, written_append, writes, same.prompted, texts]
      | reading same quiet steady quiet' steady' mode =>
          obtain ⟨later, playedLater, rfl⟩ := read_of_play played
          obtain ⟨turns, texts⟩ := goAlike_takeLine options options'
            retold startDeclared same quiet steady quiet' steady' mode lines.head?
          obtain ⟨cues', ends, writes⟩ := inductionHypothesis turns playedLater
          refine ⟨_, ends.read lines, ?_⟩
          rw [written_append, written_append, texts, writes]

end Stories

end

/-! ## Whole runs -/

section

variable {story other : Story} (retold : story.unpaced = other.unpaced)

include retold

theorem goAlike_openStory (options options' : Options) :
    GoAlike (stagingFor options story) (stagingFor options' other) (openStory options story)
      (openStory options' other) := by
  have stagings : (stagingFor options story).story.unpaced = (stagingFor options' other).story.unpaced :=
    retold
  have starts : story.start = other.start := start_retold stagings
  have declarations : story.declares story.start = other.declares other.start := by
    rw [← starts]
    exact declares_retold stagings story.start
  have headings : headingCues story = headingCues other := by
    have ids := congrArg Story.id retold
    rw [headingCues, headingCues]
    exact congrArg (fun id => [Cue.plain .output s!"=== {id} ===\n(type {quitWord} to quit)\n\n"]) ids
  cases declared : story.declares story.start with
  | false =>
      rw [openStory_of_undeclared options declared,
        openStory_of_undeclared options' (declarations.symm.trans declared)]
      refine ⟨.closed 1, ?_⟩
      simp only [written_append, written_reviewCues, written_failureCues]
  | true =>
      have declared' := declarations.symm.trans declared
      have opened := State.opening_of_declared declared
      have opened' := State.opening_of_declared declared'
      have stores : story.store = other.store := by
        have same := congrArg Story.store retold
        exact same
      have accounts : (State.initial story.store).account.unpaced =
          (State.initial other.store).account.unpaced := by rw [stores]
      have silent : ∀ shown other, SameShow shown other →
          written .output ((fun _ => [] : Show → List Cue) shown) =
            written .output ((fun _ => [] : Show → List Cue) other) := fun _ _ _ => rfl
      obtain ⟨turns, texts⟩ := goAlike_afterCommand options options' stagings
        declared (State.quiet_of_opening opened) (State.steady_of_opening opened)
        (State.quiet_of_opening opened') (State.steady_of_opening opened') accounts
        (.inl rfl : Command.start = .start ∨ _) false silent
      rw [openStory_of_declared options declared, openStory_of_declared options' declared']
      refine ⟨turns, ?_⟩
      rw [written_append, written_append, written_append, written_append, written_reviewCues,
        written_reviewCues, headings, texts]

/-- Where the play of a story is over, so is that of the same story at any other pace. -/
theorem playStory_alike {options : Options} (options' : Options) {input input' : List UInt8}
    (lines : CommandLine.readLines input = CommandLine.readLines input') {bound exit : Nat}
    {cues : List Cue} (played : CommandLine.playStory options story input bound = some (exit, cues)) :
    ∃ enough cues', (∀ bound, enough ≤ bound →
      CommandLine.playStory options' other input' bound = some (exit, cues')) ∧
        written .output cues' = written .output cues := by
  obtain ⟨turns, texts⟩ := goAlike_openStory retold options options'
  obtain ⟨later, playedLater, rfl⟩ := play_of_playStory played
  have ends : ∃ cues', Ends options' (stagingFor options' other) (openStory options' other).1
      (CommandLine.readLines input') exit cues' ∧ written .output cues' = written .output later := by
    rw [← lines]
    cases declared : story.declares story.start with
    | false =>
        rw [openStory_of_undeclared options declared] at turns playedLater
        generalize (openStory options' other).1 = turn at turns
        cases turns
        cases bound with
        | zero => cases playedLater
        | succ bound =>
            cases playedLater
            exact ⟨[], .closed 1 _, rfl⟩
    | true =>
        have retoldStaged : (stagingFor options story).story.unpaced =
            (stagingFor options' other).story.unpaced := retold
        exact ends_alike options options' retoldStaged declared turns playedLater
  obtain ⟨cues', ⟨enough, plays⟩, writes⟩ := ends
  refine ⟨enough, (openStory options' other).2 ++ cues', fun bound within => ?_, ?_⟩
  · exact Option.map_eq_some_iff.mpr ⟨(exit, cues'), plays bound bound within within, rfl⟩
  · rw [written_append, written_append, texts, writes]

end

/-- A run is over within all bounds that are large enough, with an exit code and with what it has written to
the output. -/
def Delivers (runs : Nat → Option (Nat × List Cue)) (exit : Nat) (output : String) : Prop :=
  ∃ enough, ∀ bound, enough ≤ bound →
    ∃ cues, runs bound = some (exit, cues) ∧ written .output cues = output

theorem Delivers.unique {runs : Nat → Option (Nat × List Cue)} {exit exit' : Nat} {output output' : String}
    (delivers : Delivers runs exit output) (delivers' : Delivers runs exit' output') :
    exit = exit' ∧ output = output' := by
  obtain ⟨enough, runs⟩ := delivers
  obtain ⟨enough', runs'⟩ := delivers'
  obtain ⟨cues, ran, rfl⟩ := runs (max enough enough') (Nat.le_max_left _ _)
  obtain ⟨cues', ran', rfl⟩ := runs' (max enough enough') (Nat.le_max_right _ _)
  cases ran.symm.trans ran'
  exact ⟨rfl, rfl⟩

/-- Where a play is over within one bound, it is the same within all larger ones. -/
theorem delivers_playStory {options : Options} {story : Story} {input : List UInt8} {bound exit : Nat}
    {cues : List Cue} (played : CommandLine.playStory options story input bound = some (exit, cues)) :
    Delivers (CommandLine.playStory options story input) exit (written .output cues) := by
  -- The play is compared with itself.
  obtain ⟨enough, again, playsAgain, same⟩ := playStory_alike rfl options rfl played
  exact ⟨enough, fun bound within => ⟨again, playsAgain bound within, same⟩⟩

theorem run_play {path : String} {arguments : List String} {options : Options}
    (accepted : CommandLine.playOptions ⟨false, none⟩ arguments = .ok options)
    {contentOf : String → CommandLine.Content} {story : Story}
    (loaded : CommandLine.load path (contentOf path) = .ok story) (input : List UInt8) :
    CommandLine.run ("play" :: path :: arguments) contentOf input =
      CommandLine.playStory options story input := by
  funext bound
  simp only [CommandLine.run, CommandLine.orderOf, accepted, CommandLine.playFile, loaded]

/-- The same story told at two paces, each played with whatever options the player takes, on the same lines:
either both plays are over, with the same exit code and the same text written to the output, or neither ever
is. A line that one play has there at once may be typed out in the other, character by character. -/
theorem pace_unheard {story other : Story} (retold : story.unpaced = other.unpaced)
    {arguments arguments' : List String} {options options' : Options}
    (accepted : CommandLine.playOptions ⟨false, none⟩ arguments = .ok options)
    (accepted' : CommandLine.playOptions ⟨false, none⟩ arguments' = .ok options')
    {path path' : String} {contentOf contentOf' : String → CommandLine.Content}
    (loaded : CommandLine.load path (contentOf path) = .ok story)
    (loaded' : CommandLine.load path' (contentOf' path') = .ok other) {input input' : List UInt8}
    (lines : CommandLine.readLines input = CommandLine.readLines input') :
    let runs := CommandLine.run ("play" :: path :: arguments) contentOf input
    let runs' := CommandLine.run ("play" :: path' :: arguments') contentOf' input'
    (∃ exit output, Delivers runs exit output ∧ Delivers runs' exit output) ∨
      ∀ bound, runs bound = none ∧ runs' bound = none := by
  intro runs runs'
  have plays : runs = CommandLine.playStory options story input := run_play accepted loaded input
  have plays' : runs' = CommandLine.playStory options' other input' := run_play accepted' loaded' input'
  rw [plays, plays']
  by_cases ended : ∃ bound exit cues,
      CommandLine.playStory options story input bound = some (exit, cues)
  · obtain ⟨bound, exit, cues, ended⟩ := ended
    obtain ⟨enough, cues', playsToo, same⟩ := playStory_alike retold options' lines ended
    exact .inl ⟨exit, written .output cues, delivers_playStory ended,
      enough, fun bound within => ⟨cues', playsToo bound within, same⟩⟩
  · refine .inr fun bound => ⟨Option.eq_none_iff_forall_ne_some.mpr ?_,
      Option.eq_none_iff_forall_ne_some.mpr ?_⟩
    · rintro ⟨exit, cues⟩ here
      exact ended ⟨bound, exit, cues, here⟩
    · rintro ⟨exit, cues'⟩ here
      obtain ⟨enough, cues, playsToo, -⟩ := playStory_alike retold.symm options lines.symm here
      exact ended ⟨enough, exit, cues, playsToo enough (Nat.le_refl _)⟩

/-- One line, after which the story ends when the reader goes on. -/
def lineStory (delay : Nat) (speed : Option Nat) : Story where
  id := "s"
  version := "1"
  store := .empty
  start := "a"
  scenes :=
    [.sequence
        { id := "a"
          lines := [⟨"Go!", delay, false, speed⟩]
          actions := []
          next := none
          awaits := some enterEvent
          events := .empty
          terminal := false }]

/-- A file with this story, the pace of its line written as given. -/
def lineFile (pace : String) : String → CommandLine.Content :=
  fun _ => .ok <| List.map (fun letter => letter.toNat.toUInt8) <|
    "\x7b\"id\":\"s\",\"version\":\"1\",\"start\":\"a\",\"states\":[\x7b\"type\":\"sequence\",".toList ++
      "\"id\":\"a\",\"await\":\"ENTER\",\"lines\":[\x7b\"text\":\"Go!\"".toList ++ pace.toList ++
      "\x7d]\x7d]\x7d".toList

/-- A line that is there at once, and one that is typed out before a pause, with the journal on. -/
theorem line_pace_unheard :
    let runs := CommandLine.run ["play", "story.json"] (lineFile "") [10]
    let runs' := CommandLine.run ["play", "story.json", "--speed", "7", "--debug"]
      (lineFile ",\"delay\":5,\"speed\":2") [10]
    let output := "=== s ===\n(type :q to quit)\n\nGo!\n\n== THE END ==\n"
    (lineStory 0 none).unpaced = (lineStory 5 (some 2)).unpaced ∧ Delivers runs 0 output ∧
      Delivers runs' 0 output := by
  intro runs runs' output
  have retold : (lineStory 0 none).unpaced = (lineStory 5 (some 2)).unpaced := rfl
  have loaded : CommandLine.load "story.json" (lineFile "" "story.json") = .ok (lineStory 0 none) := by
    decide +kernel
  have loaded' : CommandLine.load "story.json" (lineFile ",\"delay\":5,\"speed\":2" "story.json") =
      .ok (lineStory 5 (some 2)) := by
    decide +kernel
  have accepted : CommandLine.playOptions ⟨false, none⟩ [] = .ok ⟨false, none⟩ := rfl
  have accepted' : CommandLine.playOptions ⟨false, none⟩ ["--speed", "7", "--debug"] = .ok ⟨true, some 7⟩ := by
    decide
  obtain ⟨cues, played, text⟩ : ∃ cues, CommandLine.playStory ⟨false, none⟩ (lineStory 0 none) [10] 20 =
      some (0, cues) ∧ written .output cues = output := by
    refine ⟨_, rfl, ?_⟩
    decide +kernel
  have plays : runs = CommandLine.playStory ⟨false, none⟩ (lineStory 0 none) [10] :=
    run_play accepted loaded [10]
  have delivers : Delivers runs 0 output := by
    rw [plays, ← text]
    exact delivers_playStory played
  rcases pace_unheard retold accepted accepted' loaded loaded' rfl with ⟨exit, same, alike, alike'⟩ | never
  · obtain ⟨rfl, rfl⟩ := delivers.unique alike
    exact ⟨retold, delivers, alike'⟩
  · obtain ⟨enough, plays⟩ := delivers
    obtain ⟨cues, ran, -⟩ := plays enough (Nat.le_refl _)
    cases ran.symm.trans (never enough).1

end NarrativePlayer.Player
