import NarrativePlayer.Player.Basic
import NarrativePlayer.Proofs.Session.UnpacedTelling
import NarrativePlayer.Proofs.Session.WaitTermination

/-!
Contract: what a session puts on the screen.

What is written to the output depends on the calls of the terminal alone, and on whether a prompt was on the
screen before. Owns this text, as a function of the calls, and that what the player was asked for, the
journal and the pace of lines leave it as it is. What the player itself adds is not owned here.
-/

namespace NarrativePlayer.Player

open Session

/-! ## Cues -/

theorem written_append (channel : Channel) (first second : List Cue) :
    written channel (first ++ second) = written channel first ++ written channel second := by
  simp [written]

@[simp] theorem written_nil (channel : Channel) : written channel [] = "" := rfl

@[simp] theorem written_plain (text : String) : written .output [.plain .output text] = text := by
  simp [written, Cue.plain]

@[simp] theorem written_failureCues (reason : String) : written .output (failureCues reason) = "" := by
  simp [written, failureCues, Cue.plain]

/-- What is typed out is written whole, one character after the other. -/
theorem written_typed (pace : Nat) (characters : List Char) :
    written .output (characters.map fun character => ⟨.output, String.singleton character, pace⟩) =
      String.ofList characters := by
  induction characters with
  | nil => rfl
  | cons character rest inductionHypothesis =>
      have first : written .output [⟨.output, String.singleton character, pace⟩] =
          String.singleton character := by
        simp [written]
      rw [List.map_cons, ← List.singleton_append, written_append, first, inductionHypothesis,
        ← String.toList_inj]
      simp

/-- A line that is typed out at a pace leaves the same on the screen as one that is there at once. -/
@[simp] theorem written_lineCues (pace : Nat) (text : String) :
    written .output (lineCues pace text) = text ++ "\n" := by
  unfold lineCues
  split
  · exact written_plain _
  · rw [written_append, written_typed, String.ofList_toList, written_plain]

example : lineCues 3 "Hi" = [⟨.output, "H", 3⟩, ⟨.output, "i", 3⟩, ⟨.output, "\n", 0⟩] := rfl

theorem cuesOfAll_append (options : Options) (prompted : Bool) (first second : List Event) :
    cuesOfAll options prompted (first ++ second) =
      ((cuesOfAll options prompted first).1 ++
          (cuesOfAll options (cuesOfAll options prompted first).2 second).1,
        (cuesOfAll options (cuesOfAll options prompted first).2 second).2) := by
  induction first generalizing prompted with
  | nil => rfl
  | cons event rest inductionHypothesis =>
      simp only [List.cons_append, cuesOfAll, inductionHypothesis, List.append_assoc]

/-- What is no call puts nothing on the screen. -/
theorem cuesOfAll_filter_isCall (options : Options) (prompted : Bool) (events : List Event) :
    cuesOfAll options prompted (events.filter Event.isCall) = cuesOfAll options prompted events := by
  induction events generalizing prompted with
  | nil => rfl
  | cons event rest inductionHypothesis =>
      cases event <;> simp [List.filter_cons, Event.isCall, cuesOfAll, cuesOf, inductionHypothesis]

/-! ## Texts -/

/-- What events write to the output, and whether a prompt is on the screen after them, given whether one was
before. -/
def shown (prompted : Bool) (events : List Event) : String × Bool :=
  let (cues, prompted) := cuesOfAll ⟨false, none⟩ prompted events
  (written .output cues, prompted)

theorem shown_nil (prompted : Bool) : shown prompted [] = ("", prompted) := rfl

theorem shown_append (prompted : Bool) (first second : List Event) :
    shown prompted (first ++ second) =
      ((shown prompted first).1 ++ (shown (shown prompted first).2 second).1,
        (shown (shown prompted first).2 second).2) := by
  simp only [shown, cuesOfAll_append, written_append]

/-- Two events that write the same, and leave a prompt on the screen or not alike. -/
def ShowAlike (options others : Options) (event other : Event) : Prop :=
  ∀ prompted, written .output (cuesOf options prompted event).1 =
      written .output (cuesOf others prompted other).1 ∧
    (cuesOf options prompted event).2 = (cuesOf others prompted other).2

theorem cuesOfAll_alike {options others : Options} {change : Event → Event}
    (alike : ∀ event, ShowAlike options others event (change event)) (events : List Event)
    (prompted : Bool) :
    written .output (cuesOfAll options prompted events).1 =
        written .output (cuesOfAll others prompted (events.map change)).1 ∧
      (cuesOfAll options prompted events).2 = (cuesOfAll others prompted (events.map change)).2 := by
  induction events generalizing prompted with
  | nil => exact ⟨rfl, rfl⟩
  | cons event rest inductionHypothesis =>
      obtain ⟨here, prompts⟩ := alike event prompted
      simp only [cuesOfAll, List.map_cons, written_append, here, prompts, inductionHypothesis, and_self]

/-- What a player was asked for makes no difference to the output. -/
theorem showAlike_options (options others : Options) (event : Event) :
    ShowAlike options others event event := by
  intro prompted
  cases event with
  | print time text instant speed => simp [cuesOf]
  | changed scene mode =>
      have silent : ∀ given : Options, written .output (cuesOf given prompted (.changed scene mode)).1 = "" := by
        intro given
        cases debug : given.debug <;> simp [cuesOf, debug, written, Cue.plain]
      exact ⟨(silent options).trans (silent others).symm, rfl⟩
  | _ => exact ⟨rfl, rfl⟩

theorem showAlike_unpaced (options : Options) (event : Event) :
    ShowAlike options options event event.unpaced := by
  intro prompted
  cases event with
  | print time text instant speed => simp [Event.unpaced, cuesOf]
  | _ => exact ⟨rfl, rfl⟩

theorem shown_unpaced (prompted : Bool) (events : List Event) :
    shown prompted (events.map Event.unpaced) = shown prompted events := by
  obtain ⟨texts, prompts⟩ := cuesOfAll_alike (showAlike_unpaced ⟨false, none⟩) events prompted
  exact Prod.ext texts.symm prompts.symm

/-! ## Sessions -/

theorem cuesOfAll_trace (options : Options) (prompted : Bool) (session : State) :
    cuesOfAll options prompted session.trace.reverse = cuesOfAll options prompted session.calls := by
  rw [State.calls, ← List.filter_reverse, cuesOfAll_filter_isCall]

theorem cuesOfAll_shown (options : Options) (prompted : Bool) (events : List Event) :
    written .output (cuesOfAll options prompted events).1 = (shown prompted events).1 ∧
      (cuesOfAll options prompted events).2 = (shown prompted events).2 := by
  have alike : ∀ event, ShowAlike options ⟨false, none⟩ event (id event) :=
    showAlike_options options ⟨false, none⟩
  have same := cuesOfAll_alike alike events prompted
  rwa [List.map_id] at same

theorem present_fst (options : Options) (session : State) (prompted : Bool) :
    (present options session prompted).1 = ⟨session.untold, (shown prompted session.account.calls).2⟩ := by
  have same := (cuesOfAll_shown options prompted session.calls).2
  rw [← cuesOfAll_trace] at same
  exact congrArg (Show.mk session.untold) same

theorem written_present (options : Options) (session : State) (prompted : Bool) :
    written .output (present options session prompted).2 = (shown prompted session.account.calls).1 := by
  have same := (cuesOfAll_shown options prompted session.calls).1
  rwa [← cuesOfAll_trace] at same

/-! ## Turns -/

theorem afterCommand_of_failed (options : Options) (prompted : Bool) {outcome : State × Reply}
    {trouble : Trouble} (failed : outcome.2 = .failed trouble) (closing : Show → List Cue) :
    afterCommand options prompted outcome closing =
      (.closed 1, (present options outcome.1 prompted).2 ++ failureCues trouble.message) := by
  obtain ⟨session, reply⟩ := outcome
  cases failed
  rfl

theorem afterCommand_of_unfailed (options : Options) (prompted : Bool) {outcome : State × Reply}
    (unfailed : ∀ trouble, outcome.2 ≠ .failed trouble) (closing : Show → List Cue) :
    afterCommand options prompted outcome closing =
      (.waiting (present options outcome.1 prompted).1,
        (present options outcome.1 prompted).2 ++ closing (present options outcome.1 prompted).1) := by
  obtain ⟨session, reply⟩ := outcome
  cases reply with
  | failed trouble => exact absurd rfl (unfailed trouble)
  | done => rfl
  | held ticket => rfl

theorem afterSettling_of_failed (options : Options) (prompted : Bool) (session : State)
    (trouble : Trouble) :
    afterSettling options prompted session (.failed trouble) =
      (.closed 1, (present options session prompted).2 ++ failureCues trouble.message) := rfl

theorem afterSettling_of_ended (options : Options) (prompted : Bool) {session : State}
    (ended : session.position.mode = .ended) :
    afterSettling options prompted session .settled =
      (.closed 0, (present options session prompted).2 ++ [.plain .output "\n== THE END ==\n"]) := by
  simp only [afterSettling, present, ended]

theorem afterSettling_of_waiting (options : Options) (prompted : Bool) {session : State}
    {interaction : Interaction} (mode : session.position.mode = .waiting interaction) :
    afterSettling options prompted session .settled =
      (.reading (present options session prompted).1, (present options session prompted).2) := by
  simp only [afterSettling, present, mode]

/-! ## Openings -/

theorem written_reviewCues (options : Options) (findings : List Review.Finding) :
    written .output (reviewCues options findings) = "" := by
  have nothing : ((reviewCues options findings).filter fun cue => cue.channel = .output) = [] := by
    refine List.filter_eq_nil_iff.mpr fun cue member => ?_
    obtain ⟨finding, -, rfl⟩ := List.mem_map.mp member
    exact of_decide_eq_false rfl
  rw [written, nothing]
  rfl

/-- A story whose start is not declared is closed before it is begun. -/
theorem openStory_of_undeclared (options : Options) {story : Story}
    (undeclared : story.declares story.start = false) :
    openStory options story =
      (.closed 1, reviewCues options (Review.review .standard story) ++
        failureCues (Trouble.missingStart story.id story.start).message) := by
  rw [← Story.isSome_position?] at undeclared
  have refused : State.opening story = .error (.missingStart story.id story.start) :=
    if_neg (ne_true_of_eq_false undeclared)
  simp only [openStory, refused]

/-- A story whose start is declared is started below its heading. -/
theorem openStory_of_declared (options : Options) {story : Story}
    (declared : story.declares story.start = true) :
    let started := afterCommand options false
      ((State.initial story.store).execute (stagingFor options story) .start) fun _ => []
    openStory options story =
      (started.1, reviewCues options (Review.review .standard story) ++ headingCues story ++ started.2) := by
  simp only [openStory, State.opening_of_declared declared, State.execute]

end NarrativePlayer.Player
