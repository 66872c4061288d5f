import NarrativePlayer.Proofs.Player.ScreenPrompts

/-!
Contract: what a typed answer puts on the screen.

A question is asked with its prompt, and a bare prompt asks again for the same answer. Owns what is written
for every line that is typed where an answer is waited for, up to the next line that is read. An answer that
leads straight to another question is followed by a bare prompt too, behind the prompt of that question.
-/

namespace NarrativePlayer

/-- What is said against a line as an answer to a question. -/
def Question.complaint? (question : Question) (raw : String) : Option String :=
  question.submission?.bind fun transition =>
    NarrativePlayer.complaint? transition.guards (question.field.normalize raw)

/-- The transition that a question takes on a line. Where there is none, the line is not accepted. -/
def Question.accepts? (question : Question) (raw : String) : Option Transition :=
  match question.complaint? raw with
  | some _ => none
  | none => question.submission?

namespace Session.Account

variable {story : Story} {account : Account} {question : Question} {raw : String}

theorem obey_submit_of_unaccepted (awaited : account.awaited? story .answer = some (.question question))
    (unaccepted : question.accepts? raw = none) :
    account.obey story (.submit raw) =
      ({ account with calls := account.calls ++ (question.complaint? raw).toList.map Event.invalid },
        .still) := by
  simp only [obey, awaited]
  cases complaint : question.complaint? raw with
  | some message =>
      obtain ⟨transition, taken, said⟩ := Option.bind_eq_some_iff.mp complaint
      simp only [taken, said]
      rfl
  | none =>
      have taken : question.submission? = none := by
        rwa [Question.accepts?, complaint] at unaccepted
      simp only [taken]
      simp

theorem obey_submit_of_accepted (awaited : account.awaited? story .answer = some (.question question))
    {transition : Transition} (accepted : question.accepts? raw = some transition) :
    account.obey story (.submit raw) =
      account.depart story [.clear] (some (question.field.normalize raw)) transition.actions
        transition.target := by
  simp only [obey, awaited]
  cases complaint : question.complaint? raw with
  | some message =>
      rw [Question.accepts?, complaint] at accepted
      cases accepted
  | none =>
      have taken : question.submission? = some transition := by
        rwa [Question.accepts?, complaint] at accepted
      have passed := Option.bind_eq_none_iff.mp complaint transition taken
      simp only [taken, passed]

end Session.Account

namespace Player

open Session

/-- The prompt that a reader is asked with again. -/
def bareCue : Cue :=
  .plain .output "> "

/-- What is said against a line, as it stands on the screen. -/
def complaintText (complaint : Option String) : String :=
  (complaint.map fun message => s!"! {message}\n").getD ""

/-- What follows the prompt of a scene to which an answer leads: a bare prompt if that is a question too. -/
def afterPrompt : Scene → String
  | .question _ => "> "
  | _ => ""

theorem shown_complaint (prompted : Bool) (complaint : Option String) :
    shown prompted (complaint.toList.map Event.invalid) = (complaintText complaint, prompted) := by
  cases complaint with
  | none => rfl
  | some message => exact shown_invalid prompted message

private theorem ne_of_last {front : String} {last : Char} (other : last ≠ ' ') :
    front ++ String.singleton last ≠ "> " := by
  intro same
  have ends := congrArg (fun text : String => text.toList.getLast?) same
  simp at ends
  exact other ends

private theorem ne_of_length {text : String} (other : text.length ≠ 2) : text ≠ "> " := by
  rintro rfl
  exact absurd rfl other

/-- A line is written either whole, with its end, or in writes of a single character. -/
private theorem ne_of_mem_lineCues {pace : Nat} {text : String} {cue : Cue}
    (member : cue ∈ lineCues pace text) : cue.text ≠ "> " := by
  unfold lineCues at member
  split at member
  · rw [List.mem_singleton.mp member]
    exact ne_of_last (by decide : '\n' ≠ ' ')
  · rcases List.mem_append.mp member with typed | ended
    · obtain ⟨character, -, rfl⟩ := List.mem_map.mp typed
      exact ne_of_length (by simp)
    · rw [List.mem_singleton.mp ended]
      exact ne_of_length (by decide)

/-- Nothing that a session itself shows is a bare prompt. -/
theorem ne_bareCue_of_mem_cuesOf {options : Options} {prompted : Bool} {event : Event} {cue : Cue}
    (member : cue ∈ (cuesOf options prompted event).1) : cue ≠ bareCue := by
  have texts : cue.channel = .errors ∨ cue.text ≠ "> " := by
    cases event with
    | print time text instant speed => exact .inr (ne_of_mem_lineCues member)
    | showInput field =>
        rw [List.mem_singleton.mp member]
        refine .inr (ne_of_length ?_)
        have three : " > ".length = 3 := rfl
        simp only [Cue.plain, answerPrompt, String.length_append, three]
        omega
    | showChoices prompt offers =>
        rw [List.mem_singleton.mp member]
        refine .inr (ne_of_length ?_)
        have one : "\n".length = 1 := rfl
        have two : "> ".length = 2 := rfl
        simp only [Cue.plain, choicePrompt, String.length_append, one, two]
        omega
    | clear =>
        obtain ⟨-, here⟩ := List.mem_ite_nil_right.mp member
        rw [List.mem_singleton.mp here]
        exact .inr (by decide)
    | changed scene mode =>
        obtain ⟨-, here⟩ := List.mem_ite_nil_right.mp member
        rw [List.mem_singleton.mp here]
        exact .inl rfl
    | invalid message =>
        rw [List.mem_singleton.mp member]
        exact .inr (ne_of_last (by decide : '\n' ≠ ' '))
    | _ => cases member
  rintro rfl
  exact texts.elim Channel.noConfusion (absurd rfl)

theorem bareCue_not_mem_cuesOfAll (options : Options) (prompted : Bool) (events : List Event) :
    bareCue ∉ (cuesOfAll options prompted events).1 := by
  induction events generalizing prompted with
  | nil => exact List.not_mem_nil
  | cons event rest inductionHypothesis =>
      intro member
      rcases List.mem_append.mp member with here | later
      · exact ne_bareCue_of_mem_cuesOf here rfl
      · exact inductionHypothesis _ later

theorem bareCue_not_mem_present (options : Options) (session : State) (prompted : Bool) :
    bareCue ∉ (present options session prompted).2 :=
  bareCue_not_mem_cuesOfAll options prompted session.trace.reverse

/-! ## Answers -/

/-- What becomes of a line that is typed as an answer to a question. If it is not accepted, the session stays
as it is, and what there is to say against it is written, and a bare prompt. If it is, and leads somewhere,
the lines on the way are written until the next line is read, and the prompt of what is then waited for; and
behind it a bare prompt if the answer led to a question. -/
inductive Answered (options : Options) (story : Story) (shown : Show) (question : Question)
    (line : String) : Turn × List Cue → Prop
  | unaccepted {again : Show} {cues : List Cue} (unaccepted : question.accepts? line = none)
      (unmoved : again.session.account = shown.session.account) (prompted : again.prompted = true)
      (bare : bareCue ∈ cues)
      (text : written .output cues = complaintText (question.complaint? line) ++ "> ") :
      Answered options story shown question line (.waiting again, cues)
  | astray {transition : Transition} {cues : List Cue}
      (accepted : question.accepts? line = some transition)
      (absent : story.find? transition.target = none) (noBare : bareCue ∉ cues)
      (text : written .output cues = "") :
      Answered options story shown question line (.closed 1, cues)
  | accepted {transition : Transition} {scene : Scene} {again : Show} {cues : List Cue}
      (accepted : question.accepts? line = some transition)
      (found : story.find? transition.target = some scene)
      (bare : bareCue ∈ cues ↔ ∃ next, scene = .question next)
      (text : ∀ {steps final report after},
        again.session.settle (stagingFor options story) none steps = some (final, report) →
        (afterSettling options again.prompted final report).1 = .reading after →
        ∃ lines, written .output (cues ++ (afterSettling options again.prompted final report).2) =
          "\n" ++ told lines ++ promptText (after.session.account.widget? story) ++ afterPrompt scene) :
      Answered options story shown question line (.waiting again, cues)

theorem Answered.bare_iff {options : Options} {story : Story} {shown : Show} {question : Question}
    {line : String} {taken : Turn × List Cue} (answered : Answered options story shown question line taken) :
    bareCue ∈ taken.2 ↔ question.accepts? line = none ∨ ∃ transition next,
      question.accepts? line = some transition ∧
        story.find? transition.target = some (.question next) := by
  cases answered with
  | unaccepted unaccepted unmoved prompted bare text => exact iff_of_true bare (.inl unaccepted)
  | astray accepted absent noBare text => simp [accepted, absent, noBare]
  | accepted accepted found bare text => simp [accepted, found, bare]

theorem afterPrompt_of_other {scene : Scene} (other : ¬ ∃ next, scene = .question next) :
    afterPrompt scene = "" := by
  cases scene with
  | question next => exact absurd ⟨next, rfl⟩ other
  | sequence body => rfl
  | choice body => rfl

theorem bareAfter_of_asks {after : Show} {scene : Scene}
    (asks : after.session.position.mode = .waiting .answer ↔ ∃ next, scene = .question next) :
    written .output (bareAfter after) = afterPrompt scene ∧
      (bareCue ∈ bareAfter after ↔ ∃ next, scene = .question next) := by
  rw [← asks, bareAfter]
  by_cases answers : after.session.position.mode = .waiting .answer
  · obtain ⟨next, rfl⟩ := asks.mp answers
    rw [if_pos answers]
    exact ⟨written_plain "> ", iff_of_true (List.mem_singleton_self _) answers⟩
  · rw [if_neg answers]
    exact ⟨(afterPrompt_of_other (mt asks.mpr answers)).symm, iff_of_false List.not_mem_nil answers⟩

section

variable {options : Options} {story : Story} {shown : Show} {question : Question} {line : String}
  (quiet : shown.session.Quiet) (steady : shown.session.Steady (stagingFor options story).story)
  (mode : shown.session.position.mode = .waiting .answer) (untold : shown.session.trace = [])
  (awaited : shown.session.account.awaited? story .answer = some (.question question))
  (goesOn : Text.trim line ≠ quitWord)

include quiet steady mode untold awaited goesOn

theorem answered_of_unaccepted (prompted : shown.prompted = true)
    (unaccepted : question.accepts? line = none) :
    Answered options story shown question line
      (takeLine options (stagingFor options story) shown (some (.ok line))) := by
  obtain ⟨same, replies⟩ := State.execute_of_obey quiet.toPrompt steady
    (Account.obey_submit_of_unaccepted awaited unaccepted)
  have unfailed : ∀ trouble, (shown.session.execute (stagingFor options story) (.submit line)).2 ≠
      .failed trouble := by
    intro trouble failed
    cases replies.symm.trans failed
  rw [takeLine_of_answer options _ mode goesOn, afterCommand_of_unfailed options _ unfailed, present_fst]
  generalize (shown.session.execute (stagingFor options story) (.submit line)).1 = session at same
  have nothing := calls_of_untold untold
  have unmoved : session.untold.account = shown.session.account := by
    rw [account_untold, same]
    exact Account.uncalled nothing
  have onScreen : Player.shown shown.prompted session.account.calls =
      (complaintText (question.complaint? line), shown.prompted) := by
    rw [same, nothing]
    exact shown_complaint _ _
  have closing : bareAfter ⟨session.untold, (Player.shown shown.prompted session.account.calls).2⟩ =
      [bareCue] :=
    if_pos ((congrArg Account.mode unmoved).trans mode)
  rw [closing]
  refine .unaccepted unaccepted unmoved ?_ ?_ ?_
  · rw [onScreen]
    exact prompted
  · exact List.mem_append_right _ (List.mem_singleton_self _)
  · rw [written_append, written_present, onScreen]
    exact congrArg (_ ++ ·) (written_plain "> ")

theorem answered_of_astray {transition : Transition} (accepted : question.accepts? line = some transition)
    (absent : story.find? transition.target = none) :
    Answered options story shown question line
      (takeLine options (stagingFor options story) shown (some (.ok line))) := by
  have obeys := Account.obey_submit_of_accepted awaited accepted
  rw [Account.depart, absent] at obeys
  obtain ⟨same, replies⟩ := State.execute_of_obey quiet.toPrompt steady obeys
  rw [takeLine_of_answer options _ mode goesOn, afterCommand_of_failed options _ replies]
  refine .astray accepted absent (fun member => ?_) ?_
  · rcases List.mem_append.mp member with event | failure
    · exact bareCue_not_mem_present options _ _ event
    · cases List.mem_singleton.mp failure
  · rw [written_append, written_present, same, calls_of_untold untold, written_failureCues]
    rfl

theorem answered_of_accepted (startDeclared : story.declares story.start = true)
    (prompted : shown.prompted = true) {transition : Transition} {scene : Scene}
    (accepted : question.accepts? line = some transition)
    (found : story.find? transition.target = some scene) :
    Answered options story shown question line
      (takeLine options (stagingFor options story) shown (some (.ok line))) := by
  have obeys := Account.obey_submit_of_accepted awaited accepted
  have unfailed := State.unfailed_of_depart quiet.toPrompt steady obeys found
  obtain ⟨asksIff, before, onScreen⟩ :=
    shown_of_depart (stagingFor options story) quiet steady untold prompted obeys found
  obtain ⟨arrival, underway, -⟩ := quiet.underway_execute steady startDeclared
    (.inr (.inr (congrArg Mode.isWaiting mode))) unfailed
  rw [takeLine_of_answer options _ mode goesOn, afterCommand_of_unfailed options _ unfailed, present_fst]
  generalize (shown.session.execute (stagingFor options story) (.submit line)).1 = session at *
  have asksNext : (Show.mk session.untold
      (Player.shown shown.prompted session.account.calls).2).session.position.mode = .waiting .answer ↔
        ∃ next, scene = .question next := asksIff
  obtain ⟨closing, bareIff⟩ := bareAfter_of_asks asksNext
  refine .accepted accepted found ?_ fun {steps final report after} done reads => ?_
  · rw [List.mem_append, or_iff_right (bareCue_not_mem_present options session shown.prompted)]
    exact bareIff
  · obtain ⟨settles, -⟩ := underway.of_settle startDeclared done
    obtain ⟨same, text⟩ := session_of_reading settles reads
    rw [written_append, written_append, written_present, closing, text, onScreen, same]
    -- Either the answer led straight to the next prompt, which stands before the bare one; or a sequence is
    -- told first, and then there is no bare one.
    rcases underway.unmoved_or_unfolds startDeclared done with unmoved | ⟨running, nothing, unfolds⟩
    · refine ⟨before, ?_⟩
      rw [account_untold, unmoved, account_untold, shown_nil, String.append_empty]
      rfl
    · have unasked : session.account.widget? story = none := Account.widget?_of_unawaited nothing
      have quietly : afterPrompt scene = "" := by
        refine afterPrompt_of_other fun question => ?_
        cases (asksIff.mpr question).symm.trans running
      have cleared : Player.shown (session.account.widget? story).isSome session.untold.account.calls =
          ("", false) := by
        rw [unasked]
        rfl
      obtain ⟨later, onScreenLater⟩ := shown_of_unfolds unfolds cleared
      refine ⟨before ++ later, ?_⟩
      show "\n" ++ told before ++ promptText (session.account.widget? story) ++ afterPrompt scene ++
          (Player.shown (session.account.widget? story).isSome final.account.calls).1 =
        "\n" ++ told (before ++ later) ++ promptText (final.account.widget? story) ++ afterPrompt scene
      rw [onScreenLater, unasked, quietly, told_append]
      simp only [promptText, Option.map_none, Option.getD_none, String.append_empty, String.empty_append,
        String.append_assoc, stagingFor]

end

/-- Wherever an answer is waited for in a play, the screen asks for it with the prompt of its question. A line
that is typed there is followed by a bare prompt exactly if it is not accepted, or if it leads to another
question, behind whose prompt it then stands. -/
theorem bare_prompt_after_answer {options : Options} {story : Story} {lines : List ReadLine} {shown : Show}
    {left : List ReadLine} {cues : List Cue}
    (plays : Plays options story lines ⟨.reading shown, left⟩ cues)
    (asked : shown.session.position.mode = .waiting .answer) :
    ∃ id question, shown.session.position.pending = some ⟨.answer, id⟩ ∧
      story.find? id = some (.question question) ∧
      (∃ before reminders,
        written .output cues = before ++ answerPrompt question.field ++ String.join reminders ∧
          ∀ reminder ∈ reminders, Reminds (.waiting .answer) reminder) ∧
      ∀ line, Text.trim line ≠ quitWord →
        let taken := takeLine options (stagingFor options story) shown (some (.ok line))
        Answered options story shown question line taken ∧
          (bareCue ∈ taken.2 ↔ question.accepts? line = none ∨ ∃ transition next,
            question.accepts? line = some transition ∧
              story.find? transition.target = some (.question next)) := by
  obtain ⟨startDeclared, quiet, steady, -, asks⟩ := plays.reading
  obtain ⟨id, scene, pending, -, found, offered⟩ := steady.exists_pending asked
  cases scene with
  | sequence body => cases offered
  | choice body => cases offered
  | question question =>
      have awaited : shown.session.account.awaited? story .answer = some (.question question) :=
        Account.awaited?_eq_some_iff.mpr ⟨id, pending, found⟩
      have widget := Account.widget?_of_answer awaited
      have prompted : shown.prompted = true := by
        rw [asks.prompted, widget]
        rfl
      obtain ⟨before, reminders, text, remind⟩ := asks.ends
      rw [widget] at text
      have mode : shown.session.account.mode = .waiting .answer := asked
      refine ⟨id, question, pending, found, ⟨before, reminders, text, mode ▸ remind⟩,
        fun line goesOn => ?_⟩
      have answered : Answered options story shown question line
          (takeLine options (stagingFor options story) shown (some (.ok line))) := by
        cases accepted : question.accepts? line with
        | none => exact answered_of_unaccepted quiet steady asked asks.untold awaited goesOn prompted accepted
        | some transition =>
            cases foundNext : story.find? transition.target with
            | none =>
                exact answered_of_astray quiet steady asked asks.untold awaited goesOn accepted foundNext
            | some scene =>
                exact answered_of_accepted quiet steady asked asks.untold awaited goesOn startDeclared prompted
                  accepted foundNext
      exact ⟨answered, answered.bare_iff⟩

end Player

/-- A story that asks for a first name and, straight from there, for a last name. -/
def Story.twofold : Story where
  id := "twofold"
  version := "1"
  store := Table.empty
  start := "first"
  scenes := [
    .question
      ⟨"first", ⟨"first", "First name", none, none, none, false⟩, [⟨submitEvent, [], [], "last"⟩]⟩,
    .question
      ⟨"last", ⟨"last", "Last name", none, none, none, false⟩, [⟨submitEvent, [], [], "end"⟩]⟩,
    .sequence ⟨"end", [], [], none, none, Table.empty, true⟩]

namespace Player

open Session

/-- The first name is asked for. -/
def twofoldAsking : Show :=
  ⟨((State.initial .empty).start ⟨.twofold, .silent⟩).1.untold, true⟩

theorem plays_twofold (lines : List ReadLine) :
    ∃ cues, Plays ⟨false, none⟩ .twofold lines ⟨.reading twofoldAsking, lines⟩ cues := by
  have opened : (openStory ⟨false, none⟩ .twofold).1 = .waiting twofoldAsking := by decide +kernel
  have settled : twofoldAsking.session.settle ⟨.twofold, .silent⟩ none 2 =
      some (twofoldAsking.session, .settled) := by
    decide +kernel
  have reads : (afterSettling ⟨false, none⟩ twofoldAsking.prompted twofoldAsking.session .settled).1 =
      .reading twofoldAsking := by
    decide +kernel
  exact Plays.of_opened opened settled reads

/-- A first name is typed where it is asked for. -/
theorem twofold_answered :
    ∃ cues question, Plays ⟨false, none⟩ .twofold [.ok "Ada"] ⟨.reading twofoldAsking, [.ok "Ada"]⟩ cues ∧
      Text.trim "Ada" ≠ quitWord ∧ Story.twofold.find? "first" = some (.question question) ∧
        Answered ⟨false, none⟩ .twofold twofoldAsking question "Ada"
          (takeLine ⟨false, none⟩ ⟨.twofold, .silent⟩ twofoldAsking (some (.ok "Ada"))) := by
  obtain ⟨cues, plays⟩ := plays_twofold [.ok "Ada"]
  have goesOn : Text.trim "Ada" ≠ quitWord := by decide +kernel
  obtain ⟨id, question, pending, found, -, answers⟩ := bare_prompt_after_answer plays (by decide +kernel)
  have here : id = "first" := by
    have first : twofoldAsking.session.position.pending = some ⟨.answer, "first"⟩ := by decide +kernel
    cases pending.symm.trans first
    rfl
  exact ⟨cues, question, plays, goesOn, here ▸ found, (answers "Ada" goesOn).1⟩

/-- The first name is accepted, and yet the reader is asked twice for the last name. -/
theorem twofold_asks_twice :
    ∃ cues question transition,
      Plays ⟨false, none⟩ .twofold [.ok "Ada"] ⟨.reading twofoldAsking, [.ok "Ada"]⟩ cues ∧
        twofoldAsking.session.position.pending = some ⟨.answer, "first"⟩ ∧
        Story.twofold.find? "first" = some (.question question) ∧
        question.accepts? "Ada" = some transition ∧ Story.twofold.declares transition.target = true ∧
        bareCue ∈ (takeLine ⟨false, none⟩ ⟨.twofold, .silent⟩ twofoldAsking (some (.ok "Ada"))).2 ∧
        written .output (takeLine ⟨false, none⟩ ⟨.twofold, .silent⟩ twofoldAsking (some (.ok "Ada"))).2 =
          "\nLast name > > " := by
  obtain ⟨cues, plays⟩ := plays_twofold [.ok "Ada"]
  refine ⟨cues, _, _, plays, by decide +kernel, rfl, rfl, by decide, by decide +kernel, by decide +kernel⟩

end Player

end NarrativePlayer
