import NarrativePlayer.Proofs.Session.LatestSequence

/-!
Contract: a session together with those who wait for its sequences.

At most one waits at a time, and who waits goes on until there is an answer; the answers are kept. In
between anything can happen to the session, so a vigil is a course in which it is also open when
somebody begins to wait, and when whoever waits gets to look. Owns the turns of a vigil, all that a look
can come to, and that waiting as it is scheduled, `settle`, is one of these ways.
-/

namespace NarrativePlayer.Session

/-- How far somebody who waits has come. -/
inductive Waiting where
  | nobody
  /-- The sequence entered last is looked for. -/
  | seeking
  | awaiting (ticket : Nat)
deriving DecidableEq, Repr

/-- The sequence that is awaited. -/
def Waiting.ticket? : Waiting → Option Nat
  | .awaiting ticket => some ticket
  | _ => none

def Watch.waiting : Watch → Waiting
  | .seeking => .seeking
  | .looking ticket => .awaiting ticket
  | .watching ticket => .awaiting ticket
  | .reported _ => .nobody

def Watch.report? : Watch → Option Report
  | .reported report => some report
  | _ => none

/-- What is reported of a sequence that has ended: nothing, unless it died. -/
def Outcome.report? : Outcome → Option Report
  | .succeeded => none
  | .failed trouble => some (.failed trouble)
  | .brokenOff => some .brokenOff

theorem Outcome.settled_ne_of_report? {outcome : Outcome} {report : Report}
    (died : outcome.report? = some report) : report ≠ .settled := by
  cases outcome <;> cases died <;> exact Report.noConfusion

/-- A session that may be waited for. -/
structure Vigil where
  state : State
  waiting : Waiting
  /-- The answers so far, earliest first, each with the sequence it is about. -/
  reports : List (Option Nat × Report)
deriving DecidableEq, Repr

namespace Vigil

/-- What can come next in a vigil. -/
inductive Turn where
  /-- Something happens. That a sequence is taken notice of is left to those who wait. -/
  | happens (happening : Happening) (untaken : happening ≠ .take)
  /-- Somebody begins to wait, if nobody does. -/
  | waits
  /-- Whoever waits looks how things stand. -/
  | looks

/-- A session for which nobody has waited yet. -/
def opening (state : State) : Vigil where
  state := state
  waiting := .nobody
  reports := []

/-- The vigil once a look, at a sequence if one is awaited, has come to something. -/
def heed (vigil : Vigil) (about : Option Nat) (seen : State × Watch) : Vigil where
  state := seen.1
  waiting := seen.2.waiting
  reports := vigil.reports ++ (seen.2.report?.map fun report => (about, report)).toList

def look (staging : Staging) (vigil : Vigil) : Vigil :=
  match vigil.waiting with
  | .nobody => vigil
  | .seeking => vigil.heed none (State.watch staging none vigil.state .seeking)
  | .awaiting ticket =>
      vigil.heed (some ticket) (State.watch staging none vigil.state (.looking ticket))

def after (staging : Staging) (vigil : Vigil) : Turn → Vigil
  | .happens happening _ => { vigil with state := vigil.state.after staging happening }
  | .waits =>
      match vigil.waiting with
      | .nobody => { vigil with waiting := .seeking }
      | _ => vigil
  | .looks => vigil.look staging

/-- The vigil after turns. -/
def attend (staging : Staging) (vigil : Vigil) (turns : List Turn) : Vigil :=
  turns.foldl (after staging) vigil

/-- Whoever waits and looks now is answered with a report, about a sequence if it is of its doing. -/
def Answers (staging : Staging) (vigil : Vigil) (about : Option Nat) (report : Report) : Prop :=
  (vigil.look staging).reports = vigil.reports ++ [(about, report)]

theorem attend_append (staging : Staging) (vigil : Vigil) (first second : List Turn) :
    vigil.attend staging (first ++ second) = (vigil.attend staging first).attend staging second :=
  List.foldl_append

/-- What every turn preserves, all turns preserve. -/
theorem attend_induction {staging : Staging} {motive : Vigil → Prop}
    (preserved : ∀ vigil turn, motive vigil → motive (vigil.after staging turn)) {vigil : Vigil}
    (holds : motive vigil) (turns : List Turn) : motive (vigil.attend staging turns) := by
  induction turns generalizing vigil with
  | nil => exact holds
  | cons turn rest inductionHypothesis =>
      exact inductionHypothesis (preserved vigil turn holds)

/-! ## Looking -/

section

variable (staging : Staging) {vigil : Vigil} {ticket : Nat} {outcome : Outcome} {report : Report}

theorem look_settles (seeking : vigil.waiting = .seeking) (nothing : vigil.state.latest = none) :
    vigil.look staging =
      { vigil with waiting := .nobody, reports := vigil.reports ++ [(none, .settled)] } := by
  simp [look, seeking, State.watch, nothing, heed, Watch.waiting, Watch.report?]

theorem look_takes (seeking : vigil.waiting = .seeking) (latest : vigil.state.latest = some ticket) :
    vigil.look staging =
      { vigil with state := { vigil.state with latest := none }, waiting := .awaiting ticket } := by
  simp [look, seeking, State.watch, latest, heed, Watch.waiting, Watch.report?]

theorem look_stays (awaiting : vigil.waiting = .awaiting ticket)
    (unfinished : vigil.state.outcome? ticket = none) : vigil.look staging = vigil := by
  obtain ⟨state, waiting, reports⟩ := vigil
  cases awaiting
  simp [look, State.watch, unfinished, State.isBefore, heed, Watch.waiting, Watch.report?]

theorem look_passes (awaiting : vigil.waiting = .awaiting ticket)
    (isOver : vigil.state.outcome? ticket = some outcome) (peaceful : outcome.report? = none) :
    vigil.look staging = { vigil with waiting := .seeking } := by
  cases outcome with
  | succeeded =>
      simp [look, awaiting, State.watch, isOver, State.afterOutcome, heed, Watch.waiting,
        Watch.report?]
  | failed trouble => cases peaceful
  | brokenOff => cases peaceful

theorem look_tells (awaiting : vigil.waiting = .awaiting ticket)
    (isOver : vigil.state.outcome? ticket = some outcome) (died : outcome.report? = some report) :
    vigil.look staging =
      { vigil with waiting := .nobody, reports := vigil.reports ++ [(some ticket, report)] } := by
  cases outcome with
  | succeeded => cases died
  | failed trouble =>
      cases died
      simp [look, awaiting, State.watch, isOver, State.afterOutcome, heed, Watch.waiting,
        Watch.report?]
  | brokenOff =>
      cases died
      simp [look, awaiting, State.watch, isOver, State.afterOutcome, heed, Watch.waiting,
        Watch.report?]

end

/-- What a look can come to. -/
inductive Looks (vigil : Vigil) : Vigil → Prop
  | idles (nobody : vigil.waiting = .nobody) : Looks vigil vigil
  | settles (seeking : vigil.waiting = .seeking) (nothing : vigil.state.latest = none) :
      Looks vigil
        { vigil with waiting := .nobody, reports := vigil.reports ++ [(none, .settled)] }
  | takes {ticket : Nat} (seeking : vigil.waiting = .seeking)
      (latest : vigil.state.latest = some ticket) :
      Looks vigil
        { vigil with state := { vigil.state with latest := none }, waiting := .awaiting ticket }
  | stays {ticket : Nat} (awaiting : vigil.waiting = .awaiting ticket)
      (unfinished : vigil.state.outcome? ticket = none) : Looks vigil vigil
  | passes {ticket : Nat} {outcome : Outcome} (awaiting : vigil.waiting = .awaiting ticket)
      (isOver : vigil.state.outcome? ticket = some outcome) (peaceful : outcome.report? = none) :
      Looks vigil { vigil with waiting := .seeking }
  | tells {ticket : Nat} {outcome : Outcome} {report : Report}
      (awaiting : vigil.waiting = .awaiting ticket)
      (isOver : vigil.state.outcome? ticket = some outcome)
      (died : outcome.report? = some report) :
      Looks vigil
        { vigil with waiting := .nobody, reports := vigil.reports ++ [(some ticket, report)] }

theorem looks_look (staging : Staging) (vigil : Vigil) : Looks vigil (vigil.look staging) := by
  cases waiting : vigil.waiting with
  | nobody =>
      rw [look, waiting]
      exact .idles waiting
  | seeking =>
      cases latest : vigil.state.latest with
      | none =>
          rw [look_settles staging waiting latest]
          exact .settles waiting latest
      | some ticket =>
          rw [look_takes staging waiting latest]
          exact .takes waiting latest
  | awaiting ticket =>
      cases isOver : vigil.state.outcome? ticket with
      | none =>
          rw [look_stays staging waiting isOver]
          exact .stays waiting isOver
      | some outcome =>
          cases told : outcome.report? with
          | none =>
              rw [look_passes staging waiting isOver told]
              exact .passes waiting isOver told
          | some report =>
              rw [look_tells staging waiting isOver told]
              exact .tells waiting isOver told

/-- An answer is that there is nothing to wait for, or that the sequence awaited has died. -/
theorem Answers.cases {staging : Staging} {vigil : Vigil} {about : Option Nat} {report : Report}
    (answers : vigil.Answers staging about report) :
    (vigil.waiting = .seeking ∧ vigil.state.latest = none ∧ about = none ∧ report = .settled) ∨
      ∃ ticket outcome, vigil.waiting = .awaiting ticket ∧
        vigil.state.outcome? ticket = some outcome ∧ outcome.report? = some report ∧
        about = some ticket := by
  unfold Answers at answers
  have looks := vigil.looks_look staging
  generalize vigil.look staging = later at answers looks
  cases looks with
  | idles => simp at answers
  | settles seeking nothing =>
      simp only [List.append_cancel_left_eq, List.cons.injEq, Prod.mk.injEq, and_true] at answers
      exact .inl ⟨seeking, nothing, answers.1.symm, answers.2.symm⟩
  | takes => simp at answers
  | stays => simp at answers
  | passes => simp at answers
  | @tells ticket outcome report awaiting isOver died =>
      simp only [List.append_cancel_left_eq, List.cons.injEq, Prod.mk.injEq, and_true] at answers
      exact .inr ⟨ticket, outcome, awaiting, isOver, answers.2 ▸ died, answers.1.symm⟩

/-! ## A vigil and the course of its session -/

theorem reaches_after (staging : Staging) (vigil : Vigil) (turn : Turn) :
    State.Reaches staging vigil.state (vigil.after staging turn).state := by
  cases turn with
  | happens happening untaken => exact .once happening
  | waits =>
      rw [after]
      split
      · exact .refl staging vigil.state
      · exact .refl staging vigil.state
  | looks =>
      show State.Reaches staging vigil.state (vigil.look staging).state
      have looks := vigil.looks_look staging
      generalize vigil.look staging = later at looks
      cases looks with
      | takes => exact .once .take
      | _ => exact .refl staging vigil.state

theorem reaches_attend (staging : Staging) (vigil : Vigil) (turns : List Turn) :
    State.Reaches staging vigil.state (vigil.attend staging turns).state := by
  refine attend_induction (motive := fun later => State.Reaches staging vigil.state later.state) ?_
    (.refl staging vigil.state) turns
  intro later turn reached
  exact reached.trans (later.reaches_after staging turn)

/-- What happens to a session happens to it whoever waits. -/
theorem attend_of_passes {staging : Staging} {state later : State}
    (passes : State.Passes staging state later) :
    ∃ turns, ∀ waiting reports,
      (Vigil.mk state waiting reports).attend staging turns = ⟨later, waiting, reports⟩ := by
  obtain ⟨happenings, untaken, rfl⟩ := passes
  induction happenings generalizing state with
  | nil => exact ⟨[], fun _ _ => rfl⟩
  | cons happening rest inductionHypothesis =>
      rw [List.mem_cons, not_or] at untaken
      obtain ⟨turns, attended⟩ := @inductionHypothesis (state.after staging happening) untaken.2
      exact ⟨.happens happening (Ne.symm untaken.1) :: turns, attended⟩

/-! ## Waiting as it is scheduled -/

section

variable {staging : Staging} {deadline : Option Nat} {state next : State}
  {progress further : Watch} {report : Report}

/-- What a step of waiting means for a vigil that has come as far. -/
inductive Serves (staging : Staging) (vigil : Vigil) : State × Watch → Prop
  | givesUp {state : State} {report : Report} (given : report = .timedOut ∨ report = .stalled) :
      Serves staging vigil (state, .reported report)
  | answers {about : Option Nat} {report : Report} (answers : vigil.Answers staging about report) :
      Serves staging vigil (vigil.state, .reported report)
  | goesOn {state : State} {further : Watch} (turns : List Turn) (unreported : further.report? = none)
      (attended : vigil.attend staging turns = ⟨state, further.waiting, vigil.reports⟩) :
      Serves staging vigil (state, further)

theorem Serves.of_look {vigil : Vigil} (unreported : further.report? = none)
    (looked : vigil.look staging = ⟨state, further.waiting, vigil.reports⟩) :
    Serves staging vigil (state, further) :=
  .goesOn [.looks] unreported looked

theorem serves_afterOutcome {ticket : Nat} {outcome : Outcome}
    (isOver : state.outcome? ticket = some outcome) (reports : List (Option Nat × Report)) :
    Serves staging ⟨state, .awaiting ticket, reports⟩ (state, State.afterOutcome outcome) := by
  have tells : ∀ {report}, outcome.report? = some report →
      (Vigil.mk state (.awaiting ticket) reports).Answers staging (some ticket) report :=
    fun died => congrArg Vigil.reports (look_tells staging rfl isOver died)
  cases outcome with
  | succeeded => exact .of_look rfl (look_passes staging rfl isOver rfl)
  | failed trouble => exact .answers (tells rfl)
  | brokenOff => exact .answers (tells rfl)

theorem serves_giveUp (vigil : Vigil) (state : State) (deadline : Option Nat) :
    Serves staging vigil (state.giveUp deadline) := by
  cases deadline with
  | none => exact .givesUp (.inr rfl)
  | some moment => exact .givesUp (.inl rfl)

theorem serves_of_passes (passes : State.Passes staging state next) (ticket : Nat)
    (reports : List (Option Nat × Report)) :
    Serves staging ⟨state, .awaiting ticket, reports⟩ (next, .watching ticket) := by
  obtain ⟨turns, attended⟩ := attend_of_passes passes
  exact .goesOn turns rfl (attended _ reports)

/-- A step of waiting is a look, or something that happens, unless it is to give up. -/
theorem serves_watch (deadline : Option Nat) (state : State) (unreported : progress.report? = none)
    (reports : List (Option Nat × Report)) :
    Serves staging ⟨state, progress.waiting, reports⟩
      (State.watch staging deadline state progress) := by
  cases progress with
  | seeking =>
      rw [State.watch]
      split
      · rename_i nothing
        exact .answers (congrArg Vigil.reports (look_settles staging rfl nothing))
      · rename_i ticket latest
        exact .of_look rfl (look_takes staging rfl latest)
  | looking ticket =>
      rw [State.watch]
      split
      · rename_i outcome isOver
        exact serves_afterOutcome isOver reports
      · split
        · exact .goesOn [] rfl rfl
        · exact .givesUp (.inl rfl)
  | watching ticket =>
      rw [State.watch]
      split
      · exact serves_of_passes (state.passes_pump staging) ticket reports
      · split
        · rename_i outcome isOver
          exact serves_afterOutcome isOver reports
        · split
          · rename_i due _
            split
            · exact serves_of_passes (state.passes_moveTo staging due) ticket reports
            · exact serves_giveUp _ state deadline
          · exact serves_giveUp _ state deadline
  | reported report => cases unreported

theorem eq_of_reported {bound : Nat} {answer : Report}
    (done : State.watchFor staging deadline bound state (.reported answer) = some (next, report)) :
    next = state ∧ report = answer := by
  cases bound with
  | zero => cases done
  | succ bound =>
      cases done
      exact ⟨rfl, rfl⟩

/-- Waiting as it is scheduled, if it is not given up, is some turns of a vigil and then an answer. -/
theorem attend_of_watchFor {bound : Nat}
    (done : State.watchFor staging deadline bound state progress = some (next, report))
    (unreported : progress.report? = none) (timely : report ≠ .timedOut) (lively : report ≠ .stalled)
    (reports : List (Option Nat × Report)) :
    ∃ turns waiting about,
      (Vigil.mk state progress.waiting reports).attend staging turns = ⟨next, waiting, reports⟩ ∧
        (Vigil.mk next waiting reports).Answers staging about report := by
  induction bound generalizing state progress with
  | zero => cases done
  | succ bound inductionHypothesis =>
      rw [State.watchFor_step staging deadline bound state (by rintro other rfl; cases unreported)]
        at done
      have serves : Serves staging ⟨state, progress.waiting, reports⟩ _ :=
        serves_watch deadline state unreported reports
      generalize State.watch staging deadline state progress = seen at done serves
      cases serves with
      | givesUp given =>
          obtain ⟨rfl, rfl⟩ := eq_of_reported done
          exact (given.elim timely lively).elim
      | answers answers =>
          obtain ⟨rfl, rfl⟩ := eq_of_reported done
          exact ⟨[], _, _, rfl, answers⟩
      | goesOn early unreported attended =>
          obtain ⟨late, waiting, about, waited, answers⟩ := inductionHypothesis done unreported
          refine ⟨early ++ late, waiting, about, ?_, answers⟩
          rw [attend_append, attended]
          exact waited

/-- Somebody who begins to wait while nobody does, and has an answer, got it in a vigil. -/
theorem attend_of_settle {limit : Option Nat} {bound : Nat}
    (done : state.settle staging limit bound = some (next, report)) (timely : report ≠ .timedOut)
    (lively : report ≠ .stalled) (reports : List (Option Nat × Report)) :
    ∃ turns waiting about,
      (Vigil.mk state .nobody reports).attend staging (.waits :: turns) = ⟨next, waiting, reports⟩ ∧
        (Vigil.mk next waiting reports).Answers staging about report :=
  attend_of_watchFor done rfl timely lively reports

end

end Vigil

end NarrativePlayer.Session
