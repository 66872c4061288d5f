import NarrativePlayer.Proofs.Session.Frame
import NarrativePlayer.Session.Command
import NarrativePlayer.Session.Settlement

/-!
Contract: the courses that a session can take.

A happening is the least that can happen to a session from outside or in the background: a command, an
activity going on by one step, a single call of the terminal being done or breaking down, a single pause
being over, a gate being opened or closed, the clock moving. A course is any list of happenings, so which
activity goes on next, which of the calls that are held up is released, how much time passes, and what is
commanded in between, is all left open. What the schedule and the waiting do is a course.
-/

namespace NarrativePlayer.Session

inductive Happening where
  | command (command : Command)
  /-- An activity goes on, if it can. -/
  | step (ticket : Nat)
  /-- The terminal is done with what an activity had it do, if that was held up by a gate. -/
  | release (gate : Gate) (ticket : Nat)
  /-- The pause of an activity is over, if it has lasted long enough. -/
  | wake (ticket : Nat)
  /-- The clock comes to show a moment. -/
  | clock (moment : Nat)
  /-- A gate is opened or closed for calls to come. -/
  | turn (gate : Gate) (opened : Bool)
  /-- The terminal will break down at the next line. -/
  | fault
  /-- The terminal breaks down with the line that it was to print, if that was held up by a gate. -/
  | breakDown (ticket : Nat)
  /-- The sequence entered last is waited for from now on. -/
  | take
  /-- The order in which activities go on is changed. -/
  | arrange (queue : List Nat)
deriving DecidableEq, Repr

/-- Whether a happening is no command. -/
def Happening.isUnbidden : Happening → Bool
  | .command _ => false
  | _ => true

/-- Whether a happening is neither a command nor that somebody looks for a sequence. -/
def Happening.isInner : Happening → Bool
  | .command _ => false
  | .take => false
  | _ => true

theorem Happening.isUnbidden_of_isInner {happening : Happening} (inner : happening.isInner = true) :
    happening.isUnbidden = true := by
  cases happening with
  | command told => cases inner
  | _ => rfl

namespace State

/-- Changes an activity, if the change applies to it. -/
def rouseOne (state : State) (change : Activity → Option Activity) (ticket : Nat) : State :=
  { state with
    activities := state.activities.modify ticket fun activity => (change activity).getD activity }

/-- The activity once the terminal broke down, if it was held up with a print. -/
def broken? : Activity → Option Activity
  | .performance sequence generation (.printing _ false) =>
      some (.performance sequence generation (.finished .brokenOff))
  | _ => none

/-- The state after something has happened. -/
def after (state : State) (staging : Staging) : Happening → State
  | .command command => (state.execute staging command).1
  | .step ticket => state.goOn staging ticket
  | .release gate ticket => state.rouseOne (released? gate) ticket
  | .wake ticket => state.rouseOne (awakened? state.clock) ticket
  | .clock moment => { state with clock := moment }
  | .turn gate opened => state.setGate gate opened
  | .fault => { state with faulty := true }
  | .breakDown ticket => state.rouseOne broken? ticket
  | .take => { state with latest := none }
  | .arrange queue => { state with queue := queue }

/-- The state after a course. -/
def course (staging : Staging) : State → List Happening → State
  | state, [] => state
  | state, happening :: rest => course staging (state.after staging happening) rest

theorem course_append (staging : Staging) (state : State) (first second : List Happening) :
    state.course staging (first ++ second) = (state.course staging first).course staging second := by
  induction first generalizing state with
  | nil => rfl
  | cons happening rest inductionHypothesis => exact inductionHypothesis _

theorem course_concat (staging : Staging) (state : State) (happenings : List Happening)
    (last : Happening) :
    state.course staging (happenings ++ [last]) = (state.course staging happenings).after staging last :=
  course_append staging state happenings [last]

/-- What every happening preserves, every course preserves. -/
theorem course_induction {staging : Staging} {motive : State → Prop}
    (preserved : ∀ state happening, motive state → motive (state.after staging happening))
    {state : State} (holds : motive state) (happenings : List Happening) :
    motive (state.course staging happenings) := by
  induction happenings generalizing state with
  | nil => exact holds
  | cons happening rest inductionHypothesis =>
      exact inductionHypothesis (preserved state happening holds)

/-- What holds at the beginning of a course, and of a course with one more happening if it held before
that, holds of every course. Unlike above, it may speak of the course itself. -/
theorem course_rec {staging : Staging} {initial : State} {motive : List Happening → State → Prop}
    (opens : motive [] initial)
    (goesOn : ∀ past happening, motive past (initial.course staging past) →
      motive (past ++ [happening]) ((initial.course staging past).after staging happening))
    (happenings : List Happening) : motive happenings (initial.course staging happenings) := by
  have from_past : ∀ rest past, motive past (initial.course staging past) →
      motive (past ++ rest) (initial.course staging (past ++ rest)) := by
    intro rest
    induction rest with
    | nil =>
        intro past holds
        rw [List.append_nil]
        exact holds
    | cons happening rest inductionHypothesis =>
        intro past holds
        have further := goesOn past happening holds
        rw [← course_concat] at further
        rw [List.append_cons]
        exact inductionHypothesis (past ++ [happening]) further
  exact from_past happenings [] opens

/-! ## What the schedule does is a course -/

/-- Whether a state can come of another. -/
def Reaches (staging : Staging) (state later : State) : Prop :=
  ∃ happenings, later = state.course staging happenings

theorem Reaches.refl (staging : Staging) (state : State) : Reaches staging state state :=
  ⟨[], rfl⟩

theorem Reaches.trans {staging : Staging} {first second third : State}
    (toSecond : Reaches staging first second) (toThird : Reaches staging second third) :
    Reaches staging first third := by
  obtain ⟨early, rfl⟩ := toSecond
  obtain ⟨late, rfl⟩ := toThird
  exact ⟨early ++ late, (course_append staging first early late).symm⟩

theorem Reaches.once {staging : Staging} {state : State} (happening : Happening) :
    Reaches staging state (state.after staging happening) :=
  ⟨[happening], rfl⟩

/-- Whether a state can come of another without anybody looking for the sequence entered last. -/
def Passes (staging : Staging) (state later : State) : Prop :=
  ∃ happenings, .take ∉ happenings ∧ later = state.course staging happenings

/-- Whether a state can come of another by happenings of one kind only. -/
def Along (kind : Happening → Bool) (staging : Staging) (state later : State) : Prop :=
  ∃ happenings, (∀ happening ∈ happenings, kind happening = true) ∧
    later = state.course staging happenings

section

variable {kind wider : Happening → Bool} {staging : Staging} {state later : State}

theorem Along.reaches (along : Along kind staging state later) : Reaches staging state later := by
  obtain ⟨happenings, -, same⟩ := along
  exact ⟨happenings, same⟩

theorem Along.weaken (along : Along kind staging state later)
    (within : ∀ {happening}, kind happening = true → wider happening = true) :
    Along wider staging state later := by
  obtain ⟨happenings, all, same⟩ := along
  exact ⟨happenings, fun happening member => within (all happening member), same⟩

theorem Along.passes (along : Along Happening.isInner staging state later) :
    Passes staging state later := by
  obtain ⟨happenings, all, same⟩ := along
  exact ⟨happenings, fun taken => Bool.noConfusion (all .take taken), same⟩

theorem Along.refl (kind : Happening → Bool) (staging : Staging) (state : State) :
    Along kind staging state state :=
  ⟨[], fun _ member => absurd member List.not_mem_nil, rfl⟩

theorem Along.trans {last : State} (first : Along kind staging state later)
    (second : Along kind staging later last) : Along kind staging state last := by
  obtain ⟨early, allEarly, rfl⟩ := first
  obtain ⟨late, allLate, rfl⟩ := second
  refine ⟨early ++ late, fun happening member => ?_, (course_append staging state early late).symm⟩
  rcases List.mem_append.mp member with inEarly | inLate
  · exact allEarly happening inEarly
  · exact allLate happening inLate

theorem Along.once {happening : Happening} (isOf : kind happening = true) :
    Along kind staging state (state.after staging happening) := by
  refine ⟨[happening], fun other member => ?_, rfl⟩
  rw [List.mem_singleton.mp member]
  exact isOf

end

theorem along_pump (state : State) (staging : Staging) :
    Along Happening.isInner staging state (state.pump staging) := by
  unfold pump
  cases state.queue with
  | nil => exact .refl _ staging state
  | cons ticket rest =>
      have dequeued : (Happening.arrange rest).isInner = true := rfl
      have stepped : (Happening.step ticket).isInner = true := rfl
      dsimp only
      split
      · exact .once dequeued
      · split
        · exact .once stepped
        · exact .once dequeued

theorem passes_pump (state : State) (staging : Staging) :
    Passes staging state (state.pump staging) :=
  (state.along_pump staging).passes

theorem reaches_pump (state : State) (staging : Staging) :
    Reaches staging state (state.pump staging) :=
  (state.along_pump staging).reaches

theorem along_drain {staging : Staging} {bound : Nat} {state drained : State}
    (done : drain staging bound state = some drained) :
    Along Happening.isInner staging state drained := by
  induction bound generalizing state with
  | zero => cases done
  | succ bound inductionHypothesis =>
      rw [drain] at done
      split at done
      · cases done
        exact .refl _ staging drained
      · exact (along_pump _ staging).trans (inductionHypothesis done)

/-- Changing the activities one after the other changes all of them. -/
private theorem foldl_modify_range {α : Type} (change : α → α) (list : List α) :
    (List.range list.length).foldl (fun changed index => changed.modify index change) list =
      list.map change := by
  have upTo : ∀ count index,
      ((List.range count).foldl (fun changed index => changed.modify index change) list)[index]? =
        if index < count then list[index]?.map change else list[index]? := by
    intro count
    induction count with
    | zero => simp
    | succ count inductionHypothesis =>
        intro index
        rw [List.range_succ, List.foldl_append, List.foldl_cons, List.foldl_nil, List.getElem?_modify,
          inductionHypothesis]
        by_cases last : count = index
        · subst last
          simp
        · have sameSide : index < count + 1 ↔ index < count := by omega
          simp [last, sameSide]
  refine List.ext_getElem? fun index => ?_
  rw [upTo, List.getElem?_map]
  split
  · rfl
  · rename_i beyond
    simp [List.getElem?_eq_none (Nat.le_of_not_lt beyond)]

private theorem course_rouseOne (staging : Staging) (change : Activity → Option Activity)
    (happening : Nat → Happening) (clock : Nat)
    (changes : ∀ state : State, state.clock = clock → ∀ ticket,
      state.after staging (happening ticket) = state.rouseOne change ticket)
    (tickets : List Nat) (state : State) (now : state.clock = clock) :
    state.course staging (tickets.map happening) =
      { state with
        activities := tickets.foldl (fun changed ticket =>
          changed.modify ticket fun activity => (change activity).getD activity)
            state.activities } := by
  induction tickets generalizing state with
  | nil => rfl
  | cons ticket rest inductionHypothesis =>
      rw [List.map_cons, course, changes state now,
        inductionHypothesis (state.rouseOne change ticket) now]
      rfl

private theorem along_rouse (staging : Staging) (change : Activity → Option Activity)
    (happening : Nat → Happening) (inner : ∀ ticket, (happening ticket).isInner = true)
    (state : State)
    (changes : ∀ other : State, other.clock = state.clock → ∀ ticket,
      other.after staging (happening ticket) = other.rouseOne change ticket) :
    Along Happening.isInner staging state (state.rouse change) := by
  refine ⟨(List.range state.activities.length).map happening ++ [.arrange (state.rouse change).queue],
    ?_, ?_⟩
  · intro other member
    rcases List.mem_append.mp member with roused | arranged
    · obtain ⟨ticket, -, rfl⟩ := List.mem_map.mp roused
      exact inner ticket
    · rw [List.mem_singleton.mp arranged]
      rfl
  · rw [course_append, course_rouseOne staging change happening state.clock changes _ state rfl,
      foldl_modify_range]
    rfl

theorem along_moveTo (state : State) (staging : Staging) (moment : Nat) :
    Along Happening.isInner staging state (state.moveTo moment) := by
  have clocked : (Happening.clock moment).isInner = true := rfl
  refine (Along.once clocked).trans (along_rouse staging (awakened? moment) .wake
    (fun _ => rfl) { state with clock := moment } ?_)
  intro other now ticket
  change other.rouseOne (awakened? other.clock) ticket = _
  rw [now]

theorem passes_moveTo (state : State) (staging : Staging) (moment : Nat) :
    Passes staging state (state.moveTo moment) :=
  (state.along_moveTo staging moment).passes

theorem along_release (state : State) (staging : Staging) (gate : Gate) :
    Along Happening.isInner staging state (state.release gate) :=
  along_rouse staging (released? gate) (.release gate) (fun _ => rfl) state fun _ _ _ => rfl

theorem along_openGate (state : State) (staging : Staging) (gate : Gate) :
    Along Happening.isInner staging state (state.openGate gate) := by
  have turned : (Happening.turn gate true).isInner = true := rfl
  exact (Along.once turned).trans (along_release _ staging gate)

theorem along_advanceTo {staging : Staging} {moment bound : Nat} {state advanced : State}
    (done : advanceTo staging moment bound state = some advanced) :
    Along Happening.isInner staging state advanced := by
  have clocked : (Happening.clock moment).isInner = true := rfl
  induction bound generalizing state with
  | zero => cases done
  | succ bound inductionHypothesis =>
      rw [advanceTo] at done
      split at done
      · exact (state.along_pump staging).trans (inductionHypothesis done)
      · split at done
        · rename_i due _
          split at done
          · exact (state.along_moveTo staging due).trans (inductionHypothesis done)
          · cases done
            exact .once clocked
        · cases done
          exact .once clocked

/-! ## Waiting is a course -/

theorem along_giveUp (state : State) (staging : Staging) (deadline : Option Nat) :
    Along Happening.isInner staging state (state.giveUp deadline).1 := by
  cases deadline with
  | none => exact .refl _ staging state
  | some moment => exact state.along_moveTo staging moment

theorem along_watch (state : State) (staging : Staging) (deadline : Option Nat) (progress : Watch) :
    Along Happening.isUnbidden staging state (watch staging deadline state progress).1 := by
  have taken : Happening.take.isUnbidden = true := rfl
  have unbidden : ∀ {later}, Along Happening.isInner staging state later →
      Along Happening.isUnbidden staging state later :=
    fun along => along.weaken Happening.isUnbidden_of_isInner
  cases progress with
  | seeking =>
      rw [watch]
      split
      · exact .refl _ staging state
      · exact .once taken
  | looking ticket =>
      rw [watch]
      split
      · exact .refl _ staging state
      · split
        · exact .refl _ staging state
        · exact .refl _ staging state
  | watching ticket =>
      rw [watch]
      split
      · exact unbidden (state.along_pump staging)
      · split
        · exact .refl _ staging state
        · split
          · rename_i due _
            split
            · exact unbidden (state.along_moveTo staging due)
            · exact unbidden (state.along_giveUp staging deadline)
          · exact unbidden (state.along_giveUp staging deadline)
  | reported report => exact .refl _ staging state

theorem watchFor_reported (staging : Staging) (deadline : Option Nat) (bound : Nat) (state : State)
    (report : Report) :
    watchFor staging deadline (bound + 1) state (.reported report) = some (state, report) := rfl

theorem watchFor_step (staging : Staging) (deadline : Option Nat) (bound : Nat) (state : State)
    {progress : Watch} (unreported : ∀ report, progress ≠ .reported report) :
    watchFor staging deadline (bound + 1) state progress =
      watchFor staging deadline bound (watch staging deadline state progress).1
        (watch staging deadline state progress).2 := by
  cases progress with
  | seeking => rfl
  | looking ticket => rfl
  | watching ticket => rfl
  | reported report => exact absurd rfl (unreported report)

/-- A wait that has ended ends alike however much longer it might have taken. -/
theorem watchFor_of_le {staging : Staging} {deadline : Option Nat} {enough bound : Nat} {state : State}
    {progress : Watch} {result : State × Report} (within : enough ≤ bound)
    (done : watchFor staging deadline enough state progress = some result) :
    watchFor staging deadline bound state progress = some result := by
  induction enough generalizing bound state progress with
  | zero => cases done
  | succ enough inductionHypothesis =>
      obtain ⟨more, rfl⟩ : ∃ more, bound = more + 1 := ⟨bound - 1, by omega⟩
      by_cases reported : ∃ report, progress = .reported report
      · obtain ⟨report, rfl⟩ := reported
        exact done
      · have unreported : ∀ report, progress ≠ .reported report :=
          fun report same => reported ⟨report, same⟩
        rw [watchFor_step staging deadline _ state unreported] at done ⊢
        exact inductionHypothesis (by omega) done

theorem settle_unique {staging : Staging} {state : State} {limit : Option Nat} {bound other : Nat}
    {result again : State × Report} (done : state.settle staging limit bound = some result)
    (doneAgain : state.settle staging limit other = some again) : result = again := by
  have longer := watchFor_of_le (Nat.le_max_left bound other) done
  have longerAgain := watchFor_of_le (Nat.le_max_right bound other) doneAgain
  exact Option.some.inj (longer.symm.trans longerAgain)

theorem along_watchFor {staging : Staging} {deadline : Option Nat} {bound : Nat}
    {state final : State} {progress : Watch} {report : Report}
    (done : watchFor staging deadline bound state progress = some (final, report)) :
    Along Happening.isUnbidden staging state final := by
  induction bound generalizing state progress with
  | zero => cases done
  | succ bound inductionHypothesis =>
      by_cases reported : ∃ other, progress = .reported other
      · obtain ⟨other, rfl⟩ := reported
        rw [watchFor_reported] at done
        cases done
        exact .refl _ staging final
      · rw [watchFor_step staging deadline bound state fun other equal => reported ⟨other, equal⟩]
          at done
        exact (state.along_watch staging deadline progress).trans (inductionHypothesis done)

theorem along_settle {staging : Staging} {limit : Option Nat} {bound : Nat}
    {state final : State} {report : Report}
    (done : state.settle staging limit bound = some (final, report)) :
    Along Happening.isUnbidden staging state final :=
  along_watchFor done

theorem reaches_settle {staging : Staging} {limit : Option Nat} {bound : Nat}
    {state final : State} {report : Report}
    (done : state.settle staging limit bound = some (final, report)) :
    Reaches staging state final :=
  (along_settle done).reaches

/-- Waiting that reports a trouble has it from a sequence. -/
def Attested (state : State) (progress : Watch) : Prop :=
  ∀ trouble, progress = .reported (.failed trouble) →
    ∃ ticket, state.outcome? ticket = some (.failed trouble)

private theorem attested_afterOutcome {state : State} {ticket : Nat} {outcome : Outcome}
    (here : state.outcome? ticket = some outcome) : Attested state (afterOutcome outcome) := by
  intro trouble reported
  cases outcome with
  | succeeded => cases reported
  | failed other =>
      cases reported
      exact ⟨ticket, here⟩
  | brokenOff => cases reported

private theorem attested_giveUp (state : State) (deadline : Option Nat) :
    Attested (state.giveUp deadline).1 (state.giveUp deadline).2 := by
  intro trouble reported
  cases deadline with
  | none => cases reported
  | some moment => cases reported

private theorem attested_watch (staging : Staging) (deadline : Option Nat) (state : State)
    (progress : Watch) (attested : Attested state progress) :
    Attested (watch staging deadline state progress).1
      (watch staging deadline state progress).2 := by
  have silent : ∀ (other : State) (next : Watch), (∀ trouble, next ≠ .reported (.failed trouble)) →
      Attested other next := fun _ _ never trouble reported => absurd reported (never trouble)
  cases progress with
  | seeking =>
      rw [watch]
      split
      · exact silent _ _ (by simp)
      · exact silent _ _ (by simp)
  | looking ticket =>
      rw [watch]
      split
      · rename_i outcome here
        exact attested_afterOutcome here
      · split
        · exact silent _ _ (by simp)
        · exact silent _ _ (by simp)
  | watching ticket =>
      rw [watch]
      split
      · exact silent _ _ (by simp)
      · split
        · rename_i outcome here
          exact attested_afterOutcome here
        · split
          · split
            · exact silent _ _ (by simp)
            · exact state.attested_giveUp deadline
          · exact state.attested_giveUp deadline
  | reported report => exact attested

private theorem attested_watchFor {staging : Staging} {deadline : Option Nat} {bound : Nat}
    {state final : State} {progress : Watch} {report : Report} (attested : Attested state progress)
    (done : watchFor staging deadline bound state progress = some (final, report)) :
    Attested final (.reported report) := by
  induction bound generalizing state progress with
  | zero => cases done
  | succ bound inductionHypothesis =>
      by_cases reported : ∃ other, progress = .reported other
      · obtain ⟨other, rfl⟩ := reported
        rw [watchFor_reported] at done
        cases done
        exact attested
      · rw [watchFor_step staging deadline bound state fun other equal => reported ⟨other, equal⟩]
          at done
        exact inductionHypothesis (attested_watch staging deadline state progress attested) done

/-- A trouble that waiting ends with is the outcome of a sequence. -/
theorem outcome?_of_settle {staging : Staging} {limit : Option Nat} {bound : Nat}
    {state final : State} {trouble : Trouble}
    (done : state.settle staging limit bound = some (final, .failed trouble)) :
    ∃ ticket, final.outcome? ticket = some (.failed trouble) := by
  have attested : Attested state .seeking := fun _ reported => nomatch reported
  exact attested_watchFor attested done trouble rfl

end State

end NarrativePlayer.Session
