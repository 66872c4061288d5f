import NarrativePlayer.Proofs.Session.SequenceOrder

/-!
Contract: sequences that were superseded.

A start, a stop, and the entrance of another sequence raise the generation in force, and it never goes
back. So from then on no sequence that was there before finds its own generation in force again, and
each way in which it can go on looks at that before anything else: it gives up without a call, without
a change of the position, and without an error. Only a line that it was held up with can still end it in
another way, when the terminal breaks down.
-/

namespace NarrativePlayer.Session

/-- What happens to one activity, rather than to the session. -/
def Happening.Concerns (ticket : Nat) : Happening → Prop
  | .step other => other = ticket
  | .release _ other => other = ticket
  | .wake other => other = ticket
  | .breakDown other => other = ticket
  | _ => False

namespace State

/-- What supersedes the sequences of a session. -/
inductive Supersedes (staging : Staging) (state : State) : Happening → Prop
  | start : Supersedes staging state (.command .start)
  | stop : Supersedes staging state (.command .stop)
  | sequence {happening : Happening} {ticket : Nat} {sequence : Sequence} {generation : Nat}
      {stage : Stage} (new : state.activities.length ≤ ticket)
      (begun : (state.after staging happening).Performs ticket sequence generation stage) :
      Supersedes staging state happening

theorem Supersedes.generation_lt {staging : Staging} {state : State} {happening : Happening}
    (supersedes : Supersedes staging state happening) :
    state.position.generation < (state.after staging happening).position.generation := by
  cases supersedes with
  | start =>
      obtain ⟨notes, entered, -, result, enters⟩ := (state.obeys_execute staging .start).of_start
      obtain ⟨added, begun, -⟩ := begun_reply enters (Nat.le_refl _) rfl
      rw [← result] at begun
      exact begun.le
  | stop =>
      obtain ⟨notes, -, result⟩ := (state.obeys_execute staging .stop).of_stop
      change state.position.generation < (state.execute staging .stop).1.position.generation
      rw [result]
      exact Nat.lt_succ_self _
  | sequence new begun =>
      rcases begun.before_or_begun with ⟨earlier, before⟩ | ⟨-, -, newer, inForce, -⟩
      · exact absurd (List.getElem?_eq_some_iff.mp before).1 (Nat.not_lt_of_le new)
      · exact inForce ▸ newer

/-- Nothing but the stage of one sequence differs, entries of the journal apart. -/
structure Unheard (state next : State) (ticket : Nat) (sequence : Sequence) (generation : Nat)
    (reached : Stage) : Prop where
  calls : next.calls = state.calls
  position : next.position = state.position
  latest : next.latest = state.latest
  activities :
    next.activities = state.activities.set ticket (.performance sequence generation reached)

theorem unheard_step {staging : Staging} {state : State} (orderly : state.Orderly staging.story)
    {ticket : Nat} {sequence : Sequence} {generation : Nat} {stage : Stage}
    (performs : state.Performs ticket sequence generation stage)
    (stale : generation < state.position.generation) :
    Unheard state (state.after staging (.step ticket)) ticket sequence generation
      (if (Activity.performance sequence generation stage).canGoOn then .finished .succeeded
        else stage) := by
  have goesOn := state.goesOn_goOn staging ticket
  change Unheard state (state.goOn staging ticket) _ _ _ _
  generalize state.goOn staging ticket = next at goesOn ⊢
  cases goesOn with
  | performs here advances =>
      obtain ⟨rfl, rfl, rfl⟩ := performs.unique here
      -- Whatever needs the generation to be in force is out of the question.
      cases advances with
      | givesUp _ silent => exact ⟨by simp [calls, replace, silent.filter_isCall], rfl, rfl, rfl⟩
      | givesUpPrinted _ _ silent =>
          exact ⟨by simp [calls, replace, silent.filter_isCall], rfl, rfl, rfl⟩
      | skips beyond =>
          obtain ⟨line, onLine⟩ := orderly.onLine performs
          simp [beyond] at onLine
      | presented => exact ⟨rfl, rfl, rfl, rfl⟩
      | stays stuck => exact ⟨rfl, rfl, rfl, by simp [stuck, replace]⟩
      | prints current => exact absurd current (Nat.ne_of_gt stale)
      | breaksOff current => exact absurd current (Nat.ne_of_gt stale)
      | rests current => exact absurd current (Nat.ne_of_gt stale)
      | passes current => exact absurd current (Nat.ne_of_gt stale)
      | waits current => exact absurd current (Nat.ne_of_gt stale)
      | ends current => exact absurd current (Nat.ne_of_gt stale)
      | leads current => exact absurd current (Nat.ne_of_gt stale)
      | presents current => exact absurd current (Nat.ne_of_gt stale)
      | fails current => exact absurd current (Nat.ne_of_gt stale)
  | returns here => simp [Performs, here] at performs
  | rests noPerformance => exact absurd performs (noPerformance _ _ _)

/-- Being released, awakened or broken off only changes the stage. -/
private theorem unheard_rouseOne {state : State} {change : Activity → Option Activity}
    (keeps : KeepsSequences change) {ticket : Nat} {sequence : Sequence} {generation : Nat} {stage : Stage}
    (performs : state.Performs ticket sequence generation stage) :
    ∃ reached, Unheard state (state.rouseOne change ticket) ticket sequence generation reached := by
  obtain ⟨reached, changed⟩ := performs_of_modify keeps ticket performs
  refine ⟨reached, rfl, rfl, rfl, List.ext_getElem? fun index => ?_⟩
  by_cases same : ticket = index
  · subst same
    rw [List.getElem?_set_self (List.getElem?_eq_some_iff.mp performs).1]
    exact changed
  · rw [List.getElem?_set_ne same]
    exact List.getElem?_modify_ne _ _ same

/-- A sequence that was superseded before it was over comes to its end without trouble, unless the terminal
breaks down with the line it was held up with. -/
theorem succeeded_of_superseded {staging : Staging} {state : State}
    (orderly : state.Orderly staging.story) {ticket : Nat} {sequence : Sequence} {generation : Nat}
    {stage : Stage} (performs : state.Performs ticket sequence generation stage)
    (stale : generation < state.position.generation) (later : List Happening) {outcome : Outcome}
    (isOver : (state.course staging later).Performs ticket sequence generation (.finished outcome)) :
    outcome = .succeeded ∨ stage = .finished outcome ∨
      outcome = .brokenOff ∧ .breakDown ticket ∈ later := by
  induction later generalizing state stage with
  | nil =>
      exact .inr (.inl (isOver.unique performs).2.2)
  | cons happening rest inductionHypothesis =>
      obtain ⟨reached, next⟩ := performs_after performs staging happening
      have stillStale := Nat.lt_of_lt_of_le stale (state.generation_le_after staging happening)
      rcases inductionHypothesis (orderly.after happening) next stillStale isOver with
        done | overNow | ⟨broken, down⟩
      · exact .inl done
      · subst overNow
        rcases next.finished_before with
          before | ⟨earlier, later, before, advances⟩ | ⟨rfl, broken, -⟩
        · exact .inr (.inl (before.unique performs).2.2)
        · obtain ⟨-, -, rfl⟩ := performs.unique before
          cases advances with
          | givesUp => exact .inl rfl
          | givesUpPrinted => exact .inl rfl
          | presented => exact .inl rfl
          | stays => exact .inr (.inl rfl)
          | breaksOff current => exact absurd current (Nat.ne_of_gt stale)
          | waits current => exact absurd current (Nat.ne_of_gt stale)
          | ends current => exact absurd current (Nat.ne_of_gt stale)
          | leads current => exact absurd current (Nat.ne_of_gt stale)
          | fails current => exact absurd current (Nat.ne_of_gt stale)
        · exact .inr (.inr ⟨broken, List.mem_cons_self⟩)
      · exact .inr (.inr ⟨broken, List.mem_cons_of_mem _ down⟩)

/-- A sequence that was superseded is never heard of again. In every course that goes on from there,
whatever happens to it begins no call, changes neither position nor store, and begins no other sequence;
going on, it gives up at once; and it does not end in trouble, unless the terminal breaks down with a line
that it held up. -/
theorem superseded_unheard (staging : Staging) {initial : State}
    (opened : State.opening staging.story = .ok initial) (before : List Happening) {ticket : Nat}
    {sequence : Sequence} {generation : Nat} {stage : Stage}
    (performs : (initial.course staging before).Performs ticket sequence generation stage)
    {happening : Happening}
    (supersedes : Supersedes staging (initial.course staging before) happening)
    (later : List Happening) :
    ∃ reached,
      (initial.course staging (before ++ happening :: later)).Performs ticket sequence generation
        reached ∧
      (∀ own : Happening, own.Concerns ticket → ∃ further,
        Unheard (initial.course staging (before ++ happening :: later))
          ((initial.course staging (before ++ happening :: later)).after staging own) ticket sequence
          generation further ∧
        (own = .step ticket → (Activity.performance sequence generation reached).canGoOn = true →
          further = .finished .succeeded)) ∧
      (∀ outcome, reached = .finished outcome → outcome = .succeeded ∨
        (initial.course staging (before ++ [happening])).Performs ticket sequence generation
          (.finished outcome) ∨
        outcome = .brokenOff ∧ .breakDown ticket ∈ later) := by
  have orderly := orderly_course (orderly_of_opening opened) before
  obtain ⟨afterwards, begun⟩ := performs_after performs staging happening
  have stale := Nat.lt_of_le_of_lt (orderly.notAhead performs) supersedes.generation_lt
  obtain ⟨reached, inTheEnd⟩ := performs_course later begun
  have staleFinally := Nat.lt_of_lt_of_le stale (generation_le_course staging later _)
  have orderlyFinally := orderly_course (orderly.after happening) later
  have atOnce : initial.course staging (before ++ [happening]) =
      (initial.course staging before).after staging happening := by
    rw [course_append]
    rfl
  have finallyThere : initial.course staging (before ++ happening :: later) =
      ((initial.course staging before).after staging happening).course staging later := by
    rw [course_append]
    rfl
  rw [atOnce, finallyThere]
  refine ⟨reached, inTheEnd, fun own concerns => ?_, fun outcome isOver => ?_⟩
  · cases own with
    | step other =>
        cases concerns
        exact ⟨_, unheard_step orderlyFinally inTheEnd staleFinally,
          fun _ canGoOn => by rw [if_pos canGoOn]⟩
    | release gate other =>
        cases concerns
        obtain ⟨further, unheard⟩ := unheard_rouseOne (keepsSequences_released? gate) inTheEnd
        exact ⟨further, unheard, fun impossible => nomatch impossible⟩
    | wake other =>
        cases concerns
        obtain ⟨further, unheard⟩ := unheard_rouseOne (keepsSequences_awakened? _) inTheEnd
        exact ⟨further, unheard, fun impossible => nomatch impossible⟩
    | breakDown other =>
        cases concerns
        obtain ⟨further, unheard⟩ := unheard_rouseOne keepsSequences_broken? inTheEnd
        exact ⟨further, unheard, fun impossible => nomatch impossible⟩
    | _ => cases concerns
  · subst isOver
    rcases succeeded_of_superseded (orderly.after happening) begun stale later inTheEnd with
      done | already | broken
    · exact .inl done
    · subst already
      exact .inr (.inl begun)
    · exact .inr (.inr broken)

/-- The first line is held up at the terminal while the story is stopped, and is released after that. -/
theorem sample_unheard :
    let staging : Staging := ⟨.sample, .silent⟩
    let stopped := (initial .empty).course staging
      [.turn .print false, .command .start, .step 0, .command .stop, .release .print 0]
    ∃ sequence, stopped.Performs 0 sequence 2 (.printing 0 true) ∧
      Unheard stopped (stopped.after staging (.step 0)) 0 sequence 2 (.finished .succeeded) := by
  intro staging stopped
  have opened : opening staging.story = .ok (.initial .empty) := rfl
  have printing : ∃ sequence,
      ((initial .empty).course staging [.turn .print false, .command .start, .step 0]).Performs 0
        sequence 2 (.printing 0 false) ∧ stopped.Performs 0 sequence 2 (.printing 0 true) :=
    ⟨_, rfl, rfl⟩
  obtain ⟨sequence, performs, performsStill⟩ := printing
  obtain ⟨reached, inTheEnd, alone, -⟩ := superseded_unheard staging opened
    [.turn .print false, .command .start, .step 0] performs .stop [.release .print 0]
  obtain ⟨-, -, rfl⟩ := performsStill.unique inTheEnd
  obtain ⟨further, unheard, givesUp⟩ := alone (.step 0) rfl
  rw [givesUp rfl rfl] at unheard
  exact ⟨sequence, performsStill, unheard⟩

end State

end NarrativePlayer.Session
