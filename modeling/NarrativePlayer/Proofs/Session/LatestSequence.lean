import NarrativePlayer.Proofs.Session.AwaitedInteraction

/-!
Contract: the sequence entered last.

A sequence that is begun is noted as the one entered last, and nothing else is, so nobody who takes
notice of these notes misses a sequence in force. Owns what a step does to the note, and that a session
runs only on behalf of a sequence in force that is under way or has died: one that comes to its end in
peace decides what follows, and the session does not run any more, or runs for another.
-/

namespace NarrativePlayer.Session

/-- Whether a session runs on while its sequence in force is at a stage: that is under way, or died
before it could decide what follows. -/
def Stage.keepsRunning : Stage → Bool
  | .presenting _ => false
  | .finished .succeeded => false
  | _ => true

namespace State

/-- What a step does to the note of the sequence entered last. -/
inductive Enrolls (state later : State) : Prop
  | kept (latest : later.latest = state.latest)
      (runsOn : later.position.mode = .running →
        state.position.mode = .running ∧ later.position.generation = state.position.generation)
  | begun (body : Sequence) (latest : later.latest = some state.activities.length)
      (newer : state.position.generation < later.position.generation)
      (performs : later.Performs state.activities.length body later.position.generation (.ready 0))

theorem Enrolls.of_position {state later : State} (latest : later.latest = state.latest)
    (position : later.position = state.position) : Enrolls state later := by
  refine .kept latest fun running => ?_
  rw [position] at running ⊢
  exact ⟨running, rfl⟩

theorem Enrolls.of_mode {state later : State} (latest : later.latest = state.latest)
    (elsewhere : later.position.mode ≠ .running) : Enrolls state later :=
  .kept latest fun running => absurd running elsewhere

theorem Enrolls.reply {state : State} {result : State × Entrance}
    (enrolls : Enrolls state result.1) : Enrolls state (State.reply result).1 := by
  obtain ⟨entered, entrance⟩ := result
  cases entrance with
  | made => exact enrolls
  | failed trouble => exact enrolls
  | held =>
      cases enrolls with
      | kept latest runsOn => exact .kept latest runsOn
      | begun body latest newer performs =>
          refine .begun body latest newer ?_
          have inside := (List.getElem?_eq_some_iff.mp performs).1
          exact (List.getElem?_append_left inside).trans performs

theorem Enrolls.replace {state next : State} (enrolls : Enrolls state next) {ticket : Nat}
    (inside : ticket < state.activities.length) (activity : Activity) :
    Enrolls state (next.replace ticket activity) := by
  cases enrolls with
  | kept latest runsOn => exact .kept latest runsOn
  | begun body latest newer performs =>
      exact .begun body latest newer ((List.getElem?_set_ne (Nat.ne_of_lt inside)).trans performs)

end State

theorem Enters.enrolls {staging : Staging} {id : String} {before : State}
    {result : State × Entrance} (enters : Enters staging id before result) (state : State)
    (unfailed : ∀ trouble, result.2 ≠ .failed trouble) (latest : before.latest = state.latest)
    (activities : before.activities = state.activities)
    (notBefore : state.position.generation ≤ before.position.generation) :
    State.Enrolls state result.1 := by
  cases enters with
  | undeclared => exact absurd rfl (unfailed _)
  | ends => exact .of_mode latest Mode.noConfusion
  | @begins body =>
      refine .begun body ?_ (Nat.lt_succ_of_le notBefore) ?_
      · exact congrArg (some ∘ List.length) activities
      · rw [← activities]
        exact List.getElem?_concat_length
  | asks => exact .of_mode latest Mode.noConfusion
  | offers => exact .of_mode latest Mode.noConfusion

/-- A scene whose entrance leaves the session running is a sequence that has just begun. -/
theorem Enters.generation_lt {staging : Staging} {id : String} {state : State}
    {result : State × Entrance} (enters : Enters staging id state result)
    (unfailed : ∀ trouble, result.2 ≠ .failed trouble)
    (running : result.1.position.mode = .running) :
    state.position.generation < result.1.position.generation := by
  cases enters with
  | undeclared => exact absurd rfl (unfailed _)
  | ends => cases running
  | begins => exact Nat.lt_succ_self _
  | asks => cases running
  | offers => cases running

theorem Obeys.enrolls {staging : Staging} {state : State} {command : Command}
    {result : State × Reply} (obeys : Obeys staging state command result)
    (startDeclared : staging.story.declares staging.story.start = true) :
    State.Enrolls state result.1 := by
  cases obeys with
  | starts silent enters =>
      have unfailed := enters.not_failed startDeclared
      exact (enters.enrolls state unfailed rfl rfl (Nat.le_succ _)).reply
  | stops => exact .of_mode rfl Mode.noConfusion
  | ignores => exact .of_position rfl rfl
  | misfits => exact .of_position rfl rfl
  | rejects => exact .of_position rfl rfl
  | refuses => exact .of_position rfl rfl
  | moves leaves found silent enters =>
      have unfailed := enters.not_failed (Story.declares_of_find? found)
      exact (enters.enrolls state unfailed rfl rfl (Nat.le_refl _)).reply
  | closes => exact .of_mode rfl Mode.noConfusion

theorem Advances.enrolls {staging : Staging} {sequence : Sequence} {generation : Nat} {state : State}
    {stage : Stage} {result : State × Stage}
    (advances : Advances staging sequence generation state stage result) :
    State.Enrolls state result.1 := by
  cases advances with
  | waits => exact .of_mode rfl Mode.noConfusion
  | ends => exact .of_mode rfl Mode.noConfusion
  | leads current beyond unawaited next enters =>
      exact enters.enrolls state (by simp) rfl rfl (Nat.le_refl _)
  | presents current beyond unawaited next enters =>
      exact enters.enrolls state (by simp) rfl rfl (Nat.le_refl _)
  | fails current beyond unawaited next enters =>
      obtain ⟨rfl, -, -⟩ := enters.of_failed
      exact .of_position rfl rfl
  | _ => exact .of_position rfl rfl

/-- Where the sequence in force leads on, the session stops running, or runs for another. -/
theorem Advances.keepsRunning {staging : Staging} {sequence : Sequence} {state next : State}
    {stage reached : Stage}
    (advances : Advances staging sequence state.position.generation state stage (next, reached))
    (keeps : stage.keepsRunning = true) (running : next.position.mode = .running)
    (inForce : next.position.generation = state.position.generation) :
    reached.keepsRunning = true := by
  cases advances with
  | givesUp stale => exact absurd rfl stale
  | givesUpPrinted stale => exact absurd rfl stale
  | waits => cases running
  | ends => cases running
  | leads current beyond unawaited next enters =>
      exact absurd inForce (Nat.ne_of_gt (enters.generation_lt (by simp) running))
  | presents current beyond unawaited next enters =>
      exact absurd inForce (Nat.ne_of_gt (enters.generation_lt (by simp) running))
  | presented => cases keeps
  | stays => exact keeps
  | _ => rfl

namespace State

variable {staging : Staging}

theorem enrolls_after (startDeclared : staging.story.declares staging.story.start = true)
    (state : State) {happening : Happening} (untaken : happening ≠ .take) :
    Enrolls state (state.after staging happening) := by
  cases happening with
  | command command => exact (state.obeys_execute staging command).enrolls startDeclared
  | step ticket =>
      show Enrolls state (state.goOn staging ticket)
      have goesOn := state.goesOn_goOn staging ticket
      generalize state.goOn staging ticket = later at goesOn ⊢
      cases goesOn with
      | performs here advances =>
          exact advances.enrolls.replace (List.getElem?_eq_some_iff.mp here).1 _
      | returns => exact .of_position rfl rfl
      | rests => exact .of_position rfl rfl
  | turn gate opened => cases gate <;> exact .of_position rfl rfl
  | take => exact absurd rfl untaken
  | _ => exact .of_position rfl rfl

/-- In one happening a sequence takes a step of its own, or is at most roused. -/
theorem Performs.evolves {state : State} {ticket : Nat} {sequence : Sequence} {generation : Nat}
    {stage : Stage} (performs : state.Performs ticket sequence generation stage)
    (happening : Happening) :
    ∃ reached, (state.after staging happening).Performs ticket sequence generation reached ∧
      ((∃ next, Advances staging sequence generation state stage (next, reached) ∧
          (state.after staging happening).position = next.position) ∨
        Roused state.clock stage reached) := by
  obtain ⟨reached, later⟩ := performs_after performs staging happening
  refine ⟨reached, later, ?_⟩
  by_cases own : happening = .step ticket
  · subst own
    obtain ⟨earlier, next, before, advances, outcome⟩ := later.own_step
    obtain ⟨-, -, rfl⟩ := performs.unique before
    refine .inl ⟨next, advances, ?_⟩
    rw [outcome]
    rfl
  · rcases later.elsewhere own with ⟨earlier, before, roused⟩ | ⟨new, -⟩
    · obtain ⟨-, -, rfl⟩ := performs.unique before
      exact .inr roused
    · have inside := (List.getElem?_eq_some_iff.mp performs).1
      omega

/-- A sequence that has ended stays as it is. -/
theorem Performs.finished_after {state : State} {ticket : Nat} {sequence : Sequence}
    {generation : Nat} {outcome : Outcome}
    (performs : state.Performs ticket sequence generation (.finished outcome)) (happening : Happening) :
    (state.after staging happening).Performs ticket sequence generation (.finished outcome) := by
  obtain ⟨reached, later, ⟨next, advances, -⟩ | roused⟩ := performs.evolves happening
  · cases advances with
    | stays => exact later
  · cases roused with
    | kept => exact later

/-! ## What a session runs for -/

theorem Roused.keepsRunning {clock : Nat} {earlier stage : Stage} (roused : Roused clock earlier stage)
    (keeps : earlier.keepsRunning = true) : stage.keepsRunning = true := by
  cases roused with
  | kept => exact keeps
  | printed => rfl
  | presented => cases keeps
  | rested => rfl
  | broken => rfl

/-- A session that runs has a sequence in force that is under way or has died. -/
def Occupied (state : State) : Prop :=
  state.position.mode = .running → ∃ ticket sequence stage,
    state.Performs ticket sequence state.position.generation stage ∧ stage.keepsRunning = true

theorem Occupied.after {state : State} (occupied : state.Occupied)
    (startDeclared : staging.story.declares staging.story.start = true) {happening : Happening}
    (untaken : happening ≠ .take) : (state.after staging happening).Occupied := by
  intro running
  cases state.enrolls_after startDeclared untaken with
  | begun body latest newer performs => exact ⟨_, body, _, performs, rfl⟩
  | kept latest runsOn =>
      obtain ⟨before, inForce⟩ := runsOn running
      obtain ⟨ticket, sequence, stage, performs, keeps⟩ := occupied before
      obtain ⟨reached, later, how⟩ := performs.evolves happening
      refine ⟨ticket, sequence, reached, inForce ▸ later, ?_⟩
      rcases how with ⟨next, advances, position⟩ | roused
      · rw [position] at running inForce
        exact advances.keepsRunning keeps running inForce
      · exact roused.keepsRunning keeps

theorem occupied_of_reaches {initial state : State} (opened : opening staging.story = .ok initial)
    (reaches : Reaches staging initial state) : state.Occupied := by
  obtain ⟨rfl, startDeclared⟩ := initial_of_opening opened
  obtain ⟨happenings, rfl⟩ := reaches
  refine course_induction (fun later happening occupied => ?_) (fun running => nomatch running)
    happenings
  by_cases taken : happening = .take
  · subst taken
    exact occupied
  · exact occupied.after startDeclared taken

end State

end NarrativePlayer.Session
