import NarrativePlayer.Proofs.Session.Activities

/-!
Contract: what holds of the sequences of a session in every course.

Each sequence was begun with a generation of its own, none of which is ahead of the one in force; it is
what its id stands for in the story, a line that it is printing is one of its lines, and if it came into
trouble, then because the scene that it leads to is not declared.
-/

namespace NarrativePlayer.Session

namespace State

/-- The sequences of a session are in order. -/
structure Orderly (story : Story) (state : State) : Prop where
  notAhead : ∀ {ticket sequence generation stage}, state.Performs ticket sequence generation stage →
    generation ≤ state.position.generation
  apart : ∀ {first second sequence other generation stage stage'},
    state.Performs first sequence generation stage → state.Performs second other generation stage' →
      first = second
  declared : ∀ {ticket sequence generation stage},
    state.Performs ticket sequence generation stage →
      story.find? sequence.id = some (.sequence sequence) ∧ sequence.terminal = false
  onLine : ∀ {ticket sequence generation index released},
    state.Performs ticket sequence generation (.printing index released) →
      ∃ line, sequence.lines[index]? = some line
  failed : ∀ {ticket sequence generation trouble},
    state.Performs ticket sequence generation (.finished (.failed trouble)) →
      ∃ target, sequence.awaits = none ∧ sequence.next = some target ∧
        story.find? target = none ∧ trouble = .undeclared target

theorem orderly_of_no_activities {story : Story} {state : State} (none : state.activities = []) :
    state.Orderly story where
  notAhead performs := by simp [Performs, none] at performs
  apart performs := by simp [Performs, none] at performs
  declared performs := by simp [Performs, none] at performs
  onLine performs := by simp [Performs, none] at performs
  failed performs := by simp [Performs, none] at performs

/-- A sequence after a happening was there before it, or was begun by it. -/
theorem Performs.before_or_begun {staging : Staging} {state : State} {happening : Happening}
    {ticket : Nat} {sequence : Sequence} {generation : Nat} {stage : Stage}
    (performs : (state.after staging happening).Performs ticket sequence generation stage) :
    (∃ earlier, state.Performs ticket sequence generation earlier) ∨
      (ticket = state.activities.length ∧ stage = .ready 0 ∧
        state.position.generation < generation ∧
        generation = (state.after staging happening).position.generation ∧
        staging.story.find? sequence.id = some (.sequence sequence) ∧ sequence.terminal = false ∧
        (state.after staging happening).position.mode = .running ∧
        (state.after staging happening).position.current = some sequence.id) := by
  cases arises_after state staging happening performs with
  | kept here => exact .inl ⟨stage, here⟩
  | begun begun member new =>
      cases begun with
      | nothing => cases member
      | held => simp at member
      | sequence found goesOn newer running here =>
          simp only [List.mem_singleton, Activity.performance.injEq] at member
          obtain ⟨rfl, rfl, rfl⟩ := member
          exact .inr ⟨new, rfl, newer, rfl, found, goesOn, running, here⟩
  | advanced here => exact .inl ⟨_, here⟩
  | released here released =>
      rcases before_of_released? released with ⟨index, rfl, -⟩ | ⟨rfl, -⟩
      · exact .inl ⟨_, here⟩
      · exact .inl ⟨_, here⟩
  | awakened here awakened =>
      obtain ⟨index, due, rfl, -⟩ := before_of_awakened? awakened
      exact .inl ⟨_, here⟩
  | broken down here broken =>
      obtain ⟨⟨index, rfl⟩, -⟩ := before_of_broken? broken
      exact .inl ⟨_, here⟩

private theorem Orderly.onLine_after {staging : Staging} {state : State}
    (orderly : state.Orderly staging.story) {happening : Happening} {ticket : Nat}
    {sequence : Sequence} {generation index : Nat} {released : Bool}
    (performs : (state.after staging happening).Performs ticket sequence generation
      (.printing index released)) : ∃ line, sequence.lines[index]? = some line := by
  cases arises_after state staging happening performs with
  | kept here => exact orderly.onLine here
  | begun begun member new =>
      cases begun with
      | nothing => cases member
      | held => simp at member
      | sequence found goesOn newer => simp at member
  | advanced here advances =>
      cases advances with
      | prints current onLine => exact ⟨_, onLine⟩
      | stays => exact orderly.onLine here
  | released here released =>
      rcases before_of_released? released with ⟨index, rfl, stage⟩ | ⟨-, stage⟩
      · cases stage
        exact orderly.onLine here
      · cases stage
  | awakened here awakened =>
      obtain ⟨index, due, -, -, stage⟩ := before_of_awakened? awakened
      cases stage
  | broken down here broken =>
      obtain ⟨-, stage⟩ := before_of_broken? broken
      cases stage

private theorem Orderly.failed_after {staging : Staging} {state : State}
    (orderly : state.Orderly staging.story) {happening : Happening} {ticket : Nat}
    {sequence : Sequence} {generation : Nat} {trouble : Trouble}
    (performs : (state.after staging happening).Performs ticket sequence generation
      (.finished (.failed trouble))) :
    ∃ target, sequence.awaits = none ∧ sequence.next = some target ∧
      staging.story.find? target = none ∧ trouble = .undeclared target := by
  rcases performs.finished_before with before | ⟨stage, next, before, advances⟩ | ⟨-, brokenOff, -⟩
  · exact orderly.failed before
  · cases advances with
    | fails current beyond unawaited next enters =>
        obtain ⟨-, equal, absent⟩ := enters.of_failed
        exact ⟨_, unawaited, next, absent, equal⟩
    | stays => exact orderly.failed before
  · cases brokenOff

theorem Orderly.after {staging : Staging} {state : State} (orderly : state.Orderly staging.story)
    (happening : Happening) : (state.after staging happening).Orderly staging.story where
  notAhead performs := by
    rcases performs.before_or_begun with ⟨earlier, before⟩ | ⟨-, -, -, equal, -⟩
    · exact Nat.le_trans (orderly.notAhead before) (state.generation_le_after staging happening)
    · exact Nat.le_of_eq equal
  apart first second := by
    rcases first.before_or_begun with ⟨_, firstBefore⟩ | ⟨firstNew, -, firstNewer, -⟩
    · rcases second.before_or_begun with ⟨_, secondBefore⟩ | ⟨-, -, secondNewer, -⟩
      · exact orderly.apart firstBefore secondBefore
      · exact absurd (orderly.notAhead firstBefore) (Nat.not_le_of_lt secondNewer)
    · rcases second.before_or_begun with ⟨_, secondBefore⟩ | ⟨secondNew, -, -, -⟩
      · exact absurd (orderly.notAhead secondBefore) (Nat.not_le_of_lt firstNewer)
      · rw [firstNew, secondNew]
  declared performs := by
    rcases performs.before_or_begun with ⟨earlier, before⟩ | ⟨-, -, -, -, found, goesOn, -⟩
    · exact orderly.declared before
    · exact ⟨found, goesOn⟩
  onLine performs := orderly.onLine_after performs
  failed performs := orderly.failed_after performs

theorem orderly_course {staging : Staging} {state : State} (orderly : state.Orderly staging.story)
    (happenings : List Happening) : (state.course staging happenings).Orderly staging.story :=
  course_induction (fun _ happening held => held.after happening) orderly happenings

/-- A session opens only on a story whose start is declared, and with nothing going on. -/
theorem initial_of_opening {story : Story} {state : State} (opened : opening story = .ok state) :
    state = .initial story.store ∧ story.declares story.start = true := by
  unfold opening at opened
  split at opened
  · rename_i indexed
    rw [Story.isSome_position?] at indexed
    cases opened
    exact ⟨rfl, indexed⟩
  · cases opened

/-- A session opens on every story whose start is declared. -/
theorem opening_of_declared {story : Story} (declared : story.declares story.start = true) :
    opening story = .ok (.initial story.store) := by
  rw [← Story.isSome_position?] at declared
  exact if_pos declared

theorem orderly_of_opening {story : Story} {state : State} (opened : opening story = .ok state) :
    state.Orderly story := by
  obtain ⟨rfl, -⟩ := initial_of_opening opened
  exact orderly_of_no_activities rfl

end State

end NarrativePlayer.Session
