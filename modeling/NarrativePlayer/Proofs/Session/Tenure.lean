import NarrativePlayer.Proofs.Session.AwaitedInteraction
import NarrativePlayer.Proofs.Session.Deeds

/-!
Contract: the sequence in force, from its entry to the decision on what follows its last line.

Until it has decided, the position is its own: the session runs, at its scene, with the variables as its
own actions left them, and waits for nothing. So nothing but a start or a stop can come between its
lines. Owns that there is never more than one such sequence. A sequence that the terminal broke down for
keeps the position as well, since it never decides.
-/

namespace NarrativePlayer.Session

namespace State

/-- In a course a sequence was begun under a ticket, and these were the variables once its actions had
been applied to those that it was entered with. -/
def BegunWith (staging : Staging) (initial : State) (happenings : List Happening) (ticket : Nat)
    (sequence : Sequence) (store : Table) : Prop :=
  ∃ before begins later,
    happenings = before ++ begins :: later ∧
    (initial.course staging before).activities.length = ticket ∧
    (∃ generation, (initial.course staging (before ++ [begins])).Performs ticket sequence generation
      (.ready 0)) ∧
    (initial.course staging (before ++ [begins])).position.store = store ∧
    store = applyActions none sequence.actions
      (replay staging.story (accepted staging (initial.course staging before) begins)
        (initial.course staging before).position.store)

theorem BegunWith.concat {staging : Staging} {initial : State} {happenings : List Happening}
    {ticket : Nat} {sequence : Sequence} {store : Table}
    (begun : BegunWith staging initial happenings ticket sequence store) (last : Happening) :
    BegunWith staging initial (happenings ++ [last]) ticket sequence store := by
  obtain ⟨before, begins, later, rfl, facts⟩ := begun
  exact ⟨before, begins, later ++ [last], by simp, facts⟩

/-- A ticket is given once, so the variables that a sequence was begun with are certain. -/
theorem BegunWith.unique {staging : Staging} {initial : State} {happenings : List Happening}
    {ticket : Nat} {sequence other : Sequence} {store again : Table}
    (begun : BegunWith staging initial happenings ticket sequence store)
    (alike : BegunWith staging initial happenings ticket other again) : store = again := by
  obtain ⟨before, begins, later, split, fewer, ⟨_, present⟩, rfl, -⟩ := begun
  obtain ⟨past, starts, rest, resplit, fewerToo, ⟨_, presentToo⟩, rfl, -⟩ := alike
  have givenSince : ∀ {first rest : List Happening} {last : Happening} {body : Sequence}
      {generation : Nat}, (initial.course staging (first ++ [last])).Performs ticket body generation
        (.ready 0) → (initial.course staging (first ++ last :: rest)).activities.length ≠ ticket := by
    intro first rest last body generation performs same
    have inside := (List.getElem?_eq_some_iff.mp performs).1
    have grown := length_le_course staging rest (initial.course staging (first ++ [last]))
    rw [← course_append, List.append_assoc, List.singleton_append] at grown
    omega
  rw [split] at resplit
  rcases List.append_eq_append_iff.mp resplit with ⟨between, longer, same⟩ | ⟨between, longer, same⟩
  · cases between with
    | nil =>
        simp only [List.nil_append, List.cons.injEq] at same
        rw [longer, List.append_nil, same.1]
    | cons next others =>
        obtain ⟨rfl, -⟩ := List.cons.inj same
        subst longer
        exact absurd fewerToo (givenSince present)
  · cases between with
    | nil =>
        simp only [List.nil_append, List.cons.injEq] at same
        rw [longer, List.append_nil, same.1]
    | cons next others =>
        obtain ⟨rfl, -⟩ := List.cons.inj same
        subst longer
        exact absurd fewer (givenSince presentToo)

/-- A sequence that is begun has applied its actions to what was accepted before. -/
theorem store_of_begun {staging : Staging} {state : State} {happening : Happening}
    {sequence : Sequence} {generation : Nat} {stage : Stage}
    (performs : (state.after staging happening).Performs state.activities.length sequence generation
      stage) :
    (state.after staging happening).position.store = applyActions none sequence.actions
      (replay staging.story (accepted staging state happening) state.position.store) := by
  have tells := tells_after staging state happening
  obtain ⟨kept, added, activities, asMany, begun⟩ := state.begun_after staging happening
  have new : (state.after staging happening).activities.drop state.activities.length = added := by
    rw [activities, ← asMany, List.drop_left]
  have first : added[0]? = some (.performance sequence generation stage) := by
    rw [← new, List.getElem?_drop]
    exact performs
  have announced := tells.begun
  rw [new] at announced
  cases begun with
  | nothing => cases first
  | held => cases first
  | sequence found =>
      cases first
      rw [tells.store, ← announced, replay_append]
      simp [Activity.deed?, replay, Deed.apply, Story.sequence?, found]

theorem begunWith_of_begun {staging : Staging} {initial : State} {happenings : List Happening}
    {happening : Happening} {sequence : Sequence} {generation : Nat}
    (performs : ((initial.course staging happenings).after staging happening).Performs
      (initial.course staging happenings).activities.length sequence generation (.ready 0)) :
    BegunWith staging initial (happenings ++ [happening])
      (initial.course staging happenings).activities.length sequence
      ((initial.course staging happenings).after staging happening).position.store := by
  have concat := course_concat staging initial happenings happening
  refine ⟨happenings, happening, [], rfl, rfl, ⟨generation, ?_⟩, ?_, store_of_begun performs⟩
  · rw [concat]
    exact performs
  · rw [concat]

/-- A sequence that is undecided was undecided before, or has been begun. -/
theorem Performs.undecided_before {staging : Staging} {state : State} {happening : Happening}
    {ticket : Nat} {sequence : Sequence} {generation : Nat} {stage : Stage}
    (performs : (state.after staging happening).Performs ticket sequence generation stage)
    (undecided : stage.isUndecided = true) :
    (∃ earlier, state.Performs ticket sequence generation earlier ∧ earlier.isUndecided = true) ∨
      ticket = state.activities.length := by
  by_cases underWay : stage.isUnderWay = true
  · rcases performs.underWay_before underWay with ⟨earlier, before, underWayBefore⟩ | new
    · exact .inl ⟨earlier, before, Stage.isUndecided_of_isUnderWay underWayBefore⟩
    · exact .inr new
  · have brokenOff : stage = .finished .brokenOff := by
      unfold Stage.isUndecided at undecided
      split at undecided
      · rfl
      · exact absurd undecided underWay
    subst brokenOff
    rcases performs.finished_before with
      before | ⟨earlier, next, before, advances⟩ | ⟨-, -, index, before⟩
    · exact .inl ⟨_, before, rfl⟩
    · cases advances with
      | breaksOff => exact .inl ⟨_, before, rfl⟩
      | stays => exact .inl ⟨_, before, rfl⟩
    · exact .inl ⟨_, before, rfl⟩

/-- While the sequence in force is undecided, the session runs at its scene, with the variables that it
was begun with. -/
theorem tenure_course {staging : Staging} {initial : State}
    (opened : opening staging.story = .ok initial) (happenings : List Happening) :
    ∀ {ticket sequence stage},
      (initial.course staging happenings).Performs ticket sequence
        (initial.course staging happenings).position.generation stage →
      stage.isUndecided = true →
        (initial.course staging happenings).position.mode = .running ∧
        (initial.course staging happenings).position.current = some sequence.id ∧
        BegunWith staging initial happenings ticket sequence
          (initial.course staging happenings).position.store := by
  refine course_rec (motive := fun past state => ∀ {ticket sequence stage},
    state.Performs ticket sequence state.position.generation stage → stage.isUndecided = true →
      state.position.mode = .running ∧ state.position.current = some sequence.id ∧
      BegunWith staging initial past ticket sequence state.position.store) ?_ ?_ happenings
  · obtain ⟨rfl, -⟩ := initial_of_opening opened
    intro ticket sequence stage performs
    cases performs
  · intro past happening held ticket sequence stage performs undecided
    have steady := steady_course opened past
    generalize here : initial.course staging past = state at held steady performs ⊢
    rcases performs.undecided_before undecided with ⟨earlier, before, undecidedBefore⟩ | new
    · -- The generation is still in force, so it was before, and the position has not moved.
      have inForce : (state.after staging happening).position.generation = state.position.generation :=
        Nat.le_antisymm (steady.orderly.notAhead before) (state.generation_le_after staging happening)
      rw [inForce] at before performs
      obtain ⟨running, atScene, begun⟩ := held before undecidedBefore
      have nothing := steady.coherent.pending_eq_none (by rw [running]; rfl)
      rw [steady.position_after before nothing performs undecided inForce]
      exact ⟨running, atScene, begun.concat happening⟩
    · subst new
      rcases performs.before_or_begun with ⟨earlier, before⟩ | ⟨-, first, -, -, -, -, running, atScene⟩
      · exact absurd (List.getElem?_eq_some_iff.mp before).1 (Nat.lt_irrefl _)
      · subst first here
        exact ⟨running, atScene, begunWith_of_begun performs⟩

/-- Where nothing is waited for, a command that answers something is ignored. -/
theorem execute_of_unawaited {staging : Staging} {state : State} {command : Command}
    (nothing : state.position.pending = none) (answers : command.interaction?.isSome = true) :
    ∃ notes, Silent notes ∧
      state.execute staging command = ({ state with trace := notes ++ state.trace }, .done) := by
  have unawaited : ∀ {interaction id}, state.position.pendingFor? interaction ≠ some id := by
    intro interaction id awaited
    have here := Position.pending_of_pendingFor? awaited
    rw [nothing] at here
    cases here
  have obeys := state.obeys_execute staging command
  generalize state.execute staging command = result at obeys ⊢
  cases obeys with
  | starts => cases answers
  | stops => cases answers
  | ignores ignored silent => exact ⟨_, silent, rfl⟩
  | misfits answers awaited => exact absurd awaited unawaited
  | rejects awaited => exact absurd awaited unawaited
  | closes awaited => exact absurd awaited unawaited
  | refuses leaves =>
      obtain ⟨pending, here⟩ := leaves.exists_pending
      rw [nothing] at here
      cases here
  | moves leaves =>
      obtain ⟨pending, here⟩ := leaves.exists_pending
      rw [nothing] at here
      cases here

/-- In every course, sequences have generations of their own, none of which is ahead of the one in force,
so at most one that has not decided what follows its last line belongs to that. While there is one, the
session runs at its scene, nothing is awaited, the variables are those that its own actions left, and
every submission, pick and acknowledgement is ignored. -/
theorem undecided_sequence_alone (staging : Staging) {initial : State}
    (opened : State.opening staging.story = .ok initial) (happenings : List Happening) :
    (∀ first second sequence other generation since stage reached,
      (initial.course staging happenings).Performs first sequence generation stage →
      (initial.course staging happenings).Performs second other since reached →
        first ≠ second → generation ≠ since) ∧
    (∀ ticket sequence generation stage,
      (initial.course staging happenings).Performs ticket sequence generation stage →
        generation ≤ (initial.course staging happenings).position.generation) ∧
    ∀ ticket sequence stage,
      (initial.course staging happenings).Performs ticket sequence
        (initial.course staging happenings).position.generation stage →
      stage.isUndecided = true →
        (∀ rival other reached,
          (initial.course staging happenings).Performs rival other
            (initial.course staging happenings).position.generation reached →
          reached.isUndecided = true → rival = ticket) ∧
        (initial.course staging happenings).position.mode = .running ∧
        (initial.course staging happenings).position.pending = none ∧
        (initial.course staging happenings).position.current = some sequence.id ∧
        BegunWith staging initial happenings ticket sequence
          (initial.course staging happenings).position.store ∧
        ∀ command : Command, command.interaction?.isSome = true → ∃ notes, Silent notes ∧
          (initial.course staging happenings).execute staging command =
            ({ initial.course staging happenings with
                trace := notes ++ (initial.course staging happenings).trace }, .done) := by
  have steady := steady_course opened happenings
  refine ⟨?_, ?_, ?_⟩
  · intro first second sequence other generation since stage reached performs again different same
    subst same
    exact different (steady.orderly.apart performs again)
  · intro ticket sequence generation stage performs
    exact steady.orderly.notAhead performs
  · intro ticket sequence stage performs undecided
    obtain ⟨running, atScene, begun⟩ := tenure_course opened happenings performs undecided
    have nothing := steady.coherent.pending_eq_none (by rw [running]; rfl)
    refine ⟨?_, running, nothing, atScene, begun, ?_⟩
    · intro rival other reached again _
      exact steady.orderly.apart again performs
    · intro command answers
      exact execute_of_unawaited nothing answers

/-- While the greeting rests, an answer is ignored. -/
theorem sample_tenure :
    let staging : Staging := ⟨.sample, .silent⟩
    let resting := (initial .empty).course staging [.command .start, .step 0, .step 0]
    ∃ sequence, resting.Performs 0 sequence resting.position.generation (.resting 0 5) ∧
      resting.position.mode = .running ∧ resting.position.current = some sequence.id ∧
      ∃ notes, Silent notes ∧ resting.execute staging (.submit "Bea") =
        ({ resting with trace := notes ++ resting.trace }, .done) := by
  intro staging resting
  have opened : opening staging.story = .ok (.initial .empty) := rfl
  have rests : ∃ sequence,
      resting.Performs 0 sequence resting.position.generation (.resting 0 5) := ⟨_, rfl⟩
  obtain ⟨sequence, performs⟩ := rests
  obtain ⟨-, -, alone⟩ := undecided_sequence_alone staging opened
    [.command .start, .step 0, .step 0]
  obtain ⟨-, running, -, atScene, -, ignored⟩ := alone 0 sequence _ performs rfl
  exact ⟨sequence, performs, running, atScene, ignored (.submit "Bea") rfl⟩

end State

end NarrativePlayer.Session
