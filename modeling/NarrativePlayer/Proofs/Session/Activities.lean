import NarrativePlayer.Proofs.Session.Course
import NarrativePlayer.Proofs.Session.Obedience

/-!
Contract: how the activities of a session come about and change.

Activities are only ever added at the end, one at a time, and keep their ticket; a sequence keeps its
generation as well. Owns `Begun`, what a step can add, and `Arises`, where an activity comes from in one
happening. What is said about single activities in every course follows from these.
-/

namespace NarrativePlayer.Session

/-- What a step of a session adds to its activities, by the positions before and after it. -/
inductive Begun (staging : Staging) (older newer : Position) : List Activity → Prop
  | nothing (notBefore : older.generation ≤ newer.generation) : Begun staging older newer []
  | held (notBefore : older.generation ≤ newer.generation) :
      Begun staging older newer [.call false false]
  | sequence {body : Sequence} (found : staging.story.find? body.id = some (.sequence body))
      (goesOn : body.terminal = false) (after : older.generation < newer.generation)
      (running : newer.mode = .running) (here : newer.current = some body.id) :
      Begun staging older newer [.performance body newer.generation (.ready 0)]

theorem Begun.le {staging : Staging} {older newer : Position} {added : List Activity}
    (begun : Begun staging older newer added) : older.generation ≤ newer.generation := by
  cases begun with
  | nothing notBefore => exact notBefore
  | held notBefore => exact notBefore
  | sequence _ _ after => exact Nat.le_of_lt after

theorem Begun.of_le {staging : Staging} {oldest older newer : Position} {added : List Activity}
    (begun : Begun staging older newer added) (notBefore : oldest.generation ≤ older.generation) :
    Begun staging oldest newer added := by
  cases begun with
  | nothing rest => exact .nothing (Nat.le_trans notBefore rest)
  | held rest => exact .held (Nat.le_trans notBefore rest)
  | sequence found goesOn after running here =>
      exact .sequence found goesOn (Nat.lt_of_le_of_lt notBefore after) running here

/-- An entrance that is held up begins no sequence. -/
theorem Enters.begun {staging : Staging} {id : String} {state : State} {result : State × Entrance}
    (enters : Enters staging id state result) :
    ∃ added, Begun staging state.position result.1.position added ∧
      result.1.activities = state.activities ++ added ∧ (result.2 = .held → added = []) := by
  cases enters with
  | undeclared => exact ⟨[], .nothing (Nat.le_refl _), by simp, by simp⟩
  | ends => exact ⟨[], .nothing (Nat.le_refl _), by simp, by simp⟩
  | begins found goesOn =>
      have same := Story.id_of_find? found
      refine ⟨_, .sequence ?_ goesOn (Nat.lt_succ_self _) rfl (congrArg some same.symm), rfl, by simp⟩
      rw [← same] at found
      exact found
  | asks => exact ⟨[], .nothing (Nat.le_refl _), by simp, by simp⟩
  | offers => exact ⟨[], .nothing (Nat.le_refl _), by simp, by simp⟩

/-- A command adds what the entrance adds that it leads to, or itself if it is held up. -/
theorem begun_reply {staging : Staging} {id : String} {state before : State}
    {result : State × Entrance} (enters : Enters staging id before result)
    (notBefore : state.position.generation ≤ before.position.generation)
    (same : before.activities = state.activities) :
    ∃ added, Begun staging state.position (State.reply result).1.position added ∧
      (State.reply result).1.activities = state.activities ++ added := by
  obtain ⟨added, begun, activities, heldAlone⟩ := enters.begun
  have sinceState := begun.of_le notBefore
  rw [same] at activities
  obtain ⟨entered, entrance⟩ := result
  cases entrance with
  | made => exact ⟨added, sinceState, activities⟩
  | failed trouble => exact ⟨added, sinceState, activities⟩
  | held =>
      rw [heldAlone rfl, List.append_nil] at activities
      exact ⟨[.call false false], .held sinceState.le,
        congrArg (· ++ [Activity.call false false]) activities⟩

theorem Obeys.begun {staging : Staging} {state : State} {command : Command}
    {result : State × Reply} (obeys : Obeys staging state command result) :
    ∃ added, Begun staging state.position result.1.position added ∧
      result.1.activities = state.activities ++ added := by
  cases obeys with
  | starts silent enters => exact begun_reply enters (Nat.le_succ _) rfl
  | stops => exact ⟨[], .nothing (Nat.le_succ _), by simp⟩
  | ignores => exact ⟨[], .nothing (Nat.le_refl _), by simp⟩
  | misfits => exact ⟨[], .nothing (Nat.le_refl _), by simp⟩
  | rejects => exact ⟨[], .nothing (Nat.le_refl _), by simp⟩
  | refuses => exact ⟨[], .nothing (Nat.le_refl _), by simp⟩
  | moves leaves found silent enters => exact begun_reply enters (Nat.le_refl _) rfl
  | closes => exact ⟨[], .nothing (Nat.le_refl _), by simp⟩

theorem Advances.begun {staging : Staging} {sequence : Sequence} {generation : Nat} {state : State}
    {stage : Stage} {result : State × Stage}
    (advances : Advances staging sequence generation state stage result) :
    ∃ added, Begun staging state.position result.1.position added ∧
      result.1.activities = state.activities ++ added := by
  have unchanged : ∀ position : Position, position.generation = state.position.generation →
      ∃ added, Begun staging state.position position added ∧
        state.activities = state.activities ++ added := by
    intro position same
    exact ⟨[], .nothing (Nat.le_of_eq same.symm), by simp⟩
  cases advances with
  | leads current beyond unawaited next enters =>
      obtain ⟨added, begun, activities, -⟩ := enters.begun
      exact ⟨added, begun, activities⟩
  | presents current beyond unawaited next enters =>
      obtain ⟨added, begun, activities, -⟩ := enters.begun
      exact ⟨added, begun, activities⟩
  | fails current beyond unawaited next enters =>
      obtain ⟨rfl, -, -⟩ := enters.of_failed
      exact unchanged _ rfl
  | _ => exact unchanged _ rfl

/-! ## Where activities come from -/

/-- How an activity with a ticket comes out of one happening. -/
inductive Arises (staging : Staging) (state : State) (happening : Happening) (ticket : Nat) :
    Activity → Prop
  | kept {activity : Activity} (here : state.activities[ticket]? = some activity) :
      Arises staging state happening ticket activity
  | begun {activity : Activity} {added : List Activity}
      (begun : Begun staging state.position (state.after staging happening).position added)
      (member : activity ∈ added) (new : ticket = state.activities.length) :
      Arises staging state happening ticket activity
  | advanced {sequence : Sequence} {generation : Nat} {stage reached : Stage} {next : State}
      (here : state.activities[ticket]? = some (.performance sequence generation stage))
      (advances : Advances staging sequence generation state stage (next, reached)) :
      Arises staging state happening ticket (.performance sequence generation reached)
  | done (here : state.activities[ticket]? = some (.call true false)) :
      Arises staging state happening ticket (.call true true)
  | released {gate : Gate} {before activity : Activity}
      (here : state.activities[ticket]? = some before)
      (released : State.released? gate before = some activity) :
      Arises staging state happening ticket activity
  | awakened {before activity : Activity} (here : state.activities[ticket]? = some before)
      (awakened : State.awakened? state.clock before = some activity) :
      Arises staging state happening ticket activity
  | broken {before activity : Activity} (down : happening = .breakDown ticket)
      (here : state.activities[ticket]? = some before)
      (broken : State.broken? before = some activity) : Arises staging state happening ticket activity

private theorem arises_of_append {staging : Staging} {state : State} {happening : Happening}
    {added : List Activity}
    (begun : Begun staging state.position (state.after staging happening).position added) {ticket : Nat}
    {activity : Activity} (here : (state.activities ++ added)[ticket]? = some activity) :
    Arises staging state happening ticket activity := by
  by_cases old : ticket < state.activities.length
  · rw [List.getElem?_append_left old] at here
    exact .kept here
  · rw [List.getElem?_append_right (Nat.le_of_not_lt old)] at here
    have single : added.length ≤ 1 := by cases begun <;> simp
    have inside := (List.getElem?_eq_some_iff.mp here).1
    exact .begun begun (List.mem_of_getElem? here) (by omega)

theorem eq_of_getElem?_set {list : List Activity} {index : Nat} {activity other : Activity}
    (here : (list.set index activity)[index]? = some other) : other = activity := by
  have inside : index < list.length := by
    simpa using (List.getElem?_eq_some_iff.mp here).1
  rw [List.getElem?_set_self inside] at here
  exact (Option.some.inj here).symm

private theorem arises_of_modify {change : Activity → Option Activity} {list : List Activity}
    {ticket other : Nat} {activity : Activity}
    (here : (list.modify other fun before => (change before).getD before)[ticket]? = some activity) :
    list[ticket]? = some activity ∨
      other = ticket ∧ ∃ before, list[ticket]? = some before ∧ change before = some activity := by
  rw [List.getElem?_modify] at here
  cases found : list[ticket]? with
  | none => simp [found] at here
  | some before =>
      simp only [found, Option.map_eq_map, Option.map_some, Option.some.injEq] at here
      split at here
      · rename_i same
        cases changed : change before with
        | none => exact .inl (by simpa [changed] using here)
        | some after => exact .inr ⟨same, before, rfl, by simpa [changed] using here⟩
      · exact .inl (by rw [here])

theorem State.before_of_released? {gate : Gate} {before : Activity} {sequence : Sequence}
    {generation : Nat} {stage : Stage}
    (released : State.released? gate before = some (.performance sequence generation stage)) :
    (∃ index, before = .performance sequence generation (.printing index false) ∧
      stage = .printing index true) ∨
    (before = .performance sequence generation (.presenting false) ∧ stage = .presenting true) := by
  unfold State.released? at released
  split at released <;> grind

theorem State.before_of_awakened? {moment : Nat} {before : Activity} {sequence : Sequence}
    {generation : Nat} {stage : Stage}
    (awakened : State.awakened? moment before = some (.performance sequence generation stage)) :
    ∃ index due, before = .performance sequence generation (.resting index due) ∧
      due ≤ moment ∧ stage = .ready (index + 1) := by
  unfold State.awakened? at awakened
  split at awakened
  · rename_i other since index due
    split at awakened
    · rename_i early
      cases awakened
      exact ⟨index, due, rfl, early, rfl⟩
    · cases awakened
  · cases awakened

theorem State.before_of_broken? {before : Activity} {sequence : Sequence} {generation : Nat} {stage : Stage}
    (broken : State.broken? before = some (.performance sequence generation stage)) :
    (∃ index, before = .performance sequence generation (.printing index false)) ∧
      stage = .finished .brokenOff := by
  unfold State.broken? at broken
  split at broken
  · rename_i other since index
    cases broken
    exact ⟨⟨index, rfl⟩, rfl⟩
  · cases broken

namespace State

theorem arises_after (state : State) (staging : Staging) (happening : Happening) {ticket : Nat}
    {activity : Activity}
    (here : (state.after staging happening).activities[ticket]? = some activity) :
    Arises staging state happening ticket activity := by
  cases happening with
  | command command =>
      obtain ⟨added, begun, activities⟩ := (state.obeys_execute staging command).begun
      change (state.execute staging command).1.activities[ticket]? = some activity at here
      rw [activities] at here
      exact arises_of_append begun here
  | step stepped =>
      have goesOn := state.goesOn_goOn staging stepped
      rw [show state.goOn staging stepped = state.after staging (.step stepped) from rfl] at goesOn
      generalize outcome : state.after staging (.step stepped) = later at here goesOn
      cases goesOn with
      | @performs sequence generation stage reached next found advances =>
          obtain ⟨added, begun, activities⟩ := advances.begun
          change next.activities = state.activities ++ added at activities
          by_cases same : stepped = ticket
          · subst same
            rw [eq_of_getElem?_set here]
            exact .advanced found advances
          · have elsewhere : (state.activities ++ added)[ticket]? = some activity := by
              rw [← activities, ← here]
              exact (List.getElem?_set_ne same).symm
            refine arises_of_append ?_ elsewhere
            rw [outcome]
            exact begun
      | returns found =>
          by_cases same : stepped = ticket
          · subst same
            rw [eq_of_getElem?_set here]
            exact .done found
          · have elsewhere : state.activities[ticket]? = some activity := by
              rw [← here]
              exact (List.getElem?_set_ne same).symm
            exact .kept elsewhere
      | rests => exact .kept here
  | release gate other =>
      rcases arises_of_modify here with kept | ⟨-, before, found, released⟩
      · exact .kept kept
      · exact .released found released
  | wake other =>
      rcases arises_of_modify here with kept | ⟨-, before, found, awakened⟩
      · exact .kept kept
      · exact .awakened found awakened
  | breakDown other =>
      rcases arises_of_modify here with kept | ⟨rfl, before, found, broken⟩
      · exact .kept kept
      · exact .broken rfl found broken
  | clock moment => exact .kept here
  | turn gate opened =>
      cases gate with
      | print => exact .kept here
      | display => exact .kept here
  | fault => exact .kept here
  | take => exact .kept here
  | arrange queue => exact .kept here

/-! ## What stays -/

/-- Whatever happens, the activities are as many as before, and behind them what was begun. -/
theorem begun_after (state : State) (staging : Staging) (happening : Happening) :
    ∃ kept added, (state.after staging happening).activities = kept ++ added ∧
      kept.length = state.activities.length ∧
      Begun staging state.position (state.after staging happening).position added := by
  have unbegun : ∀ later : State, later.activities.length = state.activities.length →
      later.position = state.position → ∃ kept added, later.activities = kept ++ added ∧
        kept.length = state.activities.length ∧
        Begun staging state.position later.position added := by
    intro later sameLength samePosition
    refine ⟨later.activities, [], by simp, sameLength, ?_⟩
    rw [samePosition]
    exact .nothing (Nat.le_refl _)
  cases happening with
  | command command =>
      obtain ⟨added, begun, activities⟩ := (state.obeys_execute staging command).begun
      exact ⟨state.activities, added, activities, rfl, begun⟩
  | step ticket =>
      show ∃ kept added, (state.goOn staging ticket).activities = kept ++ added ∧ _ ∧
        Begun staging state.position (state.goOn staging ticket).position added
      have goesOn := state.goesOn_goOn staging ticket
      generalize state.goOn staging ticket = later at goesOn ⊢
      cases goesOn with
      | @performs sequence generation stage reached next here advances =>
          obtain ⟨added, begun, activities⟩ := advances.begun
          have inside := (List.getElem?_eq_some_iff.mp here).1
          change next.activities = state.activities ++ added at activities
          refine ⟨state.activities.set ticket (.performance sequence generation reached), added,
            ?_, List.length_set, begun⟩
          show next.activities.set ticket _ = _
          rw [activities, List.set_append_left ticket _ inside]
      | returns here => exact unbegun _ (by simp) rfl
      | rests => exact unbegun _ rfl rfl
  | release gate ticket => exact unbegun _ (by simp [after, rouseOne]) rfl
  | wake ticket => exact unbegun _ (by simp [after, rouseOne]) rfl
  | breakDown ticket => exact unbegun _ (by simp [after, rouseOne]) rfl
  | turn gate opened => cases gate <;> exact unbegun _ rfl rfl
  | clock moment => exact unbegun _ rfl rfl
  | fault => exact unbegun _ rfl rfl
  | take => exact unbegun _ rfl rfl
  | arrange queue => exact unbegun _ rfl rfl

/-- The generation in force never goes back. -/
theorem generation_le_after (state : State) (staging : Staging) (happening : Happening) :
    state.position.generation ≤ (state.after staging happening).position.generation := by
  obtain ⟨kept, added, -, -, begun⟩ := state.begun_after staging happening
  exact begun.le

theorem length_le_course (staging : Staging) (happenings : List Happening) (state : State) :
    state.activities.length ≤ (state.course staging happenings).activities.length := by
  refine course_induction
    (motive := fun later => state.activities.length ≤ later.activities.length) ?_
    (Nat.le_refl _) happenings
  intro later happening notFewer
  obtain ⟨kept, added, activities, asMany, -⟩ := later.begun_after staging happening
  rw [activities, List.length_append]
  omega

theorem generation_le_course (staging : Staging) (happenings : List Happening) (state : State) :
    state.position.generation ≤ (state.course staging happenings).position.generation :=
  course_induction (motive := fun later => state.position.generation ≤ later.position.generation)
    (fun later happening notBefore =>
      Nat.le_trans notBefore (later.generation_le_after staging happening))
    (Nat.le_refl _) happenings

/-- A sequence, on behalf of a generation, has come to a stage. -/
def Performs (state : State) (ticket : Nat) (sequence : Sequence) (generation : Nat)
    (stage : Stage) : Prop :=
  state.activities[ticket]? = some (.performance sequence generation stage)

/-- A ticket stands for one sequence at one stage. -/
theorem Performs.unique {state : State} {ticket : Nat} {sequence other : Sequence}
    {generation since : Nat} {stage reached : Stage}
    (performs : state.Performs ticket sequence generation stage)
    (again : state.Performs ticket other since reached) :
    other = sequence ∧ since = generation ∧ reached = stage := by
  have equal := again.symm.trans performs
  simpa only [Option.some.injEq, Activity.performance.injEq] using equal

theorem performs_of_outcome? {state : State} {ticket : Nat} {outcome : Outcome}
    (isOver : state.outcome? ticket = some outcome) :
    ∃ sequence generation, state.Performs ticket sequence generation (.finished outcome) := by
  unfold outcome? at isOver
  split at isOver
  · rename_i sequence generation reached here
    cases isOver
    exact ⟨sequence, generation, here⟩
  · cases isOver

theorem Performs.outcome?_eq {state : State} {ticket : Nat} {sequence : Sequence}
    {generation : Nat} {outcome : Outcome}
    (performs : state.Performs ticket sequence generation (.finished outcome)) :
    state.outcome? ticket = some outcome := by
  unfold outcome?
  rw [performs]

/-- A sequence that has ended had ended before, or was taken to its end, or the terminal broke down with what
it was to print. -/
theorem Performs.finished_before {staging : Staging} {state : State} {happening : Happening}
    {ticket : Nat} {sequence : Sequence} {generation : Nat} {outcome : Outcome}
    (performs : (state.after staging happening).Performs ticket sequence generation
      (.finished outcome)) :
    state.Performs ticket sequence generation (.finished outcome) ∨
      (∃ stage next, state.Performs ticket sequence generation stage ∧
        Advances staging sequence generation state stage (next, .finished outcome)) ∨
      happening = .breakDown ticket ∧ outcome = .brokenOff ∧
        ∃ index, state.Performs ticket sequence generation (.printing index false) := by
  cases arises_after state staging happening performs with
  | kept here => exact .inl here
  | begun begun member =>
      cases begun with
      | nothing => cases member
      | held => simp at member
      | sequence => simp at member
  | advanced here advances => exact .inr (.inl ⟨_, _, here, advances⟩)
  | released here released =>
      rcases before_of_released? released with ⟨_, _, impossible⟩ | ⟨_, impossible⟩
      · cases impossible
      · cases impossible
  | awakened here awakened =>
      obtain ⟨_, _, _, _, impossible⟩ := before_of_awakened? awakened
      cases impossible
  | broken down here broken =>
      obtain ⟨⟨index, rfl⟩, isOver⟩ := before_of_broken? broken
      cases isOver
      exact .inr (.inr ⟨down, rfl, index, here⟩)

/-- A change takes a sequence to another stage at most. -/
def KeepsSequences (change : Activity → Option Activity) : Prop :=
  ∀ {sequence generation stage activity}, change (.performance sequence generation stage) = some activity →
    ∃ reached, activity = .performance sequence generation reached

theorem keepsSequences_released? (gate : Gate) : KeepsSequences (released? gate) := by
  intro sequence generation stage activity released
  unfold released? at released
  split at released <;> grind

theorem keepsSequences_awakened? (moment : Nat) : KeepsSequences (awakened? moment) := by
  intro sequence generation stage activity awakened
  unfold awakened? at awakened
  split at awakened <;> grind

theorem keepsSequences_broken? : KeepsSequences broken? := by
  intro sequence generation stage activity broken
  unfold broken? at broken
  split at broken <;> grind

theorem performs_of_modify {change : Activity → Option Activity} (keeps : KeepsSequences change)
    {list : List Activity} {ticket : Nat} {sequence : Sequence} {generation : Nat} {stage : Stage}
    (other : Nat) (here : list[ticket]? = some (.performance sequence generation stage)) :
    ∃ reached, (list.modify other fun before => (change before).getD before)[ticket]? =
      some (.performance sequence generation reached) := by
  rw [List.getElem?_modify, here]
  split
  · cases changed : change (.performance sequence generation stage) with
    | none => exact ⟨stage, by simp [changed]⟩
    | some activity =>
        obtain ⟨reached, rfl⟩ := keeps changed
        exact ⟨reached, by simp [changed]⟩
  · exact ⟨stage, rfl⟩

/-- A sequence keeps its ticket and its generation. -/
theorem performs_after {state : State} {ticket : Nat} {sequence : Sequence} {generation : Nat}
    {stage : Stage} (performs : state.Performs ticket sequence generation stage) (staging : Staging)
    (happening : Happening) :
    ∃ reached, (state.after staging happening).Performs ticket sequence generation reached := by
  have extended : ∀ {list added : List Activity}, list = state.activities ++ added →
      list[ticket]? = some (.performance sequence generation stage) := by
    intro list added equal
    rw [equal, List.getElem?_append_left (List.getElem?_eq_some_iff.mp performs).1]
    exact performs
  cases happening with
  | command command =>
      obtain ⟨added, -, activities⟩ := (state.obeys_execute staging command).begun
      exact ⟨stage, extended activities⟩
  | step stepped =>
      change ∃ reached, (state.goOn staging stepped).Performs ticket sequence generation reached
      have goesOn := state.goesOn_goOn staging stepped
      generalize state.goOn staging stepped = later at goesOn ⊢
      cases goesOn with
      | @performs other since before reached next found advances =>
          obtain ⟨added, -, activities⟩ := advances.begun
          have inNext := extended activities
          by_cases same : stepped = ticket
          · subst same
            obtain ⟨rfl, rfl, -⟩ := performs.unique found
            exact ⟨reached, List.getElem?_set_self (List.getElem?_eq_some_iff.mp inNext).1⟩
          · exact ⟨stage, (List.getElem?_set_ne same).trans inNext⟩
      | returns found =>
          have different : stepped ≠ ticket := by
            rintro rfl
            have equal := found.symm.trans performs
            simp at equal
          exact ⟨stage, (List.getElem?_set_ne different).trans performs⟩
      | rests => exact ⟨stage, performs⟩
  | release gate other => exact performs_of_modify (keepsSequences_released? gate) other performs
  | wake other => exact performs_of_modify (keepsSequences_awakened? state.clock) other performs
  | breakDown other => exact performs_of_modify keepsSequences_broken? other performs
  | turn gate opened =>
      cases gate with
      | print => exact ⟨stage, performs⟩
      | display => exact ⟨stage, performs⟩
  | clock moment => exact ⟨stage, performs⟩
  | fault => exact ⟨stage, performs⟩
  | take => exact ⟨stage, performs⟩
  | arrange queue => exact ⟨stage, performs⟩

theorem performs_course {staging : Staging} {ticket : Nat} {sequence : Sequence} {generation : Nat}
    {stage : Stage} (happenings : List Happening) {state : State}
    (performs : state.Performs ticket sequence generation stage) :
    ∃ reached, (state.course staging happenings).Performs ticket sequence generation reached :=
  course_induction
    (motive := fun later => ∃ reached, later.Performs ticket sequence generation reached)
    (fun _ happening ⟨_, reached⟩ => performs_after reached staging happening) ⟨stage, performs⟩
    happenings

/-! ## A sequence and what is done to it -/

/-- What a sequence is after its own step is what the step made of it. -/
theorem Performs.own_step {staging : Staging} {state : State} {ticket : Nat} {sequence : Sequence}
    {generation : Nat} {stage : Stage}
    (performs : (state.after staging (.step ticket)).Performs ticket sequence generation stage) :
    ∃ earlier next, state.Performs ticket sequence generation earlier ∧
      Advances staging sequence generation state earlier (next, stage) ∧
      state.after staging (.step ticket) =
        next.replace ticket (.performance sequence generation stage) := by
  change (state.goOn staging ticket).Performs ticket sequence generation stage at performs
  show ∃ earlier next, _ ∧ _ ∧ state.goOn staging ticket = _
  have goesOn := state.goesOn_goOn staging ticket
  generalize state.goOn staging ticket = later at goesOn performs ⊢
  cases goesOn with
  | @performs other since earlier reached next here advances =>
      have equal := eq_of_getElem?_set performs
      simp only [Activity.performance.injEq] at equal
      obtain ⟨rfl, rfl, rfl⟩ := equal
      exact ⟨earlier, next, here, advances, rfl⟩
  | returns here => cases eq_of_getElem?_set performs
  | rests noPerformance => exact absurd performs (noPerformance _ _ _)

/-- How a stage comes of another without a step of the sequence. -/
inductive Roused (clock : Nat) : Stage → Stage → Prop
  | kept (stage : Stage) : Roused clock stage stage
  | printed (index : Nat) : Roused clock (.printing index false) (.printing index true)
  | presented : Roused clock (.presenting false) (.presenting true)
  | rested {index due : Nat} (early : due ≤ clock) :
      Roused clock (.resting index due) (.ready (index + 1))
  | broken (index : Nat) : Roused clock (.printing index false) (.finished .brokenOff)

private theorem roused_of_modify {list : List Activity} (change : Activity → Option Activity)
    {clock : Nat} (rouses : ∀ before sequence generation stage,
      change before = some (.performance sequence generation stage) →
        ∃ earlier, before = .performance sequence generation earlier ∧ Roused clock earlier stage)
    {ticket other : Nat} {sequence : Sequence} {generation : Nat} {stage : Stage}
    (here : (list.modify other fun before => (change before).getD before)[ticket]? =
      some (.performance sequence generation stage)) :
    ∃ earlier, list[ticket]? = some (.performance sequence generation earlier) ∧
      Roused clock earlier stage := by
  rcases arises_of_modify here with same | ⟨-, before, found, changed⟩
  · exact ⟨stage, same, .kept stage⟩
  · obtain ⟨earlier, rfl, roused⟩ := rouses before sequence generation stage changed
    exact ⟨earlier, found, roused⟩

private theorem performs_of_begun {staging : Staging} {state later : State} {added : List Activity}
    (begun : Begun staging state.position later.position added) {ticket : Nat} {sequence : Sequence}
    {generation : Nat} {stage : Stage}
    (here : (state.activities ++ added)[ticket]? = some (.performance sequence generation stage)) :
    state.Performs ticket sequence generation stage ∨
      (ticket = state.activities.length ∧ stage = .ready 0) := by
  by_cases old : ticket < state.activities.length
  · rw [List.getElem?_append_left old] at here
    exact .inl here
  · rw [List.getElem?_append_right (Nat.le_of_not_lt old)] at here
    have single : added.length ≤ 1 := by cases begun <;> simp
    have inside := (List.getElem?_eq_some_iff.mp here).1
    have member := List.mem_of_getElem? here
    cases begun with
    | nothing => cases member
    | held => simp at member
    | sequence =>
        simp only [List.mem_singleton, Activity.performance.injEq] at member
        exact .inr ⟨by omega, member.2.2⟩

/-- A command leaves the sequences of a session as they are. -/
theorem Performs.before_command {staging : Staging} {state : State} {command : Command} {ticket : Nat}
    {sequence : Sequence} {generation : Nat} {stage : Stage}
    (performs : (state.after staging (.command command)).Performs ticket sequence generation stage) :
    state.Performs ticket sequence generation stage ∨
      (ticket = state.activities.length ∧ stage = .ready 0) := by
  obtain ⟨added, begun, activities⟩ := (state.obeys_execute staging command).begun
  refine performs_of_begun begun ?_
  rw [← activities]
  exact performs

/-- Without a step of its own, a sequence is at most roused, unless it is begun. -/
theorem Performs.elsewhere {staging : Staging} {state : State} {happening : Happening} {ticket : Nat}
    {sequence : Sequence} {generation : Nat} {stage : Stage}
    (performs : (state.after staging happening).Performs ticket sequence generation stage)
    (another : happening ≠ .step ticket) :
    (∃ earlier, state.Performs ticket sequence generation earlier ∧
      Roused state.clock earlier stage) ∨
      (ticket = state.activities.length ∧ stage = .ready 0) := by
  have kept : state.Performs ticket sequence generation stage →
      ∃ earlier, state.Performs ticket sequence generation earlier ∧ Roused state.clock earlier stage :=
    fun before => ⟨stage, before, .kept stage⟩
  cases happening with
  | command command => exact performs.before_command.imp_left kept
  | step stepped =>
      have different : stepped ≠ ticket := fun same => another (congrArg Happening.step same)
      change (state.goOn staging stepped).Performs ticket sequence generation stage at performs
      have goesOn := state.goesOn_goOn staging stepped
      generalize state.goOn staging stepped = later at goesOn performs
      cases goesOn with
      | @performs other since earlier reached next here advances =>
          obtain ⟨added, begun, activities⟩ := advances.begun
          have inNext := (List.getElem?_set_ne different).symm.trans performs
          change next.activities = state.activities ++ added at activities
          rw [activities] at inNext
          exact (performs_of_begun begun inNext).imp_left kept
      | returns here => exact .inl (kept ((List.getElem?_set_ne different).symm.trans performs))
      | rests => exact .inl (kept performs)
  | release gate other =>
      refine .inl (roused_of_modify (released? gate) ?_ performs)
      intro before sequence generation stage released
      rcases before_of_released? released with ⟨index, rfl, rfl⟩ | ⟨rfl, rfl⟩
      · exact ⟨_, rfl, .printed index⟩
      · exact ⟨_, rfl, .presented⟩
  | wake other =>
      refine .inl (roused_of_modify (awakened? state.clock) ?_ performs)
      intro before sequence generation stage awakened
      obtain ⟨index, due, rfl, early, rfl⟩ := before_of_awakened? awakened
      exact ⟨_, rfl, .rested early⟩
  | breakDown other =>
      refine .inl (roused_of_modify broken? ?_ performs)
      intro before sequence generation stage broken
      obtain ⟨⟨index, rfl⟩, rfl⟩ := before_of_broken? broken
      exact ⟨_, rfl, .broken index⟩
  | turn gate opened =>
      cases gate with
      | print => exact .inl (kept performs)
      | display => exact .inl (kept performs)
  | clock moment => exact .inl (kept performs)
  | fault => exact .inl (kept performs)
  | take => exact .inl (kept performs)
  | arrange queue => exact .inl (kept performs)

end State

end NarrativePlayer.Session
