import NarrativePlayer.Proofs.Review.Prompts
import NarrativePlayer.Proofs.Session.RefusedCommands
import NarrativePlayer.Proofs.Story.Assignments

/-!
Contract: how a session judges an answer.

An answer is judged by nothing but the length of what the field keeps of it, cut to what the field lets
through. Owns that the guards decide on that length alone, that what they saw is what every action stores
that takes the answer, and that a refusal quotes the first guard that asks for more. The least length of the
field itself has no part in any of it. Does not own which scenes ask for answers, nor what a session waits
for.
-/

namespace NarrativePlayer

/-- The actions that are applied when a scene is entered. -/
def Scene.entryActions : Scene → List Action
  | .sequence body => if body.terminal then [] else body.actions
  | _ => []

/-- The same question, but for the least length of its field. -/
def Question.withLeast (question : Question) (least : Option Nat) : Question :=
  { question with field := { question.field with minLength := least } }

namespace Session

theorem Enters.store_eq {staging : Staging} {id : String} {state : State} {result : State × Entrance}
    (enters : Enters staging id state result) {scene : Scene}
    (found : staging.story.find? id = some scene) :
    result.1.position.store = applyActions none scene.entryActions state.position.store := by
  cases enters with
  | undeclared absent => cases absent.symm.trans found
  | ends here terminal =>
      cases here.symm.trans found
      rw [Scene.entryActions, if_pos terminal]
      rfl
  | begins here goesOn =>
      cases here.symm.trans found
      simp [Scene.entryActions, goesOn]
  | asks here =>
      cases here.symm.trans found
      rfl
  | offers here =>
      cases here.symm.trans found
      rfl

namespace State

variable {staging : Staging} {state : State}

theorem store_follow {target : String} {scene : Scene} (submitted : Option String)
    (actions : List Action) (found : staging.story.find? target = some scene) :
    (state.follow staging submitted actions target).1.position.store =
      applyActions none scene.entryActions (applyActions submitted actions state.position.store) := by
  simp only [follow, Story.find_of_some found]
  rw [position_reply, (enters_enter _ staging target).store_eq found, act_eq]
  rfl

/-- What an answer that is accepted leaves of the variables: its actions come first, and then those of the
scene that it leads to. -/
theorem store_of_submitted {id raw : String} {question : Question} {transition : Transition} {scene : Scene}
    (awaited : state.position.pendingFor? .answer = some id)
    (found : staging.story.find? id = some (.question question))
    (taken : question.submission? = some transition)
    (passed : complaint? transition.guards (question.field.normalize raw) = none)
    (here : staging.story.find? transition.target = some scene) :
    (state.execute staging (.submit raw)).1.position.store =
      applyActions none scene.entryActions
        (applyActions (some (question.field.normalize raw)) transition.actions state.position.store) := by
  simp only [execute, submit, awaited, Story.find_of_some found, bind, Except.bind,
    Scene.asQuestion, taken, passed]
  exact store_follow _ _ here

/-! ## Judging by length -/

/-- How an answer is judged that is submitted to a question: `kept` is what the field keeps of it, and
`answer` is as much of that as the field lets through. -/
structure JudgedByLength (staging : Staging) (state : State) (field : AnswerField)
    (transition : Transition) (raw kept answer : String) : Prop where
  keeps : ∀ text, field.Keeps raw text ↔ text = kept
  begins : answer.toList <+: kept.toList
  length : answer.length = field.lengthLeft kept.length
  /-- It is accepted if no guard asks for more characters than are left. -/
  accepted : Accepts staging state (.submit raw) transition.target ↔
    ∀ least, .minLength least ∈ transition.guards → least ≤ field.lengthLeft kept.length
  /-- What every action of a known kind sets is reported with this answer, and carried out before the
  target applies its own actions. -/
  stored : Accepts staging state (.submit raw) transition.target → ∃ report scene,
    List.Forall₂ (Action.IsReportedAs (some answer)) (transition.actions.filter (· ≠ .unknown)) report ∧
      staging.story.find? transition.target = some scene ∧
      (state.execute staging (.submit raw)).1.position.store =
        applyActions none scene.entryActions (report.foldl Assignment.apply state.position.store)
  /-- Else the terminal hears once what the first guard asks for that asks for more, and nothing else
  happens. -/
  refused : ¬ Accepts staging state (.submit raw) transition.target → ∃ earlier least later,
    transition.guards = earlier ++ .minLength least :: later ∧
      (∀ other, .minLength other ∈ earlier → other ≤ field.lengthLeft kept.length) ∧
      field.lengthLeft kept.length < least ∧
      (state.execute staging (.submit raw)).2 = .done ∧
      Unmoved state (state.execute staging (.submit raw)).1
        [.invalid s!"Please enter at least {least} characters."]

theorem judgedByLength {id : String} {question : Question} {transition : Transition}
    (awaited : state.position.pendingFor? .answer = some id)
    (found : staging.story.find? id = some (.question question))
    (taken : question.submission? = some transition)
    (declared : staging.story.declares transition.target = true) (raw : String) :
    ∃ kept answer, JudgedByLength staging state question.field transition raw kept answer := by
  obtain ⟨kept, keeps⟩ : ∃ kept, ∀ text, question.field.Keeps raw text ↔ text = kept :=
    ⟨_, fun _ => AnswerField.keeps_iff⟩
  obtain ⟨begins, length⟩ := question.field.normalize_cuts ((keeps kept).mpr rfl)
  have accepts_iff : Accepts staging state (.submit raw) transition.target ↔
      complaint? transition.guards (question.field.normalize raw) = none :=
    accepts_submit_iff awaited found taken declared
  refine ⟨kept, question.field.normalize raw, keeps, begins, length, ?_, fun accepts => ?_,
    fun refuses => ?_⟩
  · rw [accepts_iff, complaint?_eq_none_iff, length]
  · have passed := accepts_iff.mp accepts
    obtain ⟨scene, here⟩ := Story.exists_find?_of_declares declared
    refine ⟨_, scene, forall₂_assignments _ transition.actions, here, ?_⟩
    rw [foldl_assignments]
    exact store_of_submitted awaited found taken passed here
  · rw [accepts_iff] at refuses
    obtain ⟨message, complaint⟩ := Option.ne_none_iff_exists'.mp refuses
    obtain ⟨earlier, least, later, guards, silent, short, rfl⟩ := complaint?_eq_some_iff.mp complaint
    rw [complaint?_eq_none_iff, length] at silent
    rw [length] at short
    obtain ⟨done, unmoved⟩ := unmoved_of_rejects (.guarded awaited found taken complaint)
    exact ⟨earlier, least, later, guards, silent, short, done, unmoved⟩

/-- The least length of a field makes no difference to what is accepted, wherever the question is asked. -/
theorem accepts_iff_of_least {id raw : String} {question : Question} {transition : Transition}
    (awaited : state.position.pendingFor? .answer = some id)
    (found : staging.story.find? id = some (.question question))
    (taken : question.submission? = some transition)
    (declared : staging.story.declares transition.target = true) {least : Option Nat}
    {elsewhere : Staging} {asking : State}
    (awaitedThere : asking.position.pendingFor? .answer = some id)
    (foundThere : elsewhere.story.find? id = some (.question (question.withLeast least)))
    (declaredThere : elsewhere.story.declares transition.target = true) :
    Accepts elsewhere asking (.submit raw) transition.target ↔
      Accepts staging state (.submit raw) transition.target := by
  rw [accepts_submit_iff awaitedThere foundThere taken declaredThere,
    accepts_submit_iff awaited found taken declared]
  rfl

theorem Steady.exists_question (steady : state.Steady staging.story)
    (asks : state.position.mode = .waiting .answer) :
    ∃ id question, state.position.pending = some ⟨.answer, id⟩ ∧
      staging.story.find? id = some (.question question) := by
  have waits : state.position.pending.isSome = true := by
    rw [steady.coherent.inStep, asks]
    rfl
  obtain ⟨⟨interaction, id⟩, pending⟩ := Option.isSome_iff_exists.mp waits
  obtain ⟨mode, -, scene, found, offered⟩ := steady.coherent.awaited pending
  cases asks.symm.trans mode
  cases scene with
  | question question => exact ⟨id, question, pending, found⟩
  | sequence body => cases offered
  | choice body => cases offered

/-- Whenever a session waits for an answer, it waits with a question, and if the transition that the question
takes on answers leads to a scene that is declared, then every answer is judged by the length of what the
field keeps of it. So there is an answer that is accepted exactly if no guard asks for more characters than
the field lets through; and whatever least length the field has, in this story or another, the same answers
are accepted. -/
theorem answers_judged_by_length (staging : Staging) {initial : State}
    (opened : opening staging.story = .ok initial) (happenings : List Happening)
    (asks : (initial.course staging happenings).position.mode = .waiting .answer) :
    let state := initial.course staging happenings
    ∃ id question, state.position.pending = some ⟨.answer, id⟩ ∧
      staging.story.find? id = some (.question question) ∧
      ∀ transition, question.submission? = some transition →
        staging.story.declares transition.target = true →
          (∀ raw, ∃ kept answer,
            JudgedByLength staging state question.field transition raw kept answer) ∧
          ((∃ raw, Accepts staging state (.submit raw) transition.target) ↔
            ∀ least, .minLength least ∈ transition.guards →
              ∀ most ∈ question.field.maxLength, least ≤ most) ∧
          ∀ least (elsewhere : Staging) (asking : State),
            asking.position.pendingFor? .answer = some id →
            elsewhere.story.find? id = some (.question (question.withLeast least)) →
            elsewhere.story.declares transition.target = true →
            ∀ raw, Accepts elsewhere asking (.submit raw) transition.target ↔
              Accepts staging state (.submit raw) transition.target := by
  intro state
  have steady : state.Steady staging.story := steady_course opened happenings
  obtain ⟨id, question, pending, found⟩ := steady.exists_question asks
  have awaited : state.position.pendingFor? .answer = some id := by simp [Position.pendingFor?, pending]
  refine ⟨id, question, pending, found, fun transition taken declared => ⟨?_, ?_, ?_⟩⟩
  · exact judgedByLength awaited found taken declared
  · simp only [accepts_submit_iff awaited found taken declared]
    exact AnswerField.exists_passing_iff
  · intro least elsewhere asking awaitedThere foundThere declaredThere raw
    exact accepts_iff_of_least awaited found taken declared awaitedThere foundThere declaredThere

end State

end Session

/-- A question whose field trims, lets five characters through and speaks of nine, and whose guards ask for
two and for four. -/
def Story.strict : Story where
  id := "strict"
  version := "1"
  store := Table.empty
  start := "ask"
  scenes := [
    .question ⟨"ask", ⟨"name", "Name", none, some 9, some 5, true⟩,
      [⟨submitEvent, [.unknown, .minLength 2, .minLength 4], [.set "name" (some "nobody") true], "end"⟩]⟩,
    .sequence ⟨"end", [], [], none, none, Table.empty, true⟩]

namespace Session.State

/-- A long answer is cut and accepted, and a short one is refused by the second of the guards that ask for
characters. -/
theorem strict_judges :
    let staging : Staging := ⟨.strict, .silent⟩
    let asking := (initial Table.empty).course staging [.command .start]
    asking.position.mode = .waiting .answer ∧
      Accepts staging asking (.submit " Bartholomew ") "end" ∧
      Unmoved asking (asking.execute staging (.submit "  Al ")).1
        [.invalid "Please enter at least 4 characters."] := by
  intro staging asking
  have opened : opening staging.story = .ok (initial Table.empty) := rfl
  have asks : asking.position.mode = .waiting .answer := by decide +kernel
  obtain ⟨id, question, pending, found, judges⟩ :=
    answers_judged_by_length staging opened [.command .start] asks
  have atAsk : asking.position.pending = some ⟨.answer, "ask"⟩ := by decide +kernel
  cases atAsk.symm.trans pending
  cases found
  obtain ⟨judged, -, -⟩ := judges _ rfl (by decide)
  have asked : ∀ least, Guard.minLength least ∈ [.unknown, .minLength 2, .minLength 4] →
      least = 2 ∨ least = 4 := by
    intro least member
    simpa using member
  refine ⟨asks, ?_, ?_⟩
  · obtain ⟨kept, answer, long⟩ := judged " Bartholomew "
    cases (long.keeps "Bartholomew").mp (AnswerField.keeps_iff.mpr (by decide +kernel))
    refine long.accepted.mpr fun least member => ?_
    have within : least ≤ 5 := by
      have among := asked least member
      omega
    exact within
  · obtain ⟨kept, answer, short⟩ := judged "  Al "
    cases (short.keeps "Al").mp (AnswerField.keeps_iff.mpr (by decide +kernel))
    have refuses : ¬ Accepts staging asking (.submit "  Al ") "end" := by
      intro accepts
      have within : 4 ≤ 2 := short.accepted.mp accepts 4 (by simp)
      omega
    obtain ⟨earlier, least, later, guards, -, more, -, unmoved⟩ := short.refused refuses
    have member : .minLength least ∈ earlier ++ .minLength least :: later := by simp
    rw [← guards] at member
    have exceeds : 2 < least := more
    have isFour : least = 4 := by
      have among := asked least member
      omega
    rw [isFour] at unmoved
    exact unmoved

end Session.State

end NarrativePlayer
