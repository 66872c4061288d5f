import NarrativePlayer.Proofs.Session.EndedSession
import NarrativePlayer.Proofs.Session.RefusedCommands
import NarrativePlayer.Proofs.Session.SceneMoves

/-!
Contract: what the findings on dead ends are worth in a running story.

A review looks at every declaration, and a session plays the last one of every id. Owns what such a finding
says of a session, that it holds in every course if it is about the declaration that is played, and that
any other is accompanied by the finding that its id is declared more than once. A finding of that kind can
be false, and a story with one is given here.
-/

namespace NarrativePlayer

/-! ## The declarations that findings are about -/

namespace Review

/-- A declaration that another one has taken the place of is reported as repeated. -/
theorem repeated_of_shadowed {story : Story} {scene played : Scene} (here : scene ∈ story.scenes)
    (found : story.find? scene.id = some played) (shadowed : played ≠ scene) :
    .repeatedId scene.id ∈ repeatedIds story := by
  have twice : 2 ≤ (story.scenes.map Scene.id).count scene.id := by
    have other : played ∈ story.scenes.erase scene :=
      (List.mem_erase_of_ne shadowed).mpr (Story.mem_scenes_of_find? found)
    have split := (List.perm_cons_erase here).map Scene.id
    have once : 0 < ((story.scenes.erase scene).map Scene.id).count scene.id := by
      rw [List.count_pos_iff, ← Story.id_of_find? found]
      exact List.mem_map_of_mem other
    rw [split.count_eq, List.map_cons, List.count_cons_self]
    omega
  refine List.mem_map_of_mem (mem_repeatedAfter (Nat.zero_le 1) ?_)
  rw [List.count_nil, Nat.zero_add]
  exact twice

/-- What a review finds on the ways through a story, unless that an id is not reached, is found on dead
ends. -/
theorem mem_deadEnds_of_mem_review {settings : Settings} {story : Story} {finding : Finding}
    (member : finding ∈ review settings story) (flow : finding.topic = .flow)
    (other : ∀ id start, finding ≠ .unreachable id start) : finding ∈ deadEnds story := by
  obtain ⟨-, checked⟩ := mem_checkFlow_of_mem_review member flow
  rcases of_mem_checkFlow checked with ⟨id, -, unreached⟩ | ends
  · exact absurd unreached (other id story.start)
  · exact ends

/-- Whether a finding on a dead end is about a scene that an id stands for. -/
def Finding.IsPlayed (story : Story) (finding : Finding) : Prop :=
  ∃ id scene, story.find? id = some scene ∧ finding ∈ deadEnd scene ++ neverTaken scene

/-- A finding on dead ends is about a scene that is played, or its id is reported as repeated. -/
theorem played_or_repeated {story : Story} {finding : Finding} (member : finding ∈ deadEnds story) :
    finding.IsPlayed story ∨ ∃ id, finding.scene? = some id ∧ .repeatedId id ∈ repeatedIds story := by
  obtain ⟨scene, here, said⟩ := List.mem_flatMap.mp member
  have declared : story.declares scene.id = true :=
    List.any_eq_true.mpr ⟨scene, here, decide_eq_true rfl⟩
  obtain ⟨played, found⟩ := Story.exists_find?_of_declares declared
  by_cases same : played = scene
  · subst same
    exact .inl ⟨_, played, found, said⟩
  · exact .inr ⟨scene.id, (isSaidOf_of_mem said).scene?_eq, repeated_of_shadowed here found same⟩

end Review

/-- Whether a scene asks for an answer or a choice, and none leads out of it. -/
def Scene.IsShut : Scene → Prop
  | .question body => body.submission? = none
  | .choice body => body.offers = []
  | .sequence _ => False

namespace Session

/-- While a session waits with a scene that nothing leads out of, all commands that answer something are
ignored. -/
theorem ignores_of_shut {story : Story} {position : Position} {interaction : Interaction} {id : String}
    {scene : Scene} (pending : position.pending = some ⟨interaction, id⟩)
    (found : story.find? id = some scene) (offered : interaction.IsOfferedBy scene)
    (shut : scene.IsShut) {command : Command} (answers : command.interaction?.isSome = true) :
    Ignores story position command := by
  obtain ⟨asked, answered⟩ := Option.isSome_iff_exists.mp answers
  by_cases same : interaction = asked
  · subst same
    have awaited : position.pendingFor? interaction = some id := by simp [Position.pendingFor?, pending]
    cases scene with
    | sequence body => cases shut
    | question body =>
        cases interaction with
        | answer =>
            cases command with
            | submit raw => exact .noSubmission awaited found shut
            | _ => cases answered
        | _ => cases offered
    | choice body =>
        cases interaction with
        | choice =>
            cases command with
            | choose offer =>
                have unknown : body.offer? offer = none := by
                  rw [Choice.offer?, show body.offers = [] from shut]
                  rfl
                exact .unknownOffer awaited found unknown
            | _ => cases answered
        | _ => cases offered
  · exact .unawaited answered (by simp [Position.pendingFor?, pending, same])

namespace State

/-! ## What a finding says of a session -/

section

variable (staging : Staging) (state : State)

/-- A session that waits with a scene waits with it for good, and leaves the terminal alone, until it is
started or stopped. -/
def StaysAt (id : String) : Prop :=
  ∀ interaction, state.position.pending = some ⟨interaction, id⟩ →
    ∀ further, .command .start ∉ further → .command .stop ∉ further →
      Undisturbed state (state.course staging further)

/-- If a session waits with a scene, Enter ends the story, and changes nothing else of the position. -/
def EndsAt (id : String) : Prop :=
  ∀ interaction, state.position.pending = some ⟨interaction, id⟩ →
    (state.execute staging .enter).2 = .done ∧
      (state.execute staging .enter).1.position = { state.position with mode := .ended, pending := none }

/-- No sequence with an id leads on by itself, and a session that stands at such a sequence remains there
until it is told something. -/
def RemainsAt (id : String) : Prop :=
  (∀ ticket sequence generation stage, state.Performs ticket sequence generation stage →
    sequence.id = id → entered staging state (.step ticket) = []) ∧
  (state.position.current = some id → ∀ happening, happening.isUnbidden = true →
    entered staging state happening = [] ∧ (state.after staging happening).position.current = some id)

/-- Whether what a finding on a dead end says is true of a session. The others say nothing here. -/
def BearsOut : Review.Finding → Prop
  | .noSubmission id => state.StaysAt staging id
  | .noOffers id => state.StaysAt staging id
  | .noAcknowledgement id => state.EndsAt staging id
  | .nextNeverTaken id _ _ => state.RemainsAt staging id
  | _ => True

end

variable {staging : Staging} {state : State}

/-! ## Scenes that nothing leads out of -/

theorem Steady.undisturbed_of_shut (steady : state.Steady staging.story) {interaction : Interaction}
    {id : String} {scene : Scene} (pending : state.position.pending = some ⟨interaction, id⟩)
    (found : staging.story.find? id = some scene) (shut : scene.IsShut) {happening : Happening}
    (unstarted : happening ≠ .command .start) (unstopped : happening ≠ .command .stop) :
    Undisturbed state (state.after staging happening) := by
  obtain ⟨mode, -, offering, here, offered⟩ := steady.coherent.awaited pending
  cases found.symm.trans here
  have still : state.position.mode ≠ .running := by
    rw [mode]
    exact Mode.noConfusion
  cases happening with
  | command told =>
      have answers : told.interaction?.isSome = true := by
        cases told with
        | start => exact absurd rfl unstarted
        | stop => exact absurd rfl unstopped
        | _ => rfl
      have ignored := ignores_of_shut pending found offered shut answers
      obtain ⟨-, unmoved⟩ := unmoved_of_ignores ignored
      exact ⟨unmoved.position, unmoved.calls.trans (List.append_nil _)⟩
  | _ => exact steady.undisturbed_unbidden still rfl

theorem Steady.staysAt_of_shut (startDeclared : staging.story.declares staging.story.start = true)
    (steady : state.Steady staging.story) {id : String} {scene : Scene}
    (found : staging.story.find? id = some scene) (shut : scene.IsShut) :
    state.StaysAt staging id := by
  intro interaction pending further
  induction further generalizing state with
  | nil => exact fun _ _ => .refl state
  | cons happening rest inductionHypothesis =>
      intro unstarted unstopped
      rw [List.mem_cons, not_or] at unstarted unstopped
      have undisturbed := steady.undisturbed_of_shut pending found shut (Ne.symm unstarted.1)
        (Ne.symm unstopped.1)
      have pendingAfter : (state.after staging happening).position.pending = some ⟨interaction, id⟩ := by
        rw [undisturbed.position, pending]
      exact undisturbed.trans
        (inductionHypothesis (steady.after startDeclared happening) pendingAfter unstarted.2 unstopped.2)

/-! ## Sequences that wait -/

theorem Steady.endsAt (steady : state.Steady staging.story) {id : String} {body : Sequence}
    (found : staging.story.find? id = some (.sequence body))
    (noWay : body.events.find? enterEvent = none) : state.EndsAt staging id := by
  intro interaction pending
  obtain ⟨-, -, scene, here, offered⟩ := steady.coherent.awaited pending
  cases found.symm.trans here
  cases interaction with
  | answer => cases offered
  | choice => cases offered
  | enter =>
      have awaited : state.position.pendingFor? .enter = some id := by simp [Position.pendingFor?, pending]
      simp only [execute, acknowledge, awaited, Story.find_of_some found, bind, Except.bind,
        Scene.asSequence, noWay, note_eq, place, announce_eq, Position.release, and_self]

/-- A sequence that waits if it is in force at its end enters no scene. -/
theorem Steady.visits_advance_of_awaits (steady : state.Steady staging.story) {ticket : Nat}
    {sequence : Sequence} {generation : Nat} {stage reached : Stage} {next : State}
    (performs : state.Performs ticket sequence generation stage)
    (advances : Advances staging sequence generation state stage (next, reached))
    (awaits : state.position.generation = generation → stage.isUnderWay = true →
      sequence.awaits.isSome = true) : Visits staging.story state next none := by
  have awaiting : ∀ {index}, stage = .ready index → state.position.generation = generation →
      sequence.awaits ≠ none := by
    intro index ready current
    subst ready
    exact Option.isSome_iff_ne_none.mp (awaits current rfl)
  cases advances with
  | givesUp stale silent => exact .of_silent _ silent rfl rfl
  | givesUpPrinted stale here silent => exact .of_silent _ silent rfl rfl
  | prints current here intact silent => exact .of_call silent rfl rfl rfl rfl
  | breaksOff current here faulty silent => exact .of_silent _ silent rfl rfl
  | waits current beyond awaited silent =>
      subst current
      exact .of_call silent rfl rfl rfl (steady.underWay performs rfl).2.symm
  | ends current beyond unawaited => exact absurd unawaited (awaiting rfl current)
  | leads current beyond unawaited => exact absurd unawaited (awaiting rfl current)
  | presents current beyond unawaited => exact absurd unawaited (awaiting rfl current)
  | fails current beyond unawaited => exact absurd unawaited (awaiting rfl current)
  | _ => exact .of_silent _ .nil rfl rfl

theorem Steady.visits_step_of_awaits (steady : state.Steady staging.story) {ticket : Nat}
    (awaits : ∀ {sequence generation stage}, state.Performs ticket sequence generation stage →
      state.position.generation = generation → stage.isUnderWay = true → sequence.awaits.isSome = true) :
    Visits staging.story state (state.after staging (.step ticket)) none := by
  show Visits staging.story state (state.goOn staging ticket) none
  have goesOn := state.goesOn_goOn staging ticket
  generalize state.goOn staging ticket = later at goesOn ⊢
  cases goesOn with
  | performs here advances =>
      have visits := steady.visits_advance_of_awaits here advances (awaits here)
      exact ⟨visits.called, visits.current⟩
  | returns here =>
      have uncalled : Silent [.done ticket] := by simp [Silent, Event.isCall]
      exact .of_silent _ uncalled rfl rfl
  | rests => exact .of_silent _ .nil rfl rfl

theorem Steady.remainsAt (steady : state.Steady staging.story) {id : String} {body : Sequence}
    (found : staging.story.find? id = some (.sequence body)) (awaited : body.awaits.isSome = true) :
    state.RemainsAt staging id := by
  have played : ∀ {ticket sequence generation stage},
      state.Performs ticket sequence generation stage → sequence.id = id →
        sequence.awaits.isSome = true := by
    intro ticket sequence generation stage performs named
    obtain ⟨here, -⟩ := steady.orderly.declared performs
    rw [named] at here
    cases found.symm.trans here
    exact awaited
  refine ⟨fun ticket sequence generation stage performs named => ?_, fun current happening unbidden => ?_⟩
  · have visits : Visits staging.story state (state.after staging (.step ticket)) none := by
      refine steady.visits_step_of_awaits fun again _ _ => ?_
      obtain ⟨rfl, -⟩ := performs.unique again
      exact played performs named
    exact visits.entered_eq Happening.noConfusion
  · have visits : Visits staging.story state (state.after staging happening) none := by
      cases happening with
      | command told => cases unbidden
      | step ticket =>
          refine steady.visits_step_of_awaits fun performs inForce underWay => ?_
          subst inForce
          have here := (steady.underWay performs underWay).2
          exact played performs (Option.some.inj (here.symm.trans current))
      | turn gate opened => cases gate <;> exact .of_silent _ .nil rfl rfl
      | _ => exact .of_silent _ .nil rfl rfl
    have notStop : happening ≠ .command .stop := by
      rintro rfl
      cases unbidden
    exact ⟨visits.entered_eq notStop, visits.current.trans current⟩

/-! ## Findings -/

theorem Steady.bearsOut (startDeclared : staging.story.declares staging.story.start = true)
    (steady : state.Steady staging.story) {finding : Review.Finding}
    (played : finding.IsPlayed staging.story) : state.BearsOut staging finding := by
  obtain ⟨id, scene, found, said⟩ := played
  have named := Story.id_of_find? found
  cases Review.isSaidOf_of_mem said with
  | noSubmission mute =>
      subst named
      exact steady.staysAt_of_shut startDeclared found mute
  | noOffers bare =>
      subst named
      exact steady.staysAt_of_shut startDeclared found bare
  | noAcknowledgement awaited goesOn noWay =>
      subst named
      exact steady.endsAt found noWay
  | nextNeverTaken awaited onward =>
      subst named
      exact steady.remainsAt found (Option.isSome_of_eq_some awaited)

/-- In every course, what a finding on a dead end says is true if it is about the scene that its id stands
for: a question without a way out and a choice without options are never left but by a start or a stop,
Enter ends the story where nothing else is declared for it, and a sequence that waits never goes on to its
next scene. So all that a review says of dead ends is true, but for ids that are declared more than once. -/
theorem dead_ends_true_of_played (staging : Staging) {initial : State}
    (opened : opening staging.story = .ok initial) (happenings : List Happening) :
    let state := initial.course staging happenings
    (∀ finding, finding.IsPlayed staging.story → state.BearsOut staging finding) ∧
    ∀ settings, ∀ finding ∈ Review.review settings staging.story,
      state.BearsOut staging finding ∨
        ∃ id, finding.scene? = some id ∧ .repeatedId id ∈ Review.repeatedIds staging.story := by
  intro state
  have steady : state.Steady staging.story := steady_course opened happenings
  have startDeclared := (initial_of_opening opened).2
  refine ⟨fun finding played => steady.bearsOut startDeclared played, fun settings finding member => ?_⟩
  have toldOf : finding.topic = .flow → (∀ id start, finding ≠ .unreachable id start) →
      state.BearsOut staging finding ∨
        ∃ id, finding.scene? = some id ∧ .repeatedId id ∈ Review.repeatedIds staging.story := by
    intro flow other
    have ends := Review.mem_deadEnds_of_mem_review member flow other
    exact (Review.played_or_repeated ends).imp_left (steady.bearsOut startDeclared)
  cases finding with
  | noSubmission id => exact toldOf rfl fun _ _ => Review.Finding.noConfusion
  | noOffers id => exact toldOf rfl fun _ _ => Review.Finding.noConfusion
  | noAcknowledgement id => exact toldOf rfl fun _ _ => Review.Finding.noConfusion
  | nextNeverTaken id event next => exact toldOf rfl fun _ _ => Review.Finding.noConfusion
  | _ => exact .inl trivial

end State

end Session

/-- A story that waits for a key in its hall. Nothing is declared for Enter there, so Enter ends it, and the
yard is never entered. -/
def Story.locked : Story where
  id := "locked"
  version := "1"
  store := Table.empty
  start := "hall"
  scenes := [
    .sequence
      ⟨"hall", [⟨"A locked door.", 0, false, none⟩], [], some "yard", some "KEY", Table.empty, false⟩,
    .sequence ⟨"yard", [], [], none, none, Table.empty, true⟩]

/-- A story whose question is declared twice, without a way out at first. -/
def Story.amended : Story where
  id := "amended"
  version := "1"
  store := Table.empty
  start := "ask"
  scenes := [
    .question ⟨"ask", ⟨"name", "Name", none, none, none, false⟩, []⟩,
    .question ⟨"ask", ⟨"name", "Name", none, none, none, false⟩, [⟨submitEvent, [], [], "end"⟩]⟩,
    .sequence ⟨"end", [], [], none, none, Table.empty, true⟩]

namespace Session.State

theorem locked_ends :
    .noAcknowledgement "hall" ∈ Review.review .standard .locked ∧
      .nextNeverTaken "hall" "KEY" "yard" ∈ Review.review .standard .locked ∧
      ∃ initial, opening .locked = .ok initial ∧
        let waiting := initial.course ⟨.locked, .silent⟩ [.command .start, .step 0, .step 0, .step 0]
        let acknowledged := (waiting.execute ⟨.locked, .silent⟩ .enter).1.position
        waiting.position.pending = some ⟨.enter, "hall"⟩ ∧
          acknowledged = { waiting.position with mode := .ended, pending := none } := by
  have ends : .noAcknowledgement "hall" ∈ Review.review .standard .locked := by decide
  have never : .nextNeverTaken "hall" "KEY" "yard" ∈ Review.review .standard .locked := by decide
  have opened : opening .locked = .ok (.initial Table.empty) := rfl
  refine ⟨ends, never, _, opened, ?_⟩
  intro waiting acknowledged
  have pending : waiting.position.pending = some ⟨.enter, "hall"⟩ := by decide +kernel
  obtain ⟨-, told⟩ := dead_ends_true_of_played ⟨.locked, .silent⟩ opened
    [.command .start, .step 0, .step 0, .step 0]
  have once : Review.repeatedIds .locked = [] := by decide
  rcases told .standard _ ends with true_of_hall | ⟨id, -, repeated⟩
  · exact ⟨pending, (true_of_hall .enter pending).2⟩
  · rw [once] at repeated
    cases repeated

/-- What a review says of the declaration that is not played is not true of the one that is. -/
theorem amended_refutes_finding :
    .noSubmission "ask" ∈ Review.review .standard .amended ∧
      ∃ initial, opening .amended = .ok initial ∧
        let asking := initial.course ⟨.amended, .silent⟩ [.command .start]
        asking.position.pending = some ⟨.answer, "ask"⟩ ∧
          (asking.execute ⟨.amended, .silent⟩ (.submit "Bea")).1.position.current = some "end" ∧
          ¬ asking.BearsOut ⟨.amended, .silent⟩ (.noSubmission "ask") := by
  refine ⟨by decide, .initial Table.empty, rfl, ?_⟩
  intro asking
  have pending : asking.position.pending = some ⟨.answer, "ask"⟩ := by decide +kernel
  have left : (asking.execute ⟨.amended, .silent⟩ (.submit "Bea")).1.position.current = some "end" := by
    decide +kernel
  refine ⟨pending, left, fun stays => ?_⟩
  have undisturbed := stays .answer pending [.command (.submit "Bea")] (by decide) (by decide)
  have same : (asking.execute ⟨.amended, .silent⟩ (.submit "Bea")).1.position = asking.position :=
    undisturbed.position
  have apart : asking.position.current = some "ask" := by decide +kernel
  rw [same, apart] at left
  exact absurd left (by decide)

end Session.State

end NarrativePlayer
