import NarrativePlayer.Proofs.Session.SequenceAccounts
import NarrativePlayer.Proofs.Session.SiftedSession

/-!
Contract: a session that has forgotten which sequence was entered last.

Nothing but waiting looks at the note of that sequence, so such a session does the same, move by move, as
the one that remembers, and once another sequence is begun nothing tells them apart any more. Owns that the
two go on side by side in all moves, and what waiting comes to for as long as they differ. How a session
comes to forget is not owned here.
-/

namespace NarrativePlayer.Session

namespace State

/-- The session with another note of the sequence entered last. -/
def noting (state : State) (latest : Option Nat) : State :=
  { state with latest := latest }

/-- The second session notes a sequence as the one entered last and the first has forgotten it, or nothing
tells them apart. -/
inductive Overlooks (ticket : Nat) : State → State → Prop
  | alike (state : State) : Overlooks ticket state state
  | apart {given whole : State} (noted : whole.latest = some ticket)
      (otherwise : given = whole.noting none) : Overlooks ticket given whole

/-- And the same came of both besides. -/
def OverlooksWith {α : Type} (ticket : Nat) (given whole : State × α) : Prop :=
  Overlooks ticket given.1 whole.1 ∧ given.2 = whole.2

variable {ticket : Nat} {given whole : State}

/-- A change that neither looks at the note nor makes one. -/
theorem Overlooks.map (overlooks : Overlooks ticket given whole) (change : State → State)
    (keeps : ∀ state, (change state).latest = state.latest)
    (commutes : ∀ state, change (state.noting none) = (change state).noting none) :
    Overlooks ticket (change given) (change whole) := by
  cases overlooks with
  | alike => exact .alike _
  | apart noted otherwise =>
      subst otherwise
      exact .apart ((keeps whole).trans noted) (commutes whole)

theorem overlooksWith_refl {α : Type} (ticket : Nat) (outcome : State × α) :
    OverlooksWith ticket outcome outcome :=
  ⟨.alike outcome.1, rfl⟩

theorem Overlooks.activities_eq (overlooks : Overlooks ticket given whole) :
    given.activities = whole.activities := by
  cases overlooks with
  | alike => rfl
  | apart noted otherwise =>
      subst otherwise
      rfl

theorem Overlooks.queue_eq (overlooks : Overlooks ticket given whole) : given.queue = whole.queue := by
  cases overlooks with
  | alike => rfl
  | apart noted otherwise =>
      subst otherwise
      rfl

theorem Overlooks.clock_eq (overlooks : Overlooks ticket given whole) : given.clock = whole.clock := by
  cases overlooks with
  | alike => rfl
  | apart noted otherwise =>
      subst otherwise
      rfl

/-! ## Scenes that are entered -/

theorem Overlooks.enter (overlooks : Overlooks ticket given whole) (staging : Staging) (id : String)
    (generation : Nat) :
    OverlooksWith ticket (given.enter staging id generation) (whole.enter staging id generation) := by
  cases overlooks with
  | alike => exact overlooksWith_refl ticket _
  | apart noted otherwise =>
      subst otherwise
      unfold State.enter
      cases staging.story.find id with
      | error trouble => exact ⟨.apart noted rfl, rfl⟩
      | ok scene =>
          simp only [note_eq, noting]
          split
          · exact ⟨.apart noted rfl, rfl⟩
          · split
            · simp only [finish, announce_eq, place]
              exact ⟨.apart noted rfl, rfl⟩
            · cases scene with
              | sequence body =>
                  -- The sequence that is begun is noted, whatever was noted before.
                  simp only [beginSequence, place, announce_eq, act_eq, spawn]
                  exact overlooksWith_refl ticket _
              | question body =>
                  simp only [await, announce_eq, place, display, emit]
                  exact ⟨.apart noted rfl, rfl⟩
              | choice body =>
                  simp only [await, announce_eq, place, display, emit]
                  exact ⟨.apart noted rfl, rfl⟩

/-! ## Commands -/

theorem OverlooksWith.reply {given whole : State × Entrance} (overlooks : OverlooksWith ticket given whole) :
    OverlooksWith ticket (State.reply given) (State.reply whole) := by
  obtain ⟨state, entrance⟩ := given
  obtain ⟨other, entranceToo⟩ := whole
  obtain ⟨sessions, same⟩ := overlooks
  dsimp only at sessions same
  subst same
  cases entrance with
  | made => exact ⟨sessions, rfl⟩
  | failed trouble => exact ⟨sessions, rfl⟩
  | held =>
      refine ⟨sessions.map (·.spawn (.call false false)) (fun _ => rfl) (fun _ => rfl), ?_⟩
      show Reply.held state.activities.length = Reply.held other.activities.length
      rw [sessions.activities_eq]

theorem overlooks_follow (noted : whole.latest = some ticket) (staging : Staging)
    (submitted : Option String) (actions : List Action) (target : String) :
    OverlooksWith ticket ((whole.noting none).follow staging submitted actions target)
      (whole.follow staging submitted actions target) := by
  unfold State.follow
  cases staging.story.find target with
  | error trouble => exact ⟨.apart noted rfl, rfl⟩
  | ok scene =>
      simp only [act_eq]
      refine (Overlooks.enter ?_ staging target _).reply
      exact .apart noted rfl

theorem overlooks_ignore (noted : whole.latest = some ticket) (staging : Staging) (message : String) :
    OverlooksWith ticket ((whole.noting none).ignore staging message) (whole.ignore staging message) := by
  simp only [ignore, note_eq]
  exact ⟨.apart noted rfl, rfl⟩

theorem Overlooks.execute (overlooks : Overlooks ticket given whole) (staging : Staging)
    (command : Command) :
    OverlooksWith ticket (given.execute staging command) (whole.execute staging command) := by
  cases overlooks with
  | alike => exact overlooksWith_refl ticket _
  | apart noted otherwise =>
      subst otherwise
      have position : (whole.noting none).position = whole.position := rfl
      cases command with
      | start =>
          simp only [State.execute, State.start, note_eq]
          refine (Overlooks.enter ?_ staging staging.story.start _).reply
          exact .apart noted rfl
      | stop =>
          simp only [State.execute, State.stop, note_eq, announce_eq]
          exact ⟨.apart noted rfl, rfl⟩
      | submit answer =>
          simp only [State.execute, State.submit, position]
          split
          · exact overlooks_ignore noted staging _
          · split
            · exact ⟨.apart noted rfl, rfl⟩
            · split
              · exact overlooks_ignore noted staging _
              · split
                · simp only [note_eq]
                  exact ⟨.apart noted rfl, rfl⟩
                · exact overlooks_follow noted staging _ _ _
      | choose offer =>
          simp only [State.execute, State.choose, position]
          split
          · exact overlooks_ignore noted staging _
          · split
            · exact ⟨.apart noted rfl, rfl⟩
            · split
              · exact overlooks_ignore noted staging _
              · exact overlooks_follow noted staging _ _ _
      | enter =>
          simp only [State.execute, State.acknowledge, position]
          split
          · exact overlooks_ignore noted staging _
          · split
            · exact ⟨.apart noted rfl, rfl⟩
            · split
              · split
                · exact ⟨.apart noted rfl, rfl⟩
                · refine (Overlooks.enter ?_ staging _ _).reply
                  exact .apart noted rfl
              · simp only [note_eq, announce_eq]
                exact ⟨.apart noted rfl, rfl⟩

/-! ## Activities that go on -/

theorem overlooks_conclude (noted : whole.latest = some ticket) (staging : Staging) (generation : Nat)
    (sequence : Sequence) :
    OverlooksWith ticket ((whole.noting none).conclude staging generation sequence)
      (whole.conclude staging generation sequence) := by
  have position : (whole.noting none).position = whole.position := rfl
  simp only [State.conclude, State.abandon, State.await, note_eq, announce_eq, position]
  split
  · exact ⟨.apart noted rfl, rfl⟩
  · split
    · exact ⟨.apart noted rfl, rfl⟩
    · split
      · exact ⟨.apart noted rfl, rfl⟩
      · rename_i target next
        have entered := Overlooks.enter (.apart noted rfl) staging target generation
        generalize State.enter (whole.noting none) staging target generation = first at entered ⊢
        generalize State.enter whole staging target generation = second at entered ⊢
        obtain ⟨state, entrance⟩ := first
        obtain ⟨other, entranceToo⟩ := second
        obtain ⟨sessions, rfl⟩ := entered
        cases entrance with
        | made => exact ⟨sessions, rfl⟩
        | held => exact ⟨sessions, rfl⟩
        | failed trouble => exact ⟨sessions.map (·.emit _) (fun _ => rfl) (fun _ => rfl), rfl⟩

theorem overlooks_perform (noted : whole.latest = some ticket) (staging : Staging) (sequence : Sequence)
    (generation : Nat) (stage : Stage) :
    OverlooksWith ticket ((whole.noting none).perform staging sequence generation stage)
      (whole.perform staging sequence generation stage) := by
  unfold State.perform
  split
  · split
    · simp only [beginLine, abandon, note_eq, noting]
      split
      · exact ⟨.apart noted rfl, rfl⟩
      · split
        · exact ⟨.apart noted rfl, rfl⟩
        · exact ⟨.apart noted rfl, rfl⟩
    · exact overlooks_conclude noted staging generation sequence
  · split
    · simp only [endLine, abandon, note_eq, noting]
      split
      · exact ⟨.apart noted rfl, rfl⟩
      · split
        · exact ⟨.apart noted rfl, rfl⟩
        · exact ⟨.apart noted rfl, rfl⟩
    · exact ⟨.apart noted rfl, rfl⟩
  · exact ⟨.apart noted rfl, rfl⟩
  · exact ⟨.apart noted rfl, rfl⟩

theorem Overlooks.goOn (overlooks : Overlooks ticket given whole) (staging : Staging) (other : Nat) :
    Overlooks ticket (given.goOn staging other) (whole.goOn staging other) := by
  cases overlooks with
  | alike => exact .alike _
  | apart noted otherwise =>
      subst otherwise
      have activities : (whole.noting none).activities = whole.activities := rfl
      simp only [State.goOn, activities]
      split
      · rename_i sequence generation stage _
        obtain ⟨sessions, sameStage⟩ := overlooks_perform noted staging sequence generation stage
        rw [sameStage]
        exact sessions.map (·.replace other _) (fun _ => rfl) (fun _ => rfl)
      · exact .apart noted rfl
      · exact .apart noted rfl

theorem Overlooks.pump (overlooks : Overlooks ticket given whole) (staging : Staging) :
    Overlooks ticket (given.pump staging) (whole.pump staging) := by
  simp only [State.pump, overlooks.queue_eq, overlooks.activities_eq]
  split
  · exact overlooks
  · rename_i first rest _
    have dequeued : Overlooks ticket { given with queue := rest } { whole with queue := rest } :=
      overlooks.map ({ · with queue := rest }) (fun _ => rfl) (fun _ => rfl)
    rw [overlooks.activities_eq] at dequeued
    split
    · exact dequeued
    · split
      · exact overlooks.goOn staging first
      · exact dequeued

/-! ## Moves -/

theorem Overlooks.moveTo (overlooks : Overlooks ticket given whole) (moment : Nat) :
    Overlooks ticket (given.moveTo moment) (whole.moveTo moment) :=
  overlooks.map (·.moveTo moment) (fun _ => rfl) (fun _ => rfl)

theorem Overlooks.drain (overlooks : Overlooks ticket given whole) (staging : Staging) (bound : Nat) :
    Option.Rel (Overlooks ticket) (State.drain staging bound given) (State.drain staging bound whole) := by
  induction bound generalizing given whole with
  | zero => exact .none
  | succ bound inductionHypothesis =>
      simp only [State.drain, overlooks.queue_eq]
      split
      · exact .some overlooks
      · exact inductionHypothesis (overlooks.pump staging)

theorem Overlooks.advanceTo (overlooks : Overlooks ticket given whole) (staging : Staging)
    (moment bound : Nat) :
    Option.Rel (Overlooks ticket) (State.advanceTo staging moment bound given)
      (State.advanceTo staging moment bound whole) := by
  induction bound generalizing given whole with
  | zero => exact .none
  | succ bound inductionHypothesis =>
      have arrived : Overlooks ticket { given with clock := moment } { whole with clock := moment } :=
        overlooks.map ({ · with clock := moment }) (fun _ => rfl) (fun _ => rfl)
      rw [overlooks.queue_eq] at arrived
      have waking : given.nextWaking? = whole.nextWaking? := by
        simp only [nextWaking?, overlooks.activities_eq]
      simp only [State.advanceTo, overlooks.queue_eq, waking]
      split
      · exact inductionHypothesis (overlooks.pump staging)
      · split
        · rename_i due _
          split
          · exact inductionHypothesis (overlooks.moveTo due)
          · exact .some arrived
        · exact .some arrived

theorem Overlooks.make (overlooks : Overlooks ticket given whole) (staging : Staging) (bound : Nat)
    (move : Move) :
    Option.Rel (OverlooksWith ticket) (State.make staging bound given move)
      (State.make staging bound whole move) := by
  have replied : ∀ {first second : Option State}, Option.Rel (Overlooks ticket) first second →
      Option.Rel (OverlooksWith ticket) (first.map (·, (none : Option Reply)))
        (second.map (·, (none : Option Reply))) := by
    intro first second related
    cases related with
    | none => exact .none
    | some sessions => exact .some ⟨sessions, rfl⟩
  cases move with
  | command told =>
      obtain ⟨sessions, sameReply⟩ := overlooks.execute staging told
      exact .some ⟨sessions, congrArg some sameReply⟩
  | tick => exact replied (overlooks.drain staging bound)
  | advance time =>
      rw [State.make, State.make, overlooks.clock_eq]
      exact replied (overlooks.advanceTo staging _ bound)
  | shut gate =>
      exact .some ⟨overlooks.map (·.setGate gate false) (fun _ => by cases gate <;> rfl)
        (fun _ => by cases gate <;> rfl), rfl⟩
  | lift gate =>
      exact .some ⟨overlooks.map (·.openGate gate) (fun _ => by cases gate <;> rfl)
        (fun _ => by cases gate <;> rfl), rfl⟩
  | pulse gate =>
      exact .some ⟨overlooks.map (·.release gate) (fun _ => rfl) (fun _ => rfl), rfl⟩
  | fault => exact .some ⟨overlooks.map ({ · with faulty := true }) (fun _ => rfl) (fun _ => rfl), rfl⟩

/-- Side by side, as long as nobody waits. -/
theorem Overlooks.run (overlooks : Overlooks ticket given whole) (staging : Staging) (bound : Nat)
    (moves : List Move) :
    Option.Rel (List.Forall₂ (OverlooksWith ticket)) (State.run staging bound given (moves.map .move))
      (State.run staging bound whole (moves.map .move)) := by
  induction moves generalizing given whole with
  | nil => exact .some .nil
  | cons move rest inductionHypothesis =>
      have made := overlooks.make staging bound move
      simp only [List.map_cons, State.run, takeStep]
      generalize State.make staging bound given move = first at made ⊢
      generalize State.make staging bound whole move = second at made ⊢
      cases made with
      | none => exact .none
      | @some givenThen wholeThen both =>
          obtain ⟨sessions, sameReply⟩ := both
          have later := inductionHypothesis sessions
          simp only [Option.map_some]
          generalize State.run staging bound givenThen.1 (rest.map .move) = firstLater at later ⊢
          generalize State.run staging bound wholeThen.1 (rest.map .move) = secondLater at later ⊢
          cases later with
          | none => exact .none
          | some all => exact .some (.cons ⟨sessions, congrArg Answer.reply sameReply⟩ all)

end State

end NarrativePlayer.Session
