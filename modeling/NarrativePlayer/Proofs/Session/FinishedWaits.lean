import NarrativePlayer.Proofs.Session.WaitTermination

/-!
Contract: waiting that comes to an end, in stories that may lead in circles.

Every sequence that is begun is one more activity, and none is ever taken away, so a wait that is over has
gone through a chain that is over. Owns that it has then left behind what the telling in sequence does. What
is commanded between two waits is not owned here.
-/

namespace NarrativePlayer.Session

namespace Account

/-- Where a chain of sequences goes on, another sequence is told next. -/
theorem close_of_onward? {story : Story} (account : Account) {body : Sequence} {target further : String}
    (found : story.find? body.id = some (.sequence body)) (leads : story.onward? body.id = some target)
    (leadsOn : story.onward? target = some further) :
    ∃ closed heir, account.close story body = (closed, .telling heir) ∧ heir.id = target := by
  rw [Story.onward?_of_find? found] at leads
  obtain ⟨unwaiting, next⟩ := Option.ite_none_left_eq_some.mp leads
  have unawaited : body.awaits.isSome = false := by
    rw [Bool.not_eq_true, Bool.or_eq_false_iff] at unwaiting
    exact unwaiting.2
  unfold Story.onward? at leadsOn
  split at leadsOn
  · rename_i heir foundNext
    obtain ⟨unwaitingNext, -⟩ := Option.ite_none_left_eq_some.mp leadsOn
    have goesOn : heir.terminal = false := by
      rw [Bool.not_eq_true, Bool.or_eq_false_iff] at unwaitingNext
      exact unwaitingNext.1
    have closes : account.close story body =
        ((account.turn target .running none).act none heir.actions, .telling heir) := by
      simp [close, unawaited, next, arrive, foundNext, goesOn]
    exact ⟨_, heir, closes, Story.id_of_find? foundNext⟩
  · cases leadsOn

end Account

namespace State

variable {staging : Staging} {state : State}

theorem length_activities_le_of_reaches {later : State} (reaches : Reaches staging state later) :
    state.activities.length ≤ later.activities.length := by
  obtain ⟨happenings, rfl⟩ := reaches
  exact length_le_course staging happenings state

/-- Waiting for a chain that is not over begins as many sequences as one likes. -/
theorem Follows.outgrow (more : Nat) {past : List Activity} {body : Sequence} {generation : Nat}
    {latest : Option Nat} {progress : Watch} (follows : Follows past latest progress)
    (isOver : ∀ activity ∈ past, activity.isOver = true) (prompt : state.Prompt)
    (current : state.position.generation = generation)
    (tells : state.account.Tells staging.story body)
    (goesOn : ¬ staging.story.EndsWithin more body.id) :
    ∃ later progress', past.length + more < later.activities.length ∧
      WatchesOn staging (state.telling past body generation (.ready 0) [past.length] latest) progress
        later progress' := by
  -- Every sequence that is told is followed by another, which is one more activity and goes on for one less.
  induction more generalizing state past body generation latest progress with
  | zero =>
      refine ⟨_, progress, ?_, .refl _ _ _⟩
      simp [telling]
  | succ more inductionHypothesis =>
      simp only [Story.EndsWithin, Classical.not_forall] at goesOn
      obtain ⟨target, leads, goesOnThere⟩ := goesOn
      obtain ⟨further, leadsOn⟩ := Story.exists_onward?_of_not_endsWithin goesOnThere
      obtain ⟨told, latest', progress', next, arrival, promptStill, follows', closes, closed, tellsOn⟩ :=
        follows.tell staging isOver prompt current tells
      obtain ⟨account, heir, closedToo, rfl⟩ :=
        Account.close_of_onward? (state.account.recite body.lines) tells.found leads leadsOn
      cases closed.symm.trans closedToo
      cases closes with
      | telling heir position trace =>
          obtain ⟨tellsHeir, -⟩ := Account.onward?_of_close tells.found tells.goesOn closedToo
          obtain ⟨inherits, leaves⟩ := follows'.inherit staging heir position.generation (.ready 0)
          have length : (past ++ [Activity.performance body generation (.finished .succeeded)]).length
              = past.length + 1 := List.length_append
          obtain ⟨later, final, larger, proceeds⟩ := inductionHypothesis inherits
            (over_concat isOver body generation .succeeded) (promptStill.shifted position trace) rfl
            tellsHeir goesOnThere
          rw [length] at larger proceeds
          exact ⟨later, final, by omega, tellsOn.trans (leaves.trans proceeds)⟩

/-- A wait that comes to an end was for a chain that visits no scene twice. -/
theorem Underway.straight_of_settle {session final : State} {arrival : Arrival} {report : Report}
    (underway : Underway staging session arrival) {bound : Nat}
    (done : session.settle staging none bound = some (final, report)) {id : String}
    (begins : arrival.beginning? = some id) : staging.story.Straight id := by
  obtain ⟨base, reply, quiet, responds⟩ := underway.responds
  cases responds with
  | refused => cases begins
  | still => cases begins
  | telling body position trace =>
      cases begins
      refine Story.straight_iff_endsWithin.mpr (Classical.byContradiction fun goesOn => ?_)
      -- On a chain without end, more would have been begun on the way than there is when the wait is over.
      have never : ¬ staging.story.EndsWithin final.activities.length body.id :=
        fun isOver => goesOn ⟨_, isOver⟩
      have follows : Follows base.activities none (.watching base.activities.length) := .itself
      obtain ⟨later, progress, larger, watches⟩ := follows.outgrow final.activities.length quiet.isOver
        (quiet.toPrompt.shifted position trace) rfl (underway.tells body rfl) never
      rw [quiet.queue] at done
      obtain ⟨steps, same⟩ := (seek_telling staging rfl).trans watches
      have doneLater : watchFor staging none bound later progress = some (final, report) :=
        (same bound).symm.trans (watchFor_of_le (Nat.le_add_right bound steps) done)
      have notMore := length_activities_le_of_reaches (along_watchFor doneLater).reaches
      omega

/-- What a wait that comes to an end leaves behind is what the telling in sequence does. -/
theorem Underway.of_settle {session final : State} {arrival : Arrival} {report : Report}
    (underway : Underway staging session arrival)
    (startDeclared : staging.story.declares staging.story.start = true) {bound : Nat}
    (done : session.settle staging none bound = some (final, report)) :
    Settles staging session final report ∧
      (final.account, report) = Account.conclude staging.story (session.account, arrival) := by
  obtain ⟨last, told, settles, concluded⟩ :=
    underway.settles startDeclared fun id begins => underway.straight_of_settle done begins
  obtain ⟨rfl, rfl⟩ := settles.unique done
  exact ⟨settles, concluded⟩

end State

end NarrativePlayer.Session
