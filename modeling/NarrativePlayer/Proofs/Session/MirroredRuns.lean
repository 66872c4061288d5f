import NarrativePlayer.Proofs.Session.PastActivities

/-!
Contract: the loops that let a session go on by itself.

Owns the relation between a session and what becomes of it once nothing is left to do up to a horizon,
that the bounded loops compute it, and that a session with a past and the one that it mirrors come to
such an end together. The bounds of the loops are not mirrored: the past takes steps of its own.
-/

namespace NarrativePlayer.Session

namespace State

/-- All that a session does by itself up to a horizon. -/
inductive Runs (staging : Staging) (horizon : Option Nat) : State → State → Prop
  | ended {state : State} (rests : proceed? staging horizon state = none) :
      Runs staging horizon state (arrive horizon state)
  | further {state next final : State} (proceeds : proceed? staging horizon state = some next)
      (runs : Runs staging horizon next final) : Runs staging horizon state final

/-- What a session does by itself, it does from its next state on. -/
theorem runs_iff_of_proceeds {staging : Staging} {horizon : Option Nat} {state next later : State}
    (proceeds : proceed? staging horizon state = some next) :
    Runs staging horizon next later ↔ Runs staging horizon state later := by
  constructor
  · exact fun runs => .further proceeds runs
  · intro runs
    cases runs with
    | ended rests => cases proceeds.symm.trans rests
    | further proceedsToo runs =>
        cases proceeds.symm.trans proceedsToo
        exact runs

theorem runs_iff_of_rests {staging : Staging} {horizon : Option Nat} {state later : State}
    (rests : proceed? staging horizon state = none) :
    Runs staging horizon state later ↔ later = arrive horizon state := by
  constructor
  · intro runs
    cases runs with
    | ended => rfl
    | further proceeds => cases proceeds.symm.trans rests
  · rintro rfl
    exact .ended rests

theorem runs_of_drain {staging : Staging} {bound : Nat} {state drained : State}
    (done : drain staging bound state = some drained) : Runs staging none state drained := by
  induction bound generalizing state with
  | zero => cases done
  | succ bound inductionHypothesis =>
      rw [drain] at done
      split at done
      · rename_i idle
        cases done
        exact .ended (proceed?_eq_none (List.isEmpty_iff.mp idle) fun _ _ => rfl)
      · rename_i busy
        exact .further (proceed?_of_busy (by simpa using busy)) (inductionHypothesis done)

theorem drain_of_runs {staging : Staging} {state final : State}
    (runs : Runs staging none state final) : ∃ bound, drain staging bound state = some final := by
  induction runs with
  | @ended state rests =>
      obtain ⟨idle, -⟩ := of_proceed?_eq_none rests
      refine ⟨1, ?_⟩
      rw [drain, if_pos (List.isEmpty_iff.mpr idle)]
      rfl
  | @further state next final proceeds _ inductionHypothesis =>
      obtain ⟨bound, done⟩ := inductionHypothesis
      rcases of_proceed?_eq_some proceeds with ⟨busy, rfl⟩ | ⟨-, due, -, early, -⟩
      · refine ⟨bound + 1, ?_⟩
        rw [drain, if_neg (mt List.isEmpty_iff.mp busy), done]
      · cases early

theorem runs_of_advanceTo {staging : Staging} {moment bound : Nat} {state advanced : State}
    (done : advanceTo staging moment bound state = some advanced) :
    Runs staging (some moment) state advanced := by
  induction bound generalizing state with
  | zero => cases done
  | succ bound inductionHypothesis =>
      rw [advanceTo] at done
      split at done
      · rename_i busy
        exact .further (proceed?_of_busy busy) (inductionHypothesis done)
      · rename_i notBusy
        have idle : state.queue = [] := by simpa using notBusy
        split at done
        · rename_i due waking
          split at done
          · rename_i early
            refine .further (proceed?_of_waking idle waking ?_) (inductionHypothesis done)
            simpa using early
          · rename_i late
            cases done
            refine .ended (proceed?_eq_none idle fun other next => ?_)
            cases waking.symm.trans next
            simpa using late
        · rename_i asleep
          cases done
          refine .ended (proceed?_eq_none idle fun other next => ?_)
          cases asleep.symm.trans next

theorem advanceTo_of_runs {staging : Staging} {moment : Nat} {state final : State}
    (runs : Runs staging (some moment) state final) :
    ∃ bound, advanceTo staging moment bound state = some final := by
  induction runs with
  | @ended state rests =>
      obtain ⟨idle, late⟩ := of_proceed?_eq_none rests
      refine ⟨1, ?_⟩
      cases waking : state.nextWaking? with
      | none => simp [advanceTo, idle, waking, arrive]
      | some due =>
          have after : ¬ due ≤ moment := by simpa using late due waking
          simp [advanceTo, idle, waking, after, arrive]
  | @further state next final proceeds _ inductionHypothesis =>
      obtain ⟨bound, done⟩ := inductionHypothesis
      refine ⟨bound + 1, ?_⟩
      rcases of_proceed?_eq_some proceeds with ⟨busy, rfl⟩ | ⟨idle, due, waking, early, rfl⟩
      · simp [advanceTo, busy, done]
      · have inTime : due ≤ moment := by simpa using early
        simp [advanceTo, idle, waking, inTime, done]

/-! ## Loops that are mirrored -/

variable {past : Past} {worn fresh : State}

/-- Whatever the past still does is over some time, and then both sessions do the same or nothing. -/
theorem Trails.outlast {horizon : Option Nat} (trails : Trails past horizon worn fresh)
    (staging : Staging) :
    ∃ later,
      (∀ final, Runs staging (horizon.map (· + past.clock)) later final →
        Runs staging (horizon.map (· + past.clock)) worn final) ∧
      ((∃ next other, proceed? staging (horizon.map (· + past.clock)) later = some next ∧
          proceed? staging horizon fresh = some other ∧ Trails past horizon next other) ∨
        (proceed? staging (horizon.map (· + past.clock)) later = none ∧
          proceed? staging horizon fresh = none ∧
          Mirrors past (State.arrive (horizon.map (· + past.clock)) later)
            (State.arrive horizon fresh))) := by
  induction left : rank past worn using Nat.strongRecOn generalizing worn with
  | ind left inductionHypothesis =>
      cases trails.keeps staging with
      | stale proceeds trailsStill less =>
          obtain ⟨later, onward, agree⟩ := inductionHypothesis _ (left ▸ less) trailsStill rfl
          exact ⟨later, fun final runs => .further proceeds (onward final runs), agree⟩
      | both proceeds mirrored trailsNext =>
          exact ⟨worn, fun _ runs => runs, .inl ⟨_, _, proceeds, mirrored, trailsNext⟩⟩
      | ended rests mirrored mirrors =>
          exact ⟨worn, fun _ runs => runs, .inr ⟨rests, mirrored, mirrors⟩⟩

/-- The session with a past goes on for as long as the other does. -/
theorem Trails.runs {staging : Staging} {horizon : Option Nat} {final : State}
    (runs : Runs staging horizon fresh final) :
    ∀ {worn : State}, Trails past horizon worn fresh → ∃ later,
      Runs staging (horizon.map (· + past.clock)) worn later ∧ Mirrors past later final := by
  induction runs with
  | @ended fresh rests =>
      intro worn trails
      obtain ⟨later, onward, agree⟩ := trails.outlast staging
      rcases agree with ⟨next, other, -, mirrored, -⟩ | ⟨restsToo, -, mirrors⟩
      · rw [rests] at mirrored
        cases mirrored
      · exact ⟨_, onward _ (.ended restsToo), mirrors⟩
  | @further fresh next final proceeds _ inductionHypothesis =>
      intro worn trails
      obtain ⟨later, onward, agree⟩ := trails.outlast staging
      rcases agree with ⟨after, other, proceedsToo, mirrored, trailsNext⟩ | ⟨-, rests, -⟩
      · cases proceeds.symm.trans mirrored
        obtain ⟨ending, runs, mirrors⟩ := inductionHypothesis trailsNext
        exact ⟨ending, onward _ (.further proceedsToo runs), mirrors⟩
      · rw [proceeds] at rests
        cases rests

/-- And the other goes on for as long as the session with a past does. -/
theorem Trails.runs_back {staging : Staging} {horizon later : Option Nat} {final : State}
    (sameHorizon : later = horizon.map (· + past.clock)) (runs : Runs staging later worn final) :
    ∀ {fresh : State}, Trails past horizon worn fresh → ∃ newer,
      Runs staging horizon fresh newer ∧ Mirrors past final newer := by
  subst sameHorizon
  induction runs with
  | @ended worn rests =>
      intro fresh trails
      cases trails.keeps staging with
      | stale proceeds =>
          rw [rests] at proceeds
          cases proceeds
      | both proceeds =>
          rw [rests] at proceeds
          cases proceeds
      | ended _ restsToo mirrors => exact ⟨_, .ended restsToo, mirrors⟩
  | @further worn next final proceeds _ inductionHypothesis =>
      intro fresh trails
      cases trails.keeps staging with
      | stale proceedsStale trailsStill =>
          cases proceeds.symm.trans proceedsStale
          exact inductionHypothesis trailsStill
      | both proceedsToo mirrored trailsNext =>
          cases proceeds.symm.trans proceedsToo
          obtain ⟨newer, runs, mirrors⟩ := inductionHypothesis trailsNext
          exact ⟨newer, .further mirrored runs, mirrors⟩
      | ended rests =>
          rw [proceeds] at rests
          cases rests

end State

end NarrativePlayer.Session
