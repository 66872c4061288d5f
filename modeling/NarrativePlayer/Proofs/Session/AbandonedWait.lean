import NarrativePlayer.Proofs.Session.ForgottenSequence
import NarrativePlayer.Proofs.Session.Renewal
import NarrativePlayer.Proofs.Session.SettledChains

/-!
Contract: a wait that is given up.

Whoever waits takes the note of the sequence entered last along, and does not put it back when giving up.
Owns that this is all that a wait leaves behind: everything else is as if as much time had passed without
it. What becomes of a session without that note is next door.
-/

namespace NarrativePlayer.Session

namespace State

variable {staging : Staging} {state : State} {ticket : Nat}

/-! ## The sequence that is noted -/

/-- A sequence was begun, and no other has the generation in force. -/
structure Foremost (state : State) (ticket : Nat) : Prop where
  begun : ∃ sequence generation stage, state.Performs ticket sequence generation stage
  only : ∀ {other sequence stage},
    state.Performs other sequence state.position.generation stage → other = ticket

theorem Foremost.after (orderly : state.Orderly staging.story)
    (startDeclared : staging.story.declares staging.story.start = true)
    (foremost : ∀ ticket, state.latest = some ticket → state.Foremost ticket) (happening : Happening)
    (noted : (state.after staging happening).latest = some ticket) :
    (state.after staging happening).Foremost ticket := by
  by_cases taken : happening = .take
  · subst taken
    cases noted
  · cases state.enrolls_after startDeclared taken with
    | begun body latest newer performs =>
        cases latest.symm.trans noted
        refine ⟨⟨body, _, _, performs⟩, fun another => ?_⟩
        rcases another.before_or_begun with ⟨earlier, before⟩ | ⟨new, -⟩
        · exact absurd (orderly.notAhead before) (Nat.not_le_of_lt newer)
        · exact new
    | kept latest runsOn =>
        obtain ⟨⟨sequence, generation, stage, performs⟩, only⟩ :=
          foremost ticket (latest.symm.trans noted)
        obtain ⟨reached, later⟩ := performs_after performs staging happening
        refine ⟨⟨sequence, generation, reached, later⟩, fun another => ?_⟩
        rcases another.before_or_begun with ⟨earlier, before⟩ | ⟨-, -, newer, -, -, -, running, -⟩
        · have inForce := Nat.le_antisymm (state.generation_le_after staging happening)
            (orderly.notAhead before)
          rw [← inForce] at before
          exact only before
        · exact absurd (runsOn running).2 (Nat.ne_of_gt newer)

theorem foremost_of_reaches {initial : State} (opened : opening staging.story = .ok initial)
    (reaches : Reaches staging initial state) (noted : state.latest = some ticket) :
    state.Foremost ticket := by
  obtain ⟨rfl, startDeclared⟩ := initial_of_opening opened
  obtain ⟨happenings, rfl⟩ := reaches
  refine (course_induction (motive := fun later : State => later.Orderly staging.story ∧
    ∀ ticket, later.latest = some ticket → later.Foremost ticket) ?_ ?_ happenings).2 ticket noted
  · intro later happening ⟨orderly, foremost⟩
    exact ⟨orderly.after happening, fun _ => Foremost.after orderly startDeclared foremost happening⟩
  · exact ⟨orderly_of_opening opened, fun _ nothing => nomatch nothing⟩

theorem latest_pump (state : State) (staging : Staging) :
    (state.pump staging).latest = state.latest ∨
      (state.pump staging).latest = some state.activities.length := by
  have pumps := state.pumps_pump staging
  generalize state.pump staging = next at pumps ⊢
  cases pumps with
  | idles => exact .inl rfl
  | leaves => exact .inl rfl
  | goesOn first goesOn =>
      cases goesOn with
      | performs here advances =>
          cases advances.enrolls with
          | kept latest => exact .inl latest
          | begun body latest => exact .inr latest
      | returns => exact .inl rfl
      | rests => exact .inl rfl

/-- A sequence is only begun by the one that is noted, which comes to its end thereby. -/
theorem Foremost.goesOn (foremost : state.Foremost ticket) (noted : state.latest = some ticket)
    {stepped : Nat} {next : State} (goesOn : GoesOn staging state stepped next) :
    next.latest = some ticket ∨ ∃ outcome, next.outcome? ticket = some outcome := by
  cases goesOn with
  | returns => exact .inl noted
  | rests => exact .inl noted
  | @performs sequence generation stage reached next here advances =>
      obtain ⟨added, -, activities⟩ := advances.begun
      have inside : stepped < next.activities.length := by
        have before := (List.getElem?_eq_some_iff.mp here).1
        rw [show next.activities = state.activities ++ added from activities, List.length_append]
        omega
      cases advances with
      | leads current beyond unawaited onward enters =>
          subst current
          obtain rfl := foremost.only here
          have ended : (next.replace stepped
              (.performance sequence state.position.generation (.finished .succeeded))).Performs stepped
                sequence state.position.generation (.finished .succeeded) :=
            List.getElem?_set_self inside
          exact .inr ⟨.succeeded, ended.outcome?_eq⟩
      | presents current beyond unawaited onward enters =>
          exact .inl (enters.latest_of_held.trans noted)
      | fails current beyond unawaited onward enters =>
          obtain ⟨rfl, -, -⟩ := enters.of_failed
          exact .inl noted
      | _ => exact .inl noted

theorem Foremost.pump (foremost : state.Foremost ticket) (noted : state.latest = some ticket)
    (staging : Staging) :
    (state.pump staging).latest = some ticket ∨
      ∃ outcome, (state.pump staging).outcome? ticket = some outcome := by
  have pumps := state.pumps_pump staging
  generalize state.pump staging = next at pumps ⊢
  cases pumps with
  | idles => exact .inl noted
  | leaves => exact .inl noted
  | goesOn first goesOn => exact foremost.goesOn noted goesOn

/-- How a sequence has ended stays as it is. -/
theorem outcome?_of_reaches {later : State} {outcome : Outcome}
    (isOver : state.outcome? ticket = some outcome) (reaches : Reaches staging state later) :
    later.outcome? ticket = some outcome := by
  obtain ⟨sequence, generation, performs⟩ := performs_of_outcome? isOver
  obtain ⟨happenings, rfl⟩ := reaches
  have still : (state.course staging happenings).Performs ticket sequence generation (.finished outcome) :=
    course_induction
      (motive := fun other : State => other.Performs ticket sequence generation (.finished outcome))
      (fun _ happening before => before.finished_after happening) performs happenings
  exact still.outcome?_eq

theorem outcome?_moveTo (state : State) (moment ticket : Nat) :
    (state.moveTo moment).outcome? ticket = state.outcome? ticket := by
  have roused : (state.moveTo moment).activities =
      state.activities.map fun activity => (awakened? moment activity).getD activity := rfl
  simp only [outcome?, roused, List.getElem?_map]
  cases state.activities[ticket]? with
  | none => rfl
  | some activity =>
      cases activity with
      | call => rfl
      | performance sequence generation stage =>
          cases stage with
          | resting index due =>
              by_cases early : due ≤ moment
              · simp [awakened?, early]
              · simp [awakened?, early]
          | _ => rfl

/-! ## Up to the end of the waiting -/

/-- Where nothing falls due by a moment, the clock is all that moves. -/
theorem moveTo_of_late {moment : Nat} (late : ∀ due, state.nextWaking? = some due → moment < due) :
    state.moveTo moment = { state with clock := moment } := by
  refine rouse_of_unaffected { state with clock := moment } fun activity member => ?_
  refine awakened?_eq_none fun due wakes => ?_
  cases next : state.nextWaking? with
  | none =>
      have never := nextWaking?_eq_none next member
      cases never.symm.trans wakes
  | some earliest =>
      exact Nat.lt_of_lt_of_le (late earliest next) ((nextWaking?_eq_some next).2 activity member due wakes)

/-- At the last moment of a wait it makes no difference whether what falls due then was awakened before. -/
theorem runs_moveTo_iff {deadline : Nat} {later : State} (idle : state.queue = [])
    (late : ∀ due, state.nextWaking? = some due → deadline ≤ due) :
    Runs staging (some deadline) (state.moveTo deadline) later ↔
      Runs staging (some deadline) state later := by
  by_cases now : state.nextWaking? = some deadline
  · exact runs_iff_of_proceeds (proceed?_of_waking idle now (by simp))
  · have after : ∀ due, state.nextWaking? = some due → deadline < due := by
      intro due next
      refine Nat.lt_of_le_of_ne (late due next) fun same => now ?_
      rw [next, same]
    have rests : proceed? staging (some deadline) state = none :=
      proceed?_eq_none idle fun due next => by simpa using after due next
    have restsThen : proceed? staging (some deadline) { state with clock := deadline } = none :=
      proceed?_eq_none idle fun due next => by simpa using after due next
    rw [moveTo_of_late after, runs_iff_of_rests rests, runs_iff_of_rests restsThen]
    rfl

/-- How far somebody who waits has come, beside the same session in which nobody does. -/
inductive Beside (given whole : State) : Watch → Prop
  | seeking (same : given = whole ∨ given.latest = none) : Beside given whole .seeking
  | looking {ticket : Nat} (noted : whole.latest = some ticket) (otherwise : given = whole.noting none) :
      Beside given whole (.looking ticket)
  | watching {ticket : Nat} (noted : whole.latest = some ticket) (otherwise : given = whole.noting none) :
      Beside given whole (.watching ticket)
  /-- The sequence that is waited for has begun another. -/
  | passing {ticket : Nat} {outcome : Outcome} (isOver : whole.outcome? ticket = some outcome)
      (same : given = whole) : Beside given whole (.watching ticket)
  | reported {report : Report} (timely : report ≠ .timedOut) : Beside given whole (.reported report)

/-- A wait for a sequence under way is given up at a moment, and the session in which nobody waits stands
there too, before what falls due then. -/
structure GivenUp (staging : Staging) (deadline : Nat) (whole given plain : State) (ticket : Nat) :
    Prop where
  noted : plain.latest = some ticket
  otherwise : given = plain.noting none
  unfinished : plain.outcome? ticket = none
  clock : plain.clock = deadline
  runs : ∀ later, Runs staging (some deadline) plain later ↔ Runs staging (some deadline) whole later

/-- What a step of a wait comes to beside the session in which nobody waits. -/
inductive Steps (staging : Staging) (deadline : Nat) (whole : State) : State × Watch → Prop
  | goesOn {given next : State} {progress : Watch} (beside : Beside given next progress)
      (inTime : next.clock ≤ deadline) (reaches : Reaches staging whole next)
      (runs : ∀ later, Runs staging (some deadline) next later ↔
        Runs staging (some deadline) whole later) :
      Steps staging deadline whole (given, progress)
  | givesUp {given plain : State} {ticket : Nat}
      (givenUp : GivenUp staging deadline whole given plain ticket) :
      Steps staging deadline whole (given, .reported .timedOut)

theorem beside_afterOutcome {given whole : State} (same : given = whole ∨ given.latest = none)
    (outcome : Outcome) : Beside given whole (afterOutcome outcome) := by
  cases outcome with
  | succeeded => exact .seeking same
  | failed trouble => exact .reported Report.noConfusion
  | brokenOff => exact .reported Report.noConfusion

/-- While a sequence is waited for, the session in which nobody waits still notes it, or it has come to
its end and begun another. -/
theorem beside_pump {whole : State} (foremost : whole.Foremost ticket) (noted : whole.latest = some ticket)
    (staging : Staging) :
    Beside ((whole.noting none).pump staging) (whole.pump staging) (.watching ticket) := by
  have pumped : Overlooks ticket ((whole.noting none).pump staging) (whole.pump staging) :=
    Overlooks.pump (.apart noted rfl) staging
  generalize reached : (whole.noting none).pump staging = given at pumped
  generalize reachedToo : whole.pump staging = next at pumped
  cases pumped with
  | apart still otherwise => exact .watching still otherwise
  | alike =>
      -- Nothing tells them apart any more, so a sequence was begun, which only this one can do by ending.
      rcases foremost.pump noted staging with still | ⟨outcome, isOver⟩
      · exfalso
        obtain ⟨sequence, generation, stage, performs⟩ := foremost.begun
        have inside := (List.getElem?_eq_some_iff.mp performs).1
        rw [reachedToo, ← reached] at still
        rcases latest_pump (whole.noting none) staging with kept | begun
        · cases kept.symm.trans still
        · have same : whole.activities.length = ticket := Option.some.inj (begun.symm.trans still)
          omega
      · rw [reachedToo] at isOver
        exact .passing isOver rfl

theorem Steps.stays {given whole : State} {progress : Watch} {deadline : Nat}
    (inTime : whole.clock ≤ deadline) (beside : Beside given whole progress) :
    Steps staging deadline whole (given, progress) :=
  .goesOn beside inTime (.refl staging whole) fun _ => Iff.rfl

/-- While there is something to do, both sessions do it. -/
theorem Steps.pumps {given whole : State} {progress : Watch} {deadline : Nat}
    (inTime : whole.clock ≤ deadline) (busy : (!whole.queue.isEmpty) = true)
    (beside : Beside given (whole.pump staging) progress) :
    Steps staging deadline whole (given, progress) := by
  refine .goesOn beside ?_ (whole.reaches_pump staging) fun later => ?_
  · rw [clock_pump]
    exact inTime
  · exact runs_iff_of_proceeds (proceed?_of_busy busy)

/-- While there is nothing to do, time passes, up to the end of the wait. -/
theorem steps_idle {whole : State} {deadline : Nat} (noted : whole.latest = some ticket)
    (unfinished : whole.outcome? ticket = none) (idle : whole.queue = []) :
    Steps staging deadline whole
      (match (whole.noting none).nextWaking? with
      | some due =>
          if isBefore due (some deadline) then ((whole.noting none).moveTo due, .watching ticket)
          else (whole.noting none).giveUp (some deadline)
      | none => (whole.noting none).giveUp (some deadline)) := by
  have gaveUp : (∀ due, whole.nextWaking? = some due → deadline ≤ due) →
      Steps staging deadline whole ((whole.noting none).giveUp (some deadline)) := by
    intro late
    have unfinishedThen : (whole.moveTo deadline).outcome? ticket = none :=
      (whole.outcome?_moveTo deadline ticket).trans unfinished
    have givenUp : GivenUp staging deadline whole ((whole.noting none).moveTo deadline)
        (whole.moveTo deadline) ticket :=
      ⟨noted, rfl, unfinishedThen, rfl, fun later => runs_moveTo_iff idle late⟩
    exact .givesUp givenUp
  rw [show (whole.noting none).nextWaking? = whole.nextWaking? from rfl]
  cases next : whole.nextWaking? with
  | none =>
      refine gaveUp fun due wakes => ?_
      cases next.symm.trans wakes
  | some due =>
      dsimp only
      split
      · rename_i early
        have before : due < deadline := of_decide_eq_true early
        have besideThen : Beside ((whole.noting none).moveTo due) (whole.moveTo due)
            (.watching ticket) := .watching noted rfl
        refine .goesOn besideThen (Nat.le_of_lt before)
          (whole.along_moveTo staging due).reaches fun later => ?_
        exact runs_iff_of_proceeds
          (proceed?_of_waking idle next (decide_eq_true (Nat.le_of_lt before)))
      · rename_i late
        refine gaveUp fun other wakes => ?_
        cases next.symm.trans wakes
        exact Nat.le_of_not_lt fun before => late (decide_eq_true before)

theorem steps_watch {initial given whole : State} {progress : Watch} {deadline : Nat}
    (opened : opening staging.story = .ok initial) (reaches : Reaches staging initial whole)
    (inTime : whole.clock ≤ deadline) (beside : Beside given whole progress)
    (unreported : progress.report? = none) :
    Steps staging deadline whole (watch staging (some deadline) given progress) := by
  cases beside with
  | seeking same =>
      rw [watch]
      cases latest : given.latest with
      | none => exact .stays inTime (.reported Report.noConfusion)
      | some ticket =>
          rcases same with rfl | nothing
          · exact .stays inTime (.looking latest rfl)
          · cases latest.symm.trans nothing
  | @looking ticket noted otherwise =>
      subst otherwise
      rw [watch]
      cases isOver : (whole.noting none).outcome? ticket with
      | some outcome => exact .stays inTime (beside_afterOutcome (.inr rfl) outcome)
      | none =>
          dsimp only
          split
          · exact .stays inTime (.watching noted rfl)
          · rename_i late
            have notBefore : ¬ whole.clock < deadline := fun before => late (decide_eq_true before)
            refine .givesUp ⟨noted, rfl, isOver, ?_, fun _ => Iff.rfl⟩
            omega
  | @watching ticket noted otherwise =>
      subst otherwise
      rw [watch]
      split
      · rename_i busy
        exact .pumps inTime busy (beside_pump (foremost_of_reaches opened reaches noted) noted staging)
      · rename_i notBusy
        have idle : whole.queue = [] := by simpa [noting] using notBusy
        cases isOver : (whole.noting none).outcome? ticket with
        | some outcome => exact .stays inTime (beside_afterOutcome (.inr rfl) outcome)
        | none => exact steps_idle noted isOver idle
  | @passing ticket outcome isOver same =>
      subst same
      rw [watch]
      split
      · rename_i busy
        have stillOver := outcome?_of_reaches isOver (given.reaches_pump staging)
        exact .pumps inTime busy (.passing stillOver rfl)
      · rw [isOver]
        exact .stays inTime (beside_afterOutcome (.inl rfl) outcome)
  | reported => cases unreported

theorem givenUp_of_watchFor {initial given whole final : State} {progress : Watch} {deadline bound : Nat}
    (opened : opening staging.story = .ok initial) (reaches : Reaches staging initial whole)
    (inTime : whole.clock ≤ deadline) (beside : Beside given whole progress)
    (done : watchFor staging (some deadline) bound given progress = some (final, .timedOut)) :
    ∃ plain ticket, GivenUp staging deadline whole final plain ticket := by
  induction bound generalizing given whole progress with
  | zero => cases done
  | succ bound inductionHypothesis =>
      cases reported : progress.report? with
      | some report =>
          cases beside with
          | reported timely => exact absurd (Vigil.eq_of_reported done).2.symm timely
          | _ => cases reported
      | none =>
          have steps := steps_watch opened reaches inTime beside reported
          rw [watchFor_step staging _ bound given (by rintro other rfl; cases reported)] at done
          generalize watch staging (some deadline) given progress = seen at steps done
          cases steps with
          | goesOn besideThen inTimeThen reachesThen runs =>
              obtain ⟨plain, ticket, givenUp⟩ :=
                inductionHypothesis (reaches.trans reachesThen) inTimeThen besideThen done
              exact ⟨plain, ticket,
                { givenUp with runs := fun later => (givenUp.runs later).trans (runs later) }⟩
          | givesUp givenUp =>
              obtain ⟨rfl, -⟩ := Vigil.eq_of_reported done
              exact ⟨_, _, givenUp⟩

/-! ## The next wait -/

theorem settle_of_unnoted (staging : Staging) (nothing : state.latest = none) (limit : Option Nat)
    (bound : Nat) : state.settle staging limit (bound + 2) = some (state, .settled) := by
  have answered : watch staging (limit.map (state.clock + ·)) state .seeking =
      (state, .reported .settled) := by
    rw [watch, nothing]
  rw [settle, watchFor_step staging _ _ _ (by simp), answered, watchFor_reported]

/-- While a sequence is noted that has ended, whoever begins to wait is answered at once. -/
theorem settle_of_outcome (staging : Staging) {outcome : Outcome} (noted : state.latest = some ticket)
    (isOver : state.outcome? ticket = some outcome) (limit : Option Nat) (bound : Nat) :
    state.settle staging limit (bound + 4) = some (state.noting none, outcome.report) := by
  have unnoted : (state.noting none).latest = none := rfl
  rw [settle_eq_of_noted staging noted isOver limit (bound + 2)]
  cases outcome with
  | succeeded => exact settle_of_unnoted staging unnoted limit bound
  | failed trouble => exact watchFor_reported staging _ (bound + 1) _ _
  | brokenOff => exact watchFor_reported staging _ (bound + 1) _ _

/-- Whoever looks at a sequence is told that all is settled only once it has ended. -/
theorem outcome?_of_watchFor {deadline : Option Nat} {bound : Nat} {final : State} {progress : Watch}
    (looks : progress.waiting = .awaiting ticket)
    (done : watchFor staging deadline bound state progress = some (final, .settled)) :
    ∃ outcome, final.outcome? ticket = some outcome := by
  induction bound generalizing state progress with
  | zero => cases done
  | succ bound inductionHypothesis =>
      have ended : ∀ {outcome further}, state.outcome? ticket = some outcome →
          watchFor staging deadline bound state further = some (final, .settled) →
          ∃ outcome, final.outcome? ticket = some outcome :=
        fun isOver later => ⟨_, outcome?_of_reaches isOver (along_watchFor later).reaches⟩
      have reported : ∀ {report}, report ≠ .settled → ∀ {other : State},
          watchFor staging deadline bound other (.reported report) = some (final, .settled) →
          ∃ outcome, final.outcome? ticket = some outcome :=
        fun different _ later => absurd (Vigil.eq_of_reported later).2.symm different
      rw [watchFor_step staging deadline bound state (by rintro other rfl; cases looks)] at done
      cases progress with
      | seeking => cases looks
      | reported => cases looks
      | looking sought =>
          cases looks
          rw [watch] at done
          cases isOver : state.outcome? ticket with
          | some outcome =>
              simp only [isOver] at done
              exact ended isOver done
          | none =>
              simp only [isOver] at done
              split at done
              · exact inductionHypothesis rfl done
              · exact reported Report.noConfusion done
      | watching sought =>
          cases looks
          rw [watch] at done
          split at done
          · exact inductionHypothesis rfl done
          · cases isOver : state.outcome? ticket with
            | some outcome =>
                simp only [isOver] at done
                exact ended isOver done
            | none =>
                have gaveUp : watchFor staging deadline bound (state.giveUp deadline).1
                    (state.giveUp deadline).2 = some (final, .settled) →
                    ∃ outcome, final.outcome? ticket = some outcome := by
                  cases deadline with
                  | none => exact reported Report.noConfusion
                  | some moment => exact reported Report.noConfusion
                simp only [isOver] at done
                split at done
                · split at done
                  · exact inductionHypothesis rfl done
                  · exact gaveUp done
                · exact gaveUp done

theorem outcome?_of_settled (noted : state.latest = some ticket) {limit : Option Nat} {bound : Nat}
    {final : State} (settled : state.settle staging limit bound = some (final, .settled)) :
    ∃ outcome, final.outcome? ticket = some outcome := by
  cases bound with
  | zero => cases settled
  | succ bound =>
      rw [settle, watchFor_step staging _ bound state (by simp), watch, noted] at settled
      exact outcome?_of_watchFor rfl settled

/-- A wait that is given up forgets the sequence that it was waiting for, and that is all it does. The
session stands as it does after as much time without the wait, before what falls due then, but for the note
of that sequence, which is still under way. From then on every move comes to the same in both, as long as
nobody waits, and once a sequence is begun nothing tells them apart. Until then, whoever waits is told at
once that all is settled. Without the wait that was given up they are told so only once that sequence has
ended, and if it has died, they are told of that. -/
theorem abandoned_wait_forgets (staging : Staging) {state given : State}
    (attained : Attained staging state) {limit bound : Nat}
    (abandoned : state.settle staging (some limit) bound = some (given, .timedOut)) :
    ∃ (plain : State) (ticket : Nat), given = plain.noting none ∧ plain.latest = some ticket ∧
      plain.outcome? ticket = none ∧ plain.clock = state.clock + limit ∧
      (∀ later reply, Makes staging plain (.advance 0) later reply ↔
        Makes staging state (.advance limit) later reply) ∧
      (∀ bound (moves : List Move), Option.Rel (List.Forall₂ (OverlooksWith ticket))
        (given.run staging bound (moves.map .move)) (plain.run staging bound (moves.map .move))) ∧
      ∀ givenLater plainLater, Overlooks ticket givenLater plainLater → givenLater ≠ plainLater →
        (∀ limit bound, givenLater.settle staging limit (bound + 2) = some (givenLater, .settled)) ∧
        (∀ limit bound final, plainLater.settle staging limit bound = some (final, .settled) →
          ∃ outcome, final.outcome? ticket = some outcome) ∧
        ∀ outcome, plainLater.outcome? ticket = some outcome → ∀ limit bound,
          plainLater.settle staging limit (bound + 4) = some (givenLater, outcome.report) := by
  obtain ⟨initial, opened, reaches⟩ := attained.comes
  obtain ⟨plain, ticket, givenUp⟩ := givenUp_of_watchFor opened reaches (Nat.le_add_right _ limit)
    (.seeking (.inl rfl)) abandoned
  refine ⟨plain, ticket, givenUp.otherwise, givenUp.noted, givenUp.unfinished, givenUp.clock, ?_, ?_, ?_⟩
  · intro later reply
    rw [makes_advance_iff, makes_advance_iff, givenUp.clock, Nat.add_zero, givenUp.runs later]
  · intro bound moves
    exact Overlooks.run (.apart givenUp.noted givenUp.otherwise) staging bound moves
  · intro givenLater plainLater overlooks different
    cases overlooks with
    | alike => exact absurd rfl different
    | apart noted otherwise =>
        subst otherwise
        exact ⟨settle_of_unnoted staging rfl, fun _ _ _ settled => outcome?_of_settled noted settled,
          fun outcome isOver => settle_of_outcome staging noted isOver⟩

/-- The wait is given up in the pause after the line, and whoever waits next is told that all is settled
while the sequence still rests. -/
theorem sample_abandonment :
    let staging : Staging := ⟨{ Story.sample with scenes := Story.sample.scenes.take 1 }, .silent⟩
    let begun := (initial .empty).course staging [.command .start]
    ∃ (given plain : State) (ticket : Nat), begun.settle staging (some 1) 9 = some (given, .timedOut) ∧
      given = plain.noting none ∧ plain.latest = some ticket ∧ plain.outcome? ticket = none ∧
      given.settle staging none 9 = some (given, .settled) := by
  intro staging begun
  have opened : opening staging.story = .ok (initial .empty) := rfl
  have listed : ∀ ticket ∈ begun.queue, ticket < begun.activities.length := by decide +kernel
  have attained : Attained staging begun := ⟨⟨initial .empty, opened, _, rfl⟩, listed⟩
  have givesUp : (begun.settle staging (some 1) 9).map Prod.snd = some .timedOut := by decide +kernel
  obtain ⟨⟨given, report⟩, abandoned, same⟩ := Option.map_eq_some_iff.mp givesUp
  dsimp only at same
  subst same
  obtain ⟨plain, ticket, forgotten, noted, unfinished, -, -, -, waits⟩ :=
    abandoned_wait_forgets staging attained abandoned
  refine ⟨given, plain, ticket, abandoned, forgotten, noted, unfinished, ?_⟩
  have different : given ≠ plain := by
    intro same
    rw [← same, forgotten] at noted
    cases noted
  exact (waits given plain (.apart noted forgotten) different).1 none 7

/-- Whoever waits for one millisecond and then again is told that all is settled, at once; whoever lets the
millisecond pass and then waits is told four milliseconds later what the sequence has died of. -/
theorem abandoned_wait_loses_trouble :
    let staging : Staging := ⟨{ Story.sample with scenes := Story.sample.scenes.take 1 }, .silent⟩
    let told := fun step => ((initial .empty).run staging 20
      [.move (.command .start), step, .settle none]).map fun all => all.map fun (state, answer) =>
        (state.clock, answer)
    told (.settle (some 1)) = some
      [(0, .reply (some .done)), (1, .report .timedOut), (1, .report .settled)] ∧
    told (.move (.advance 1)) = some
      [(0, .reply (some .done)), (1, .reply none),
        (5, .report (.failed (.undeclared "asking")))] := by
  decide +kernel

end State

end NarrativePlayer.Session
