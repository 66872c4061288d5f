import NarrativePlayer.Proofs.Session.Recital

/-!
Contract: what waiting leaves behind.

In a story without circles, whatever is commanded where a session waits for something, waiting comes to an
end. Owns that the session then waits again or has ended, unless a sequence was led astray: it never just
stops running. Whether anybody keeps record of the calls meanwhile makes no difference.
-/

namespace NarrativePlayer.Session

namespace Account

/-- Nothing goes on: something is waited for, or the story has ended. -/
def Stands (account : Account) : Prop :=
  account.mode = .ended ∨ account.mode.isWaiting = true

/-- What waiting can come to: all stands still, or there was trouble. -/
inductive Rests : Account × Report → Prop
  | settled {account : Account} (stands : account.Stands) : Rests (account, .settled)
  | failed (account : Account) (trouble : Trouble) : Rests (account, .failed trouble)

variable {story : Story} {account : Account}

/-! ## Scenes -/

theorem stands_of_arrive {arrived : Account} {id : String}
    (arrives : account.arrive story id = (arrived, .still)) : arrived.Stands := by
  unfold arrive at arrives
  split at arrives
  · cases arrives
  · split at arrives
    · cases arrives
      exact .inl rfl
    · cases arrives
  · cases arrives
    exact .inr rfl
  · cases arrives
    exact .inr rfl

theorem stands_of_depart {departed : Account} {clearing : List Event} {submitted : Option String}
    {actions : List Action} {target : String}
    (departs : account.depart story clearing submitted actions target = (departed, .still)) :
    departed.Stands := by
  unfold depart at departs
  split at departs
  · cases departs
  · exact stands_of_arrive departs

theorem stands_of_close {closed : Account} {body : Sequence}
    (closes : account.close story body = (closed, .still)) : closed.Stands := by
  unfold close at closes
  split at closes
  · cases closes
    exact .inr rfl
  · split at closes
    · cases closes
      exact .inl rfl
    · exact stands_of_arrive closes

/-- A command leaves an account standing that it does not go on from. -/
theorem stands_of_obey {obeyed : Account} {command : Command}
    (obeys : account.obey story command = (obeyed, .still))
    (stood : command = .start ∨ account.Stands) : obeyed.Stands := by
  cases command with
  | start => exact stands_of_arrive obeys
  | stop =>
      cases obeys
      exact .inl rfl
  | submit raw =>
      have before := stood.resolve_left Command.noConfusion
      simp only [obey] at obeys
      split at obeys
      · split at obeys
        · cases obeys
          exact before
        · split at obeys
          · cases obeys
            exact before
          · exact stands_of_depart obeys
      · cases obeys
        exact before
  | choose offer =>
      have before := stood.resolve_left Command.noConfusion
      simp only [obey] at obeys
      split at obeys
      · split at obeys
        · cases obeys
          exact before
        · exact stands_of_depart obeys
      · cases obeys
        exact before
  | enter =>
      have before := stood.resolve_left Command.noConfusion
      simp only [obey] at obeys
      split at obeys
      · split at obeys
        · exact stands_of_depart obeys
        · cases obeys
          exact .inl rfl
      · cases obeys
        exact before

/-! ## Sequences -/

theorem rests_of_last {closed : Account} {body : Sequence} {arrival : Arrival}
    (closes : account.close story body = (closed, arrival)) (last : arrival.beginning? = none) :
    Rests (closed, arrival.report) := by
  cases arrival with
  | refused trouble => exact .failed closed trouble
  | still => exact .settled (stands_of_close closes)
  | telling => cases last

/-- A chain of sequences that is over at some time leaves an account standing, or comes into trouble. -/
theorem rests_proceed {more : Nat} {body : Sequence} (found : story.find? body.id = some (.sequence body))
    (goesOn : body.terminal = false) (ends : story.EndsWithin more body.id) :
    Rests (proceed story more body account) := by
  induction more generalizing account body with
  | zero =>
      generalize closes : (account.recite body.lines).close story body = closed
      obtain ⟨after, arrival⟩ := closed
      have last := beginning?_of_close found goesOn ends closes
      rw [proceed_of_last 0 closes last]
      exact rests_of_last closes last
  | succ more inductionHypothesis =>
      generalize closes : (account.recite body.lines).close story body = closed
      obtain ⟨after, arrival⟩ := closed
      by_cases last : arrival.beginning? = none
      · rw [proceed_of_last (more + 1) closes last]
        exact rests_of_last closes last
      · cases arrival with
        | refused => exact absurd rfl last
        | still => exact absurd rfl last
        | telling heir =>
            obtain ⟨tells, leads⟩ := onward?_of_close found goesOn closes
            rw [proceed_of_heir more closes]
            exact inductionHypothesis tells.found tells.goesOn (ends heir.id leads)

theorem rests_conclude {arrival : Arrival} (unrefused : ∀ trouble, arrival ≠ .refused trouble)
    (stands : arrival = .still → account.Stands)
    (tells : ∀ body, arrival = .telling body → account.Tells story body)
    (straight : ∀ id, arrival.beginning? = some id → story.Straight id) :
    Rests (conclude story (account, arrival)) := by
  cases arrival with
  | refused trouble => exact absurd rfl (unrefused trouble)
  | still => exact .settled (stands rfl)
  | telling body =>
      have told := tells body rfl
      exact rests_proceed told.found told.goesOn (Story.endsWithin_of_straight (straight body.id rfl))

end Account

namespace State

variable {staging : Staging} {state : State}

/-! ## Leaving the calls aside -/

/-- A session of whose calls no record was kept. -/
def untold (state : State) : State :=
  { state with trace := [] }

theorem Steady.untold {story : Story} (steady : state.Steady story) : state.untold.Steady story where
  orderly := ⟨steady.orderly.notAhead, steady.orderly.apart, steady.orderly.declared,
    steady.orderly.onLine, steady.orderly.failed⟩
  coherent := steady.coherent
  underWay := steady.underWay

theorem Quiet.untold (quiet : state.Quiet) : state.untold.Quiet :=
  ⟨⟨quiet.printOpen, quiet.displayOpen, quiet.intact⟩, quiet.isOver, quiet.queue, quiet.latest⟩

theorem Responds.untold {result : State × Reply} {arrival : Arrival}
    (responds : Responds state result arrival) :
    Responds state (result.1.untold, result.2) arrival := by
  cases responds with
  | refused trouble position trace => exact .refused trouble position []
  | still position trace => exact .still position []
  | telling body position trace => exact .telling body position []

/-! ## Waiting -/

/-- Waiting for a session comes to an end, with a report, and leaves the session quiet. -/
structure Settles (staging : Staging) (session final : State) (report : Report) : Prop where
  settled : ∃ enough, ∀ bound, enough ≤ bound →
    session.settle staging none bound = some (final, report)
  quiet : final.Quiet
  steady : final.Steady staging.story
  rests : Account.Rests (final.account, report)

theorem Settles.unique {session final other : State} {report again : Report}
    (settles : Settles staging session final report) {bound : Nat}
    (done : session.settle staging none bound = some (other, again)) :
    other = final ∧ again = report := by
  obtain ⟨enough, settled⟩ := settles.settled
  cases settle_unique done (settled enough (Nat.le_refl _))
  exact ⟨rfl, rfl⟩

/-- A wait is over with the story ended, with something waited for, or in trouble. -/
theorem Settles.cases {session final : State} {report : Report}
    (settles : Settles staging session final report) :
    (report = .settled ∧ final.position.mode = .ended) ∨
      (report = .settled ∧ ∃ interaction, final.position.mode = .waiting interaction) ∨
        ∃ trouble, report = .failed trouble := by
  have rests := settles.rests
  generalize shows : final.account = account at rests
  have same : final.position.mode = account.mode := congrArg Account.mode shows
  cases rests with
  | failed account trouble => exact .inr (.inr ⟨trouble, rfl⟩)
  | settled stands =>
      rcases stands with ended | waits
      · exact .inl ⟨rfl, same.trans ended⟩
      · rw [← same] at waits
        cases mode : final.position.mode with
        | waiting interaction => exact .inr (.inl ⟨rfl, interaction, rfl⟩)
        | idle => rw [mode] at waits; cases waits
        | running => rw [mode] at waits; cases waits
        | ended => rw [mode] at waits; cases waits

/-- The only trouble is that the last sequence was led to an id that is not declared. -/
theorem Settles.ledAstray {session final : State} {trouble : Trouble}
    (settles : Settles staging session final (.failed trouble)) :
    ∃ ticket sequence generation target,
      final.Performs ticket sequence generation (.finished (.failed trouble)) ∧
        sequence.awaits = none ∧ sequence.next = some target ∧
        staging.story.find? target = none ∧ trouble = .undeclared target := by
  obtain ⟨enough, settled⟩ := settles.settled
  obtain ⟨ticket, isOver⟩ := outcome?_of_settle (settled enough (Nat.le_refl _))
  obtain ⟨sequence, generation, performs⟩ := performs_of_outcome? isOver
  obtain ⟨target, unawaited, next, absent, same⟩ := settles.steady.orderly.failed performs
  exact ⟨ticket, sequence, generation, target, performs, unawaited, next, absent, same⟩

/-- A session that stands still is not waited for. -/
theorem Quiet.settles_at_once (quiet : state.Quiet) (steady : state.Steady staging.story)
    (stands : state.account.Stands) : Settles staging state state .settled :=
  ⟨settle_of_watchesOn (quiet.seek staging), quiet, steady, .settled stands⟩

/-- A session in which a command was carried out and nothing was waited for since, with what the command led
to. -/
structure Underway (staging : Staging) (session : State) (arrival : Arrival) : Prop where
  responds : ∃ base reply, base.Quiet ∧ Responds base (session, reply) arrival
  steady : session.Steady staging.story
  unrefused : ∀ trouble, arrival ≠ .refused trouble
  stands : arrival = .still → session.account.Stands
  tells : ∀ body, arrival = .telling body → session.account.Tells staging.story body

/-- A session that stands still is where a command has led that leads to nothing. -/
theorem Quiet.underway (quiet : state.Quiet) (steady : state.Steady staging.story)
    (stands : state.account.Stands) : Underway staging state .still where
  responds := ⟨state, .done, quiet, .still state.position state.trace⟩
  steady := steady
  unrefused _ := Arrival.noConfusion
  stands _ := stands
  tells _ := Arrival.noConfusion

theorem Quiet.underway_execute (quiet : state.Quiet) (steady : state.Steady staging.story)
    (startDeclared : staging.story.declares staging.story.start = true) {command : Command}
    (stood : command = .start ∨ state.account.Stands)
    (unfailed : ∀ trouble, (state.execute staging command).2 ≠ .failed trouble) :
    ∃ arrival, Underway staging (state.execute staging command).1.untold arrival ∧
      state.account.obey staging.story command =
        ((state.execute staging command).1.account, arrival) := by
  obtain ⟨arrival, responds, obeyed⟩ := responds_execute quiet.toPrompt steady command
  have steadyAfter : (state.execute staging command).1.untold.Steady staging.story :=
    (steady.after startDeclared (.command command)).untold
  refine ⟨arrival, ⟨⟨state, _, quiet, responds.untold⟩, steadyAfter, ?_, ?_, ?_⟩, obeyed⟩
  · rintro trouble rfl
    exact unfailed trouble responds.reply_eq
  · rintro rfl
    have stands : (state.execute staging command).1.account.Stands :=
      Account.stands_of_obey obeyed stood
    exact stands
  · rintro body rfl
    have told := Account.tells_of_obey obeyed
    exact ⟨told.found, told.goesOn, told.running, told.here, told.unawaited⟩

/-- Waiting comes to an end where the chain that was led to visits no scene twice, and leaves behind what the
telling in sequence does. -/
theorem Underway.settles {session : State} {arrival : Arrival}
    (underway : Underway staging session arrival)
    (startDeclared : staging.story.declares staging.story.start = true)
    (straight : ∀ id, arrival.beginning? = some id → staging.story.Straight id) :
    ∃ final report, Settles staging session final report ∧
      (final.account, report) = Account.conclude staging.story (session.account, arrival) := by
  obtain ⟨base, reply, quiet, responds⟩ := underway.responds
  obtain ⟨final, quietFinally, same, watches⟩ :=
    responds.watched quiet underway.tells fun id first => straight id (Option.mem_toList.mp first)
  obtain ⟨enough, settled⟩ := settle_of_watchesOn watches
  have steadyFinally : final.Steady staging.story :=
    underway.steady.of_reaches startDeclared (reaches_settle (settled enough (Nat.le_refl _)))
  have concluded : (final.account, (Account.conclude staging.story (session.account, arrival)).2) =
      Account.conclude staging.story (session.account, arrival) := by rw [same]
  have rests := Account.rests_conclude underway.unrefused underway.stands underway.tells straight
  rw [← concluded] at rests
  exact ⟨final, _, ⟨⟨enough, settled⟩, quietFinally, steadyFinally, rests⟩, concluded⟩

/-- In a story without circles, waiting comes to an end after every command that does not fail. -/
theorem Quiet.settles (quiet : state.Quiet) (steady : state.Steady staging.story)
    (startDeclared : staging.story.declares staging.story.start = true)
    (acyclic : staging.story.Acyclic) {command : Command}
    (stood : command = .start ∨ state.account.Stands)
    (unfailed : ∀ trouble, (state.execute staging command).2 ≠ .failed trouble) :
    ∃ final report, Settles staging (state.execute staging command).1.untold final report := by
  obtain ⟨arrival, underway, -⟩ := quiet.underway_execute steady startDeclared stood unfailed
  obtain ⟨final, report, settles, -⟩ := underway.settles startDeclared fun id _ => acyclic.straight id
  exact ⟨final, report, settles⟩

end State

end NarrativePlayer.Session
