import NarrativePlayer.Proofs.Session.MirroredPast

/-!
Contract: what a session does mirrors what the session without its past does.

Entering a scene, taking a sequence further, and obeying a command look at the parts of the state that
are mirrored and at nothing else, and a generation is only ever compared with another. So done to both
sessions, they leave both in states of which one mirrors the other, with the same outcome.
-/

namespace NarrativePlayer.Session

/-- A reply with the ticket of the newer session. -/
def Reply.later (past : Past) : Reply → Reply
  | .held ticket => .held (ticket + past.tickets)
  | reply => reply

namespace State

variable {past : Past} {worn fresh : State}

/-! ## Entering a scene -/

theorem Mirrors.display (mirrors : Mirrors past worn fresh) {event : Event}
    (timeless : event.later past = event) :
    Mirrors past (worn.display event).1 (fresh.display event).1 ∧
      (worn.display event).2 = (fresh.display event).2 := by
  have shown := mirrors.emit event
  rw [timeless] at shown
  refine ⟨shown, ?_⟩
  simp only [State.display, mirrors.displayOpen]

theorem Mirrors.await (mirrors : Mirrors past worn fresh) (staging : Staging)
    (interaction : Interaction) (scene : String) :
    Mirrors past (worn.await staging interaction scene) (fresh.await staging interaction scene) := by
  have parked : worn.position.park interaction scene =
      (fresh.position.park interaction scene).later past := by
    rw [mirrors.position]
    rfl
  exact (mirrors.place parked).announce staging scene _

theorem Mirrors.finish (mirrors : Mirrors past worn fresh) (staging : Staging) (id : String) :
    Mirrors past (worn.finish staging id) (fresh.finish staging id) := by
  refine (mirrors.place ?_).announce staging id _
  rw [mirrors.position]
  rfl

theorem Mirrors.beginSequence (mirrors : Mirrors past worn fresh) (staging : Staging) (id : String)
    (sequence : Sequence) :
    Mirrors past (worn.beginSequence staging id sequence) (fresh.beginSequence staging id sequence) := by
  have renewed : { worn.position with current := some id, mode := .running }.renew =
      ({ fresh.position with current := some id, mode := .running }.renew).later past := by
    rw [Position.later_renew, mirrors.position]
    rfl
  have begun := ((mirrors.place renewed).announce staging id .running).act staging none
    sequence.actions
  have spawned := begun.spawn (.performance sequence
    ({ fresh.position with current := some id, mode := .running }.renew).generation (.ready 0))
  unfold State.beginSequence
  simp only [renewed] at spawned ⊢
  exact { spawned with }

theorem Mirrors.enter (mirrors : Mirrors past worn fresh) (staging : Staging) (id : String)
    (generation : Nat) :
    Mirrors past (worn.enter staging id (generation + past.generation)).1
        (fresh.enter staging id generation).1 ∧
      (worn.enter staging id (generation + past.generation)).2 =
        (fresh.enter staging id generation).2 := by
  unfold State.enter
  cases staging.story.find id with
  | error trouble => exact ⟨mirrors, rfl⟩
  | ok scene =>
      have noted := mirrors.note staging .engine .debug s!"[Enter] {scene.kind.word} state '{id}'"
      dsimp only
      rw [noted.isCurrent]
      split
      · exact ⟨noted, rfl⟩
      · split
        · exact ⟨noted.finish staging id, rfl⟩
        · cases scene with
          | sequence body => exact ⟨noted.beginSequence staging id body, rfl⟩
          | question body => exact (noted.await staging .answer id).display rfl
          | choice body =>
              have parked := noted.await staging .choice id
              dsimp only
              rw [parked.position]
              exact parked.display rfl

/-! ## Taking a sequence further -/

theorem Mirrors.abandon (mirrors : Mirrors past worn fresh) (staging : Staging) (id message : String) :
    Mirrors past (worn.abandon staging id message).1 (fresh.abandon staging id message).1 ∧
      (worn.abandon staging id message).2 = (fresh.abandon staging id message).2.later past :=
  ⟨mirrors.note staging _ _ _, rfl⟩

theorem Mirrors.beginLine (mirrors : Mirrors past worn fresh) (staging : Staging) (id : String)
    (generation index : Nat) (line : Line) :
    Mirrors past (worn.beginLine staging id (generation + past.generation) index line).1
        (fresh.beginLine staging id generation index line).1 ∧
      (worn.beginLine staging id (generation + past.generation) index line).2 =
        (fresh.beginLine staging id generation index line).2.later past := by
  have sameStore : worn.position.store = fresh.position.store := by
    rw [mirrors.position]
    rfl
  unfold State.beginLine
  rw [sameStore]
  have noted := mirrors.note staging .timing .trace
    s!"[Line] '{id}' #{index}: {Template.fill line.text fresh.position.store}"
  dsimp only
  rw [noted.isCurrent, noted.faulty]
  split
  · exact noted.abandon staging id _
  · split
    · exact ⟨{ noted with faulty := rfl }, rfl⟩
    · have printed := noted.emit
        (.print (fresh.note staging .timing .trace
          s!"[Line] '{id}' #{index}: {Template.fill line.text fresh.position.store}").clock
          (Template.fill line.text fresh.position.store) line.instant line.speed)
      rw [noted.clock, noted.printOpen]
      exact ⟨printed, rfl⟩

theorem Mirrors.endLine (mirrors : Mirrors past worn fresh) (staging : Staging) (id : String)
    (generation index : Nat) (line : Line) :
    Mirrors past (worn.endLine staging id (generation + past.generation) index line).1
        (fresh.endLine staging id generation index line).1 ∧
      (worn.endLine staging id (generation + past.generation) index line).2 =
        (fresh.endLine staging id generation index line).2.later past := by
  unfold State.endLine
  rw [mirrors.isCurrent, mirrors.clock]
  split
  · exact mirrors.abandon staging id _
  · split
    · refine ⟨mirrors, ?_⟩
      simp only [Stage.later, Nat.add_right_comm]
    · exact ⟨mirrors, rfl⟩

theorem Mirrors.conclude (mirrors : Mirrors past worn fresh) (staging : Staging) (generation : Nat)
    (sequence : Sequence) :
    Mirrors past (worn.conclude staging (generation + past.generation) sequence).1
        (fresh.conclude staging generation sequence).1 ∧
      (worn.conclude staging (generation + past.generation) sequence).2 =
        (fresh.conclude staging generation sequence).2.later past := by
  unfold State.conclude
  rw [mirrors.isCurrent]
  dsimp only
  split
  · exact mirrors.abandon staging sequence.id _
  · split
    · exact ⟨mirrors.await staging .enter sequence.id, rfl⟩
    · split
      · refine ⟨(mirrors.place ?_).announce staging sequence.id .ended, rfl⟩
        rw [mirrors.position]
        rfl
      · rename_i target _
        obtain ⟨entered, sameEntrance⟩ := mirrors.enter staging target generation
        generalize worn.enter staging target (generation + past.generation) = result
          at entered sameEntrance ⊢
        generalize fresh.enter staging target generation = other at entered sameEntrance ⊢
        obtain ⟨wornEntered, entrance⟩ := result
        obtain ⟨freshEntered, otherEntrance⟩ := other
        cases sameEntrance
        cases entrance with
        | made => exact ⟨entered, rfl⟩
        | held => exact ⟨entered, rfl⟩
        | failed trouble => exact ⟨entered.emit (.failed sequence.id trouble), rfl⟩

theorem Mirrors.perform (mirrors : Mirrors past worn fresh) (staging : Staging) (sequence : Sequence)
    (generation : Nat) (stage : Stage) :
    Mirrors past
        (worn.perform staging sequence (generation + past.generation) (stage.later past)).1
        (fresh.perform staging sequence generation stage).1 ∧
      (worn.perform staging sequence (generation + past.generation) (stage.later past)).2 =
        (fresh.perform staging sequence generation stage).2.later past := by
  cases stage with
  | ready index =>
      simp only [State.perform, Stage.later]
      split
      · exact mirrors.beginLine staging sequence.id generation index _
      · exact mirrors.conclude staging generation sequence
  | printing index released =>
      cases released with
      | false => exact ⟨mirrors, rfl⟩
      | true =>
          simp only [State.perform, Stage.later]
          split
          · exact mirrors.endLine staging sequence.id generation index _
          · exact ⟨mirrors, rfl⟩
  | resting index due => exact ⟨mirrors, rfl⟩
  | presenting released =>
      cases released with
      | false => exact ⟨mirrors, rfl⟩
      | true => exact ⟨mirrors, rfl⟩
  | finished outcome => exact ⟨mirrors, rfl⟩

theorem Mirrors.goOn (mirrors : Mirrors past worn fresh) (staging : Staging) (ticket : Nat) :
    Mirrors past (worn.goOn staging (ticket + past.tickets)) (fresh.goOn staging ticket) := by
  unfold State.goOn
  rw [mirrors.getElem?_activities]
  cases fresh.activities[ticket]? with
  | none => exact mirrors
  | some activity =>
      cases activity with
      | performance sequence generation stage =>
          obtain ⟨performed, sameStage⟩ := mirrors.perform staging sequence generation stage
          simp only [Option.map_some, Activity.later]
          rw [sameStage]
          exact performed.replace ticket (.performance sequence generation _)
      | call released finished =>
          cases released with
          | false => exact mirrors
          | true =>
              cases finished with
              | false => exact (mirrors.emit (.done ticket)).replace ticket (.call true true)
              | true => exact mirrors

/-! ## Obeying a command -/

theorem Mirrors.reply {entered other : State} {entrance same : Entrance}
    (mirrors : Mirrors past entered other) (alike : entrance = same) :
    Mirrors past (State.reply (entered, entrance)).1 (State.reply (other, same)).1 ∧
      (State.reply (entered, entrance)).2 = (State.reply (other, same)).2.later past := by
  subst alike
  cases entrance with
  | made => exact ⟨mirrors, rfl⟩
  | failed trouble => exact ⟨mirrors, rfl⟩
  | held =>
      refine ⟨mirrors.spawn (.call false false), ?_⟩
      simp only [State.reply, Reply.later, mirrors.length_activities]

theorem Mirrors.start (mirrors : Mirrors past worn fresh) (staging : Staging) :
    Mirrors past (worn.start staging).1 (fresh.start staging).1 ∧
      (worn.start staging).2 = (fresh.start staging).2.later past := by
  have renewed : worn.position.release.renew = (fresh.position.release.renew).later past := by
    rw [Position.later_renew, mirrors.position]
    rfl
  have cleared := ((mirrors.place renewed).note staging .engine .info
    s!"[Start] story '{staging.story.id}' v{staging.story.version} at '{staging.story.start}'").emit
      .clear
  obtain ⟨entered, sameEntrance⟩ := cleared.enter staging staging.story.start
    fresh.position.release.renew.generation
  unfold State.start
  rw [renewed] at entered sameEntrance ⊢
  exact entered.reply sameEntrance

theorem Mirrors.stop (mirrors : Mirrors past worn fresh) (staging : Staging) :
    Mirrors past (worn.stop staging) (fresh.stop staging) := by
  have renewed : { worn.position.release.renew with mode := .ended } =
      Position.later past { fresh.position.release.renew with mode := .ended } := by
    rw [mirrors.position]
    simp only [Position.later, Position.release, Position.renew, Nat.add_right_comm]
  unfold State.stop
  rw [renewed]
  exact ((mirrors.place rfl).note staging _ _ _).announce staging _ _

theorem Mirrors.ignore (mirrors : Mirrors past worn fresh) (staging : Staging) (message : String) :
    Mirrors past (worn.ignore staging message).1 (fresh.ignore staging message).1 ∧
      (worn.ignore staging message).2 = (fresh.ignore staging message).2.later past :=
  ⟨mirrors.note staging _ _ _, rfl⟩

theorem Mirrors.follow (mirrors : Mirrors past worn fresh) (staging : Staging)
    (submitted : Option String) (actions : List Action) (target : String) :
    Mirrors past (worn.follow staging submitted actions target).1
        (fresh.follow staging submitted actions target).1 ∧
      (worn.follow staging submitted actions target).2 =
        (fresh.follow staging submitted actions target).2.later past := by
  unfold State.follow
  split
  · exact ⟨mirrors, rfl⟩
  · have acted := mirrors.act staging submitted actions
    have released : (worn.act staging submitted actions).position.release =
        ((fresh.act staging submitted actions).position.release).later past := by
      rw [acted.position]
      rfl
    have cleared := (acted.place released).emit .clear
    obtain ⟨entered, sameEntrance⟩ := cleared.enter staging target
      (fresh.act staging submitted actions).position.release.generation
    dsimp only
    rw [released] at entered sameEntrance ⊢
    exact entered.reply sameEntrance

theorem Mirrors.pendingFor? (mirrors : Mirrors past worn fresh) (interaction : Interaction) :
    worn.position.pendingFor? interaction = fresh.position.pendingFor? interaction := by
  rw [mirrors.position]
  rfl

theorem Mirrors.submit (mirrors : Mirrors past worn fresh) (staging : Staging) (raw : String) :
    Mirrors past (worn.submit staging raw).1 (fresh.submit staging raw).1 ∧
      (worn.submit staging raw).2 = (fresh.submit staging raw).2.later past := by
  unfold State.submit
  rw [mirrors.pendingFor?]
  split
  · exact mirrors.ignore staging _
  · split
    · exact ⟨mirrors, rfl⟩
    · dsimp only
      split
      · exact mirrors.ignore staging _
      · split
        · rename_i message _
          exact ⟨(mirrors.note staging _ _ _).emit (.invalid message), rfl⟩
        · exact mirrors.follow staging _ _ _

theorem Mirrors.choose (mirrors : Mirrors past worn fresh) (staging : Staging) (offer : String) :
    Mirrors past (worn.choose staging offer).1 (fresh.choose staging offer).1 ∧
      (worn.choose staging offer).2 = (fresh.choose staging offer).2.later past := by
  unfold State.choose
  rw [mirrors.pendingFor?]
  split
  · exact mirrors.ignore staging _
  · split
    · exact ⟨mirrors, rfl⟩
    · split
      · exact mirrors.ignore staging _
      · exact mirrors.follow staging _ _ _

theorem Mirrors.acknowledge (mirrors : Mirrors past worn fresh) (staging : Staging) :
    Mirrors past (worn.acknowledge staging).1 (fresh.acknowledge staging).1 ∧
      (worn.acknowledge staging).2 = (fresh.acknowledge staging).2.later past := by
  have released : worn.position.release = fresh.position.release.later past := by
    rw [mirrors.position]
    rfl
  unfold State.acknowledge
  rw [mirrors.pendingFor?]
  split
  · exact mirrors.ignore staging _
  · split
    · exact ⟨mirrors, rfl⟩
    · split
      · rename_i target _
        split
        · exact ⟨mirrors, rfl⟩
        · obtain ⟨entered, sameEntrance⟩ := (mirrors.place released).enter staging target
            fresh.position.release.generation
          rw [released] at entered sameEntrance ⊢
          exact entered.reply sameEntrance
      · refine ⟨((mirrors.place ?_).note staging _ _ _).announce staging _ _, rfl⟩
        rw [released]
        rfl

theorem Mirrors.execute (mirrors : Mirrors past worn fresh) (staging : Staging) (command : Command) :
    Mirrors past (worn.execute staging command).1 (fresh.execute staging command).1 ∧
      (worn.execute staging command).2 = (fresh.execute staging command).2.later past := by
  cases command with
  | start => exact mirrors.start staging
  | stop => exact ⟨mirrors.stop staging, rfl⟩
  | submit answer => exact mirrors.submit staging answer
  | choose offer => exact mirrors.choose staging offer
  | enter => exact mirrors.acknowledge staging

end State

end NarrativePlayer.Session
