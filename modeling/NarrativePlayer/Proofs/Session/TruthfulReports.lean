import NarrativePlayer.Proofs.Session.SequenceAccounts

/-!
Contract: whoever waits for a session is answered truthfully.

That all is settled is said only when no sequence in force is unfinished, and none has died untold. A
sequence that has died is owed an answer until it was given, or another sequence has taken over: owns
that the first answer since is the one that is owed.
-/

namespace NarrativePlayer.Session

namespace Vigil

variable {staging : Staging} {vigil later : Vigil}

/-! ## A failure in force is what the next answer is about -/

/-- The answer to whoever waits is certain: the sequence that is awaited has died. -/
def Due (vigil : Vigil) (ticket : Nat) (report : Report) : Prop :=
  vigil.waiting = .awaiting ticket ∧ ∃ generation, vigil.state.Died generation ticket report

/-- The answer to whoever waits is open: the sequence that is awaited is held up with a line. -/
def Open (vigil : Vigil) (ticket : Nat) : Prop :=
  vigil.waiting = .awaiting ticket ∧ vigil.state.HeldUp ticket

/-- Whoever waits cannot be told of a sequence, since an earlier point of a vigil, but that it died of the
line it was held up with then. -/
structure Free (earlier vigil : Vigil) : Prop where
  due : ∀ {other due}, vigil.Due other due → due = .brokenOff ∧ earlier.Open other
  stillOpen : ∀ {other}, vigil.Open other → earlier.Open other

theorem free_of_seeking {earlier : Vigil} (seeking : vigil.waiting = .seeking) : Free earlier vigil where
  due isDue := by
    obtain ⟨awaiting, -⟩ := isDue
    cases seeking.symm.trans awaiting
  stillOpen isOpen := by
    obtain ⟨awaiting, -⟩ := isOpen
    cases seeking.symm.trans awaiting

/-- What has become, since an earlier point of a vigil, of telling that a sequence has died. -/
inductive Owed (earlier : Vigil) (generation ticket : Nat) (report : Report) (vigil : Vigil) : Prop
  | told (already : (some ticket, report) ∈ earlier.reports)
  | answered (longer : earlier.reports.length < vigil.reports.length)
  | superseded (newer : generation < vigil.state.position.generation)
  | noted (latest : vigil.state.latest = some ticket) (free : Free earlier vigil)
  | awaited (waiting : vigil.waiting = .awaiting ticket)

section Owed

variable {earlier : Vigil} {generation ticket : Nat} {report : Report}

theorem Accounted.owed (accounted : vigil.Accounted)
    (died : vigil.state.Died vigil.state.position.generation ticket report)
    (free : ∀ other due, vigil.Due other due → other = ticket) :
    Owed vigil vigil.state.position.generation ticket report vigil := by
  by_cases awaiting : vigil.waiting = .awaiting ticket
  · exact .awaited awaiting
  · obtain ⟨sequence, outcome, performs, reports⟩ := died
    cases accounted.knows performs with
    | noted noted =>
        refine .noted noted ⟨fun {other due} isDue => ?_, id⟩
        rw [free other due isDue] at isDue
        exact absurd isDue.1 awaiting
    | awaited awaited => exact absurd awaited awaiting
    | told reported => exact .told (reported report reports)

theorem Owed.looks (owed : Owed earlier generation ticket report vigil)
    (died : vigil.state.Died generation ticket report)
    (grown : earlier.reports.IsPrefix vigil.reports) (looks : Looks vigil later) :
    Owed earlier generation ticket report later := by
  cases owed with
  | told already => exact .told already
  | answered longer => exact .answered (Nat.lt_of_lt_of_le longer looks.reports_kept.length_le)
  | superseded newer => exact .superseded (looks.position_eq ▸ newer)
  | noted noted free =>
      cases looks with
      | idles => exact .noted noted free
      | stays => exact .noted noted free
      | settles seeking nothing =>
          rw [nothing] at noted
          cases noted
      | takes seeking latest =>
          rw [latest] at noted
          cases noted
          exact .awaited rfl
      | passes => exact .noted noted (free_of_seeking rfl)
      | tells =>
          have longer := grown.length_le
          refine .answered ?_
          rw [List.length_append, List.length_singleton]
          omega
  | awaited awaited =>
      rcases looks.of_awaited awaited with still | ⟨outcome, isOver, told⟩
      · exact .awaited still
      · have longer := grown.length_le
        refine .answered ?_
        rw [told report (died.report?_eq isOver), List.length_append, List.length_singleton]
        omega

/-- While a sequence that has died is in force, no other begins a line or dies of itself. -/
theorem Free.happens (free : Free earlier vigil) (died : vigil.state.Died generation ticket report)
    (steady : vigil.state.Steady staging.story) {happening : Happening}
    (inForce : generation = (vigil.state.after staging happening).position.generation) :
    Free earlier { vigil with state := vigil.state.after staging happening } := by
  obtain ⟨sequence, outcome, performs, reports⟩ := id died
  have orderly := steady.orderly.after happening
  have notAhead := steady.orderly.notAhead performs
  have notBefore := vigil.state.generation_le_after staging happening
  refine ⟨?_, ?_⟩
  · rintro other due ⟨awaiting, since, isDue⟩
    rcases isDue.before with before | current | ⟨rfl, heldUp⟩
    · exact free.due ⟨awaiting, since, before⟩
    · -- A sequence that dies now is the one in force, which has died already.
      have sameGeneration : since = generation := by omega
      subst sameGeneration
      have again : (vigil.state.after staging happening).Died since ticket report := died.after happening
      obtain ⟨_, _, otherPerforms, -⟩ := id isDue
      obtain rfl := orderly.apart otherPerforms (performs.finished_after happening)
      rw [isDue.unique again]
      exact free.due ⟨awaiting, since, died⟩
    · exact ⟨rfl, free.stillOpen ⟨awaiting, heldUp⟩⟩
  · rintro other ⟨awaiting, body, since, index, held⟩
    by_cases current : vigil.state.position.generation = since
    · have sameGeneration : since = generation := by omega
      subst sameGeneration
      obtain rfl := orderly.apart held (performs.finished_after happening)
      cases (held.unique (performs.finished_after happening)).2.2
    · exact free.stillOpen ⟨awaiting, body, since, index, held.heldUp_before current⟩

theorem Owed.happens (owed : Owed earlier generation ticket report vigil)
    (died : vigil.state.Died generation ticket report) (steady : vigil.state.Steady staging.story)
    (startDeclared : staging.story.declares staging.story.start = true) {happening : Happening}
    (untaken : happening ≠ .take) :
    Owed earlier generation ticket report
      { vigil with state := vigil.state.after staging happening } := by
  have notBefore := vigil.state.generation_le_after staging happening
  cases owed with
  | told already => exact .told already
  | answered longer => exact .answered longer
  | superseded newer => exact .superseded (Nat.lt_of_lt_of_le newer notBefore)
  | awaited awaited => exact .awaited awaited
  | noted noted free =>
      obtain ⟨sequence, outcome, performs, reports⟩ := id died
      have notAhead := steady.orderly.notAhead performs
      cases vigil.state.enrolls_after startDeclared untaken with
      | begun body latest newer => exact .superseded (Nat.lt_of_le_of_lt notAhead newer)
      | kept latest =>
          rcases Nat.eq_or_lt_of_le (Nat.le_trans notAhead notBefore) with inForce | newer
          · exact .noted (latest.trans noted) (free.happens died steady inForce)
          · exact .superseded newer

theorem Owed.after (owed : Owed earlier generation ticket report vigil)
    (died : vigil.state.Died generation ticket report) (steady : vigil.state.Steady staging.story)
    (startDeclared : staging.story.declares staging.story.start = true)
    (grown : earlier.reports.IsPrefix vigil.reports) (turn : Turn) :
    Owed earlier generation ticket report (vigil.after staging turn) := by
  cases turn with
  | happens happening untaken => exact owed.happens died steady startDeclared untaken
  | waits =>
      rw [Vigil.after]
      split
      · rename_i nobody
        cases owed with
        | told already => exact .told already
        | answered longer => exact .answered longer
        | superseded newer => exact .superseded newer
        | noted noted => exact .noted noted (free_of_seeking rfl)
        | awaited awaited =>
            rw [nobody] at awaited
            cases awaited
      · exact owed
  | looks => exact owed.looks died grown (vigil.looks_look staging)

theorem died_after (died : vigil.state.Died generation ticket report) (turn : Turn) :
    (vigil.after staging turn).state.Died generation ticket report := by
  cases turn with
  | happens happening untaken => exact died.after happening
  | waits =>
      rw [Vigil.after]
      split <;> exact died
  | looks => exact (vigil.looks_look staging).died died

theorem reports_kept_after (staging : Staging) (vigil : Vigil) (turn : Turn) :
    vigil.reports.IsPrefix (vigil.after staging turn).reports := by
  cases turn with
  | happens happening untaken => exact List.prefix_rfl
  | waits =>
      rw [Vigil.after]
      split <;> exact List.prefix_rfl
  | looks => exact (vigil.looks_look staging).reports_kept

theorem Owed.attend (owed : Owed vigil generation ticket report vigil)
    (died : vigil.state.Died generation ticket report) (steady : vigil.state.Steady staging.story)
    (startDeclared : staging.story.declares staging.story.start = true) (turns : List Turn) :
    Owed vigil generation ticket report (vigil.attend staging turns) ∧
      (vigil.attend staging turns).state.Died generation ticket report := by
  have preserved : ∀ (later : Vigil) (turn : Turn),
      (Owed vigil generation ticket report later ∧ later.state.Died generation ticket report) ∧
        later.state.Steady staging.story ∧ vigil.reports.IsPrefix later.reports →
      (Owed vigil generation ticket report (later.after staging turn) ∧
        (later.after staging turn).state.Died generation ticket report) ∧
        (later.after staging turn).state.Steady staging.story ∧
        vigil.reports.IsPrefix (later.after staging turn).reports := by
    rintro later turn ⟨⟨owed, died⟩, steady, grown⟩
    exact ⟨⟨owed.after died steady startDeclared grown turn, died_after died turn⟩,
      steady.of_reaches startDeclared (later.reaches_after staging turn),
      grown.trans (later.reports_kept_after staging turn)⟩
  exact (attend_induction preserved ⟨⟨owed, died⟩, steady, List.prefix_rfl⟩ turns).1

theorem Owed.answers (owed : Owed earlier generation ticket report vigil)
    (died : vigil.state.Died generation ticket report)
    (inForce : vigil.state.position.generation = generation)
    (same : vigil.reports = earlier.reports) {about : Option Nat} {answer : Report}
    (answers : vigil.Answers staging about answer) :
    (about = some ticket ∧ answer = report) ∨ (some ticket, report) ∈ earlier.reports ∨
      ∃ other, earlier.Open other ∧ about = some other ∧ answer = .brokenOff := by
  cases owed with
  | told already => exact .inr (.inl already)
  | answered longer =>
      rw [same] at longer
      exact absurd longer (Nat.lt_irrefl _)
  | superseded newer =>
      rw [inForce] at newer
      exact absurd newer (Nat.lt_irrefl _)
  | noted noted free =>
      rcases answers.cases with ⟨-, nothing, -⟩ | ⟨other, outcome, awaiting, isOver, reports, aboutOther⟩
      · rw [nothing] at noted
        cases noted
      · obtain ⟨broken, wasOpen⟩ := free.due ⟨awaiting, State.died_of_outcome? isOver reports⟩
        exact .inr (.inr ⟨other, wasOpen, aboutOther, broken⟩)
  | awaited awaited =>
      rcases answers.cases with ⟨seeking, -⟩ | ⟨other, outcome, awaiting, isOver, reports, rfl⟩
      · rw [seeking] at awaited
        cases awaited
      · rw [awaiting] at awaited
        cases awaited
        have same := reports.symm.trans (died.report?_eq isOver)
        exact .inl ⟨rfl, Option.some.inj same⟩

end Owed

/-! ## What an answer says -/

theorem Accounted.finished_of_settled (accounted : vigil.Accounted) {about : Option Nat}
    (answers : vigil.Answers staging about .settled) {ticket : Nat} {sequence : Sequence}
    {stage : Stage}
    (performs : vigil.state.Performs ticket sequence vigil.state.position.generation stage) :
    ∃ outcome, stage = .finished outcome ∧
      ∀ report, outcome.report? = some report → (some ticket, report) ∈ vigil.reports := by
  rcases answers.cases with ⟨seeking, nothing, -⟩ | ⟨other, outcome, -, -, reports, -⟩
  · cases accounted.knows performs with
    | noted noted =>
        rw [nothing] at noted
        cases noted
    | awaited awaited =>
        rw [seeking] at awaited
        cases awaited
    | told reported => exact ⟨_, rfl, reported⟩
  · exact absurd rfl (Outcome.settled_ne_of_report? reports)

/-- A session that runs although all is settled does so because of a failure that was told. -/
theorem Accounted.told_of_settled (accounted : vigil.Accounted)
    (steady : vigil.state.Steady staging.story) (occupied : vigil.state.Occupied)
    {about : Option Nat} (answers : vigil.Answers staging about .settled)
    (running : vigil.state.position.mode = .running) :
    ∃ ticket report, vigil.state.Died vigil.state.position.generation ticket report ∧
      (report = .brokenOff ∨
        ∃ target, report = .failed (.undeclared target) ∧ staging.story.find? target = none) ∧
      (some ticket, report) ∈ vigil.reports := by
  obtain ⟨ticket, sequence, stage, performs, keeps⟩ := occupied running
  obtain ⟨outcome, rfl, told⟩ := accounted.finished_of_settled answers performs
  cases outcome with
  | succeeded => cases keeps
  | failed trouble =>
      obtain ⟨target, -, -, absent, rfl⟩ := steady.orderly.failed performs
      exact ⟨ticket, _, ⟨sequence, _, performs, rfl⟩, .inr ⟨target, rfl, absent⟩, told _ rfl⟩
  | brokenOff => exact ⟨ticket, _, ⟨sequence, _, performs, rfl⟩, .inl rfl, told _ rfl⟩

/-- While nobody waits, a failure in force that was not told is noted, so it is found at once. -/
theorem Accounted.settle_of_died (accounted : vigil.Accounted) (nobody : vigil.waiting = .nobody)
    {ticket : Nat} {report : Report}
    (died : vigil.state.Died vigil.state.position.generation ticket report)
    (untold : (some ticket, report) ∉ vigil.reports) (limit : Option Nat) (bound : Nat) :
    vigil.state.settle staging limit (bound + 3) =
      some ({ vigil.state with latest := none }, report) := by
  obtain ⟨sequence, outcome, performs, reports⟩ := id died
  cases accounted.knows performs with
  | told reported => exact absurd (reported report reports) untold
  | awaited awaited =>
      rw [nobody] at awaited
      cases awaited
  | noted noted => exact State.settle_of_noted noted died limit bound

/-- Whoever waits for a session is answered truthfully, whatever happens to it, as long as one waits at
a time and nobody gives up. Whoever is told that all is settled can be sure that no sequence in force is
unfinished; and if the session is running still, then the sequence in force has died, which was told
before. What is told of a sequence is what became of it, and is told once. If a sequence has died and
is still in force, then the first answer since is about it, unless that was told already or the answer
was certain before, or it is that the terminal broke down with the line of another sequence, which was
awaited and held up at that time. And if nobody waits, then waiting as it is scheduled finds such a failure
at once, and comes to its answers in no other way. -/
theorem answered_truthfully {initial : State} (opened : State.opening staging.story = .ok initial)
    (turns : List Turn) :
    let vigil := (opening initial).attend staging turns
    let generation := vigil.state.position.generation
    (∀ about, vigil.Answers staging about .settled →
      (∀ ticket sequence stage, vigil.state.Performs ticket sequence generation stage →
        ∃ outcome, stage = .finished outcome) ∧
      (vigil.state.position.mode = .running →
        ∃ ticket report, vigil.state.Died generation ticket report ∧
          (report = .brokenOff ∨
            ∃ target, report = .failed (.undeclared target) ∧ staging.story.find? target = none) ∧
          (some ticket, report) ∈ vigil.reports)) ∧
    (vigil.reports.filterMap Prod.fst).Nodup ∧
    (∀ ticket report, (some ticket, report) ∈ vigil.reports →
      ∃ since, vigil.state.Died since ticket report) ∧
    (∀ before during, turns = before ++ during →
      let earlier := (opening initial).attend staging before
      ∀ ticket report, earlier.state.Died generation ticket report →
        (∀ other due, earlier.Due other due → other = ticket) →
        vigil.reports = earlier.reports → ∀ about answer, vigil.Answers staging about answer →
          (about = some ticket ∧ answer = report) ∨ (some ticket, report) ∈ earlier.reports ∨
            ∃ other, earlier.Open other ∧ about = some other ∧ answer = .brokenOff) ∧
    (vigil.waiting = .nobody →
      (∀ ticket report, vigil.state.Died generation ticket report →
        (some ticket, report) ∉ vigil.reports → ∀ limit bound,
          vigil.state.settle staging limit (bound + 3) =
            some ({ vigil.state with latest := none }, report)) ∧
      (∀ limit bound final answer,
        vigil.state.settle staging limit bound = some (final, answer) →
        answer ≠ .timedOut → answer ≠ .stalled →
          ∃ during waiting about,
            vigil.attend staging (.waits :: during) = ⟨final, waiting, vigil.reports⟩ ∧
              (Vigil.mk final waiting vigil.reports).Answers staging about answer)) := by
  intro vigil generation
  obtain ⟨steady, accounted⟩ := attended opened turns
  have occupied := State.occupied_of_reaches opened ((opening initial).reaches_attend staging turns)
  refine ⟨?settled, ?once, ?honest, ?first, ?scheduled⟩
  case settled =>
    intro about answers
    refine ⟨?_, accounted.told_of_settled steady occupied answers⟩
    intro ticket sequence stage performs
    obtain ⟨outcome, isOver, -⟩ := accounted.finished_of_settled answers performs
    exact ⟨outcome, isOver⟩
  case once => exact accounted.once.sublist (List.sublist_append_left _ _)
  case honest => exact fun ticket report told => accounted.honest told
  case first =>
    intro before during split earlier ticket report died free same about answer answers
    obtain ⟨steadyBefore, accountedBefore⟩ := attended opened before
    have reached : vigil = earlier.attend staging during := by
      rw [← attend_append, ← split]
    have inForce : earlier.state.position.generation = generation := by
      obtain ⟨sequence, outcome, performs, -⟩ := died
      refine Nat.le_antisymm ?_ (steadyBefore.orderly.notAhead performs)
      obtain ⟨happenings, later⟩ := earlier.reaches_attend staging during
      show _ ≤ vigil.state.position.generation
      rw [reached, later]
      exact State.generation_le_course staging happenings earlier.state
    rw [← inForce] at died
    have owed := accountedBefore.owed died free
    obtain ⟨owedStill, diedStill⟩ :=
      owed.attend died steadyBefore (State.initial_of_opening opened).2 during
    rw [← reached] at owedStill diedStill
    exact owedStill.answers diedStill inForce.symm same answers
  case scheduled =>
    intro nobody
    refine ⟨fun ticket report died untold => accounted.settle_of_died nobody died untold, ?_⟩
    intro limit bound final answer done timely lively
    have unwaited : vigil = ⟨vigil.state, .nobody, vigil.reports⟩ := by rw [← nobody]
    rw [unwaited]
    exact attend_of_settle done timely lively vigil.reports

/-- The terminal breaks down at the first line. Whoever begins to wait then can only be told that; the
next is told that all is settled, although the session is running. -/
theorem sample_truthful :
    let staging : Staging := ⟨.sample, .silent⟩
    let broken : List Turn :=
      [.happens .fault (by decide), .happens (.command .start) (by decide),
        .happens (.step 0) (by decide)]
    let waited := (opening (.initial .empty)).attend staging (broken ++ [.waits, .looks])
    let again := (opening (.initial .empty)).attend staging (broken ++ [.waits, .looks, .looks, .waits])
    waited.Answers staging (some 0) .brokenOff ∧
      (∀ about answer, waited.Answers staging about answer → about = some 0 ∧ answer = .brokenOff) ∧
      again.Answers staging none .settled ∧ again.state.position.mode = .running ∧
      ∃ ticket report, again.state.Died again.state.position.generation ticket report ∧
        (some ticket, report) ∈ again.reports := by
  intro staging broken waited again
  have opened : State.opening staging.story = .ok (.initial .empty) := rfl
  have answered : waited.Answers staging (some 0) .brokenOff := by
    unfold Answers
    decide +kernel
  have settled : again.Answers staging none .settled := by
    unfold Answers
    decide +kernel
  have running : again.state.position.mode = .running := by decide +kernel
  obtain ⟨-, -, -, first, -⟩ := answered_truthfully opened (broken ++ [.waits, .looks])
  obtain ⟨truthful, -⟩ :=
    answered_truthfully opened (broken ++ [.waits, .looks, .looks, .waits])
  have died : ((opening (.initial .empty)).attend staging broken).state.Died
      waited.state.position.generation 0 .brokenOff := by
    have generation : waited.state.position.generation = 2 := by decide +kernel
    have performs : ∃ sequence, ((opening (.initial .empty)).attend staging broken).state.Performs 0
        sequence 2 (.finished .brokenOff) := ⟨_, rfl⟩
    obtain ⟨sequence, performs⟩ := performs
    rw [generation]
    exact ⟨sequence, .brokenOff, performs, rfl⟩
  have nobody : ((opening (.initial .empty)).attend staging broken).waiting = .nobody := by
    decide +kernel
  refine ⟨answered, ?_, settled, running, ?_⟩
  · intro about answer answers
    have free : ∀ other due, ((opening (.initial .empty)).attend staging broken).Due other due →
        other = 0 := by
      rintro other due ⟨awaiting, -⟩
      cases nobody.symm.trans awaiting
    have unanswered : waited.reports = ((opening (.initial .empty)).attend staging broken).reports := by
      decide +kernel
    rcases first broken _ rfl 0 .brokenOff died free unanswered about answer answers with
      owed | told | ⟨other, ⟨awaiting, -⟩, -⟩
    · exact owed
    · have untold : ((opening (.initial .empty)).attend staging broken).reports = [] := by decide +kernel
      rw [untold] at told
      cases told
    · cases nobody.symm.trans awaiting
  · obtain ⟨ticket, report, diedInForce, -, told⟩ := (truthful none settled).2 running
    exact ⟨ticket, report, diedInForce, told⟩

end Vigil

end NarrativePlayer.Session
