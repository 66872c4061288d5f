import NarrativePlayer.Proofs.Session.TruthfulReports

/-!
Contract: what is told, once a story was started again, of the sequences of before.

A start renews the generation, so no sequence of before dies of itself after it. But it leaves the note of the
sequence entered last alone, unless it begins a sequence of its own. Owns that a death of before, or of a line
that was held up before, is told after a start only if the sequence was waited for or is noted still, and that
in the latter case whoever waits next is told of it. A story in which that happens is given here.
-/

namespace NarrativePlayer

/-- Whether a sequence begins when the scene is entered that an id stands for. -/
def Story.begins (story : Story) (id : String) : Bool :=
  match story.find? id with
  | some (.sequence body) => !body.terminal
  | _ => false

namespace Session

namespace State

variable {staging : Staging} {state : State}

theorem Died.ticket_lt {generation ticket : Nat} {report : Report}
    (died : state.Died generation ticket report) : ticket < state.activities.length := by
  obtain ⟨sequence, outcome, performs, -⟩ := died
  exact (List.getElem?_eq_some_iff.mp performs).1

theorem HeldUp.ticket_lt {ticket : Nat} (heldUp : state.HeldUp ticket) :
    ticket < state.activities.length := by
  obtain ⟨sequence, generation, index, performs⟩ := heldUp
  exact (List.getElem?_eq_some_iff.mp performs).1

theorem HeldUp.not_died {generation ticket : Nat} {report : Report} (heldUp : state.HeldUp ticket) :
    ¬ state.Died generation ticket report := by
  rintro ⟨sequence, outcome, performs, -⟩
  obtain ⟨_, _, index, held⟩ := heldUp
  cases (held.unique performs).2.2

/-- No sequence dies of a command. -/
theorem Died.before_command {command : Command} {generation ticket : Nat} {report : Report}
    (died : (state.after staging (.command command)).Died generation ticket report) :
    state.Died generation ticket report := by
  obtain ⟨sequence, outcome, performs, told⟩ := died
  rcases performs.before_command with before | ⟨-, ready⟩
  · exact ⟨sequence, outcome, before, told⟩
  · cases ready

theorem latest_reply (result : State × Entrance) : (reply result).1.latest = result.1.latest := by
  obtain ⟨entered, entrance⟩ := result
  cases entrance <;> rfl

/-- A start notes the sequence that it begins, and leaves the note as it is if it begins none. -/
theorem latest_after_start (startDeclared : staging.story.declares staging.story.start = true) :
    (state.after staging (.command .start)).latest =
      if staging.story.begins staging.story.start then some state.activities.length
      else state.latest := by
  obtain ⟨notes, entered, -, result, enters⟩ := (state.obeys_execute staging .start).of_start
  show (state.execute staging .start).1.latest = _
  rw [result, latest_reply, Story.begins]
  cases enters with
  | undeclared absent =>
      obtain ⟨scene, found⟩ := Story.exists_find?_of_declares startDeclared
      cases absent.symm.trans found
  | ends found terminal => simp [found, terminal]
  | begins found goesOn => simp [found, goesOn]
  | asks found => simp [found]
  | offers found => simp [found]

theorem generation_lt_after_start :
    state.position.generation < (state.after staging (.command .start)).position.generation := by
  obtain ⟨notes, entered, -, result, enters⟩ := (state.obeys_execute staging .start).of_start
  obtain ⟨added, begun, -⟩ := enters.begun
  show _ < (state.execute staging .start).1.position.generation
  rw [result, position_reply]
  exact begun.le

end State

namespace Vigil

variable {staging : Staging} {vigil later : Vigil}

/-! ## What is known of sequences -/

/-- A turn makes known no sequence but one that it begins. -/
theorem mem_tickets_after (startDeclared : staging.story.declares staging.story.start = true)
    {turn : Turn} {ticket : Nat} (member : ticket ∈ (vigil.after staging turn).tickets) :
    ticket ∈ vigil.tickets ∨ ticket = vigil.state.activities.length := by
  cases turn with
  | happens happening untaken =>
      have latest : (vigil.state.after staging happening).latest = vigil.state.latest ∨
          (vigil.state.after staging happening).latest = some vigil.state.activities.length := by
        cases vigil.state.enrolls_after startDeclared untaken with
        | kept latest => exact .inl latest
        | begun body latest => exact .inr latest
      rcases latest with kept | begun
      · simp only [tickets, after, kept] at member
        exact .inl member
      · simp only [tickets, after, begun, Option.toList_some, List.mem_append, List.mem_singleton]
          at member
        rcases member with told | awaited | new
        · exact .inl (List.mem_append_left _ told)
        · exact .inl (List.mem_append_right _ (List.mem_append_left _ awaited))
        · exact .inr new
  | waits =>
      rw [after] at member
      split at member
      · rename_i nobody
        simp only [tickets, Waiting.ticket?, Option.toList_none, List.nil_append] at member
        refine .inl ?_
        rw [tickets, nobody]
        exact member
      · exact .inl member
  | looks => exact .inl ((vigil.looks_look staging).tickets_sublist.subset member)

/-- How a vigil stands to an earlier one whose story was started again: the sequences of the earlier one
are out of date, and those of which anything can still be told were known right after the start. -/
structure Outdates (vigil restarted later : Vigil) : Prop where
  longer : vigil.state.activities.length ≤ later.state.activities.length
  newer : vigil.state.position.generation < later.state.position.generation
  performs : ∀ {ticket sequence generation stage},
    later.state.Performs ticket sequence generation stage → ticket < vigil.state.activities.length →
      ∃ earlier, vigil.state.Performs ticket sequence generation earlier
  known : ∀ ticket ∈ later.tickets, ticket < vigil.state.activities.length → ticket ∈ restarted.tickets
  kept : vigil.reports.IsPrefix later.reports
  heldUp : ∀ {ticket sequence generation index},
    later.state.Performs ticket sequence generation (.printing index false) →
      ticket < vigil.state.activities.length →
        vigil.state.Performs ticket sequence generation (.printing index false)
  died : ∀ {generation ticket report}, later.state.Died generation ticket report →
    ticket < vigil.state.activities.length →
      vigil.state.Died generation ticket report ∨ report = .brokenOff ∧ vigil.state.HeldUp ticket

theorem performs_before {state : State} {happening : Happening} {ticket : Nat} {sequence : Sequence}
    {generation : Nat} {stage : Stage}
    (performs : (state.after staging happening).Performs ticket sequence generation stage)
    (older : ticket < state.activities.length) :
    ∃ earlier, state.Performs ticket sequence generation earlier := by
  rcases performs.before_or_begun with before | ⟨new, -⟩
  · exact before
  · exact absurd new (Nat.ne_of_lt older)

theorem outdates_restart (vigil : Vigil) (told : Happening.command .start ≠ .take) :
    Outdates vigil (vigil.after staging (.happens (.command .start) told))
      (vigil.after staging (.happens (.command .start) told)) where
  longer := State.length_le_course staging [.command .start] vigil.state
  newer := State.generation_lt_after_start
  performs := performs_before
  known _ member _ := member
  kept := List.prefix_rfl
  heldUp performs older := by
    rcases performs.before_command with before | ⟨new, -⟩
    · exact before
    · exact absurd new (Nat.ne_of_lt older)
  died died _ := .inl died.before_command

theorem Outdates.after {restarted : Vigil} (outdates : Outdates vigil restarted later)
    (steady : vigil.state.Steady staging.story)
    (startDeclared : staging.story.declares staging.story.start = true) (turn : Turn) :
    Outdates vigil restarted (later.after staging turn) := by
  have known : ∀ ticket ∈ (later.after staging turn).tickets,
      ticket < vigil.state.activities.length → ticket ∈ restarted.tickets := by
    intro ticket member older
    rcases mem_tickets_after startDeclared member with before | new
    · exact outdates.known ticket before older
    · have longer := outdates.longer
      omega
  have kept := outdates.kept.trans (later.reports_kept_after staging turn)
  cases turn with
  | happens happening untaken =>
      have performs : ∀ {ticket sequence generation stage},
          (later.state.after staging happening).Performs ticket sequence generation stage →
          ticket < vigil.state.activities.length →
            ∃ earlier, vigil.state.Performs ticket sequence generation earlier := by
        intro ticket sequence generation stage performs older
        obtain ⟨stage, before⟩ := performs_before performs (Nat.lt_of_lt_of_le older outdates.longer)
        exact outdates.performs before older
      -- What begins a line or dies of itself is in force, and the sequences of before are not.
      have stale : ∀ {ticket sequence generation stage},
          (later.state.after staging happening).Performs ticket sequence generation stage →
          ticket < vigil.state.activities.length → later.state.position.generation ≠ generation := by
        intro ticket sequence generation stage performsLater older
        obtain ⟨stage, performsBefore⟩ := performs performsLater older
        have notAhead := steady.orderly.notAhead performsBefore
        have newer := outdates.newer
        omega
      refine ⟨?_, ?_, performs, known, kept, ?_, ?_⟩
      · exact Nat.le_trans outdates.longer (State.length_le_course staging [happening] later.state)
      · exact Nat.lt_of_lt_of_le outdates.newer (later.state.generation_le_after staging happening)
      · intro ticket sequence generation index performsLater older
        exact outdates.heldUp (performsLater.heldUp_before (stale performsLater older)) older
      · intro generation ticket report died older
        rcases died.before with before | current | ⟨broken, sequence, since, index, held⟩
        · exact outdates.died before older
        · obtain ⟨sequence, outcome, performsLater, -⟩ := died
          exact absurd current.symm (stale performsLater older)
        · exact .inr ⟨broken, sequence, since, index, outdates.heldUp held older⟩
  | waits =>
      have same : (later.after staging .waits).state = later.state := by
        rw [Vigil.after]
        split <;> rfl
      exact ⟨same ▸ outdates.longer, same ▸ outdates.newer, same ▸ outdates.performs, known, kept,
        same ▸ outdates.heldUp, same ▸ outdates.died⟩
  | looks =>
      have looks := later.looks_look staging
      have activities : (later.after staging .looks).state.activities = later.state.activities :=
        looks.activities_eq
      have position : (later.after staging .looks).state.position = later.state.position :=
        looks.position_eq
      refine ⟨activities ▸ outdates.longer, position ▸ outdates.newer, ?_, known, kept, ?_, ?_⟩
      · intro ticket sequence generation stage performs older
        unfold State.Performs at performs
        rw [activities] at performs
        exact outdates.performs performs older
      · intro ticket sequence generation index performs older
        unfold State.Performs at performs
        rw [activities] at performs
        exact outdates.heldUp performs older
      · intro generation ticket report died older
        unfold State.Died State.Performs at died
        rw [activities] at died
        exact outdates.died died older

/-! ## What is told after a start -/

/-- A sequence had died when a story was started again, or was held up with a line that it dies of, and its
death can still be told: it was waited for, or it is noted still. -/
structure Leftover (vigil restarted : Vigil) (ticket : Nat) (report : Report) : Prop where
  died : (∃ generation, vigil.state.Died generation ticket report) ∨
    report = .brokenOff ∧ vigil.state.HeldUp ticket
  known : vigil.waiting = .awaiting ticket ∨ restarted.state.latest = some ticket

/-- What is told after a start is of a sequence that was begun since, or left over, unless it was told
before. -/
theorem Outdates.of_told {told : Happening.command .start ≠ .take}
    (outdates : Outdates vigil (vigil.after staging (.happens (.command .start) told)) later)
    (accounted : vigil.Accounted) (accountedLater : later.Accounted) {ticket : Nat} {report : Report}
    (isTold : (some ticket, report) ∈ later.reports) :
    (some ticket, report) ∈ vigil.reports ∨ vigil.state.activities.length ≤ ticket ∨
      Leftover vigil (vigil.after staging (.happens (.command .start) told)) ticket report := by
  rcases Nat.lt_or_ge ticket vigil.state.activities.length with older | newer
  · obtain ⟨generation, diedLater⟩ := accountedLater.honest isTold
    have died := outdates.died diedLater older
    have member : ticket ∈ later.tickets :=
      List.mem_append_left _ (List.mem_filterMap.mpr ⟨_, isTold, rfl⟩)
    rcases List.mem_append.mp (outdates.known ticket member older) with toldBefore | known
    · obtain ⟨⟨about, other⟩, toldOther, rfl⟩ := List.mem_filterMap.mp toldBefore
      obtain ⟨since, diedOther⟩ := accounted.honest toldOther
      rcases died with died | ⟨-, heldUp⟩
      · rw [died.unique diedOther]
        exact .inl toldOther
      · exact absurd diedOther heldUp.not_died
    · refine .inr (.inr ⟨died.imp_left fun died => ⟨generation, died⟩, ?_⟩)
      rcases List.mem_append.mp known with awaited | noted
      · refine .inl ?_
        cases waiting : vigil.waiting with
        | awaiting other =>
            simp only [Vigil.after, waiting, Waiting.ticket?, Option.toList_some, List.mem_singleton] at awaited
            rw [awaited]
        | nobody => simp [Vigil.after, waiting, Waiting.ticket?] at awaited
        | seeking => simp [Vigil.after, waiting, Waiting.ticket?] at awaited
      · exact .inr (Option.mem_toList.mp noted)
  · exact .inr (.inl newer)

/-- An answer other than that all is settled is about such a sequence. -/
theorem Outdates.of_answers {told : Happening.command .start ≠ .take}
    (outdates : Outdates vigil (vigil.after staging (.happens (.command .start) told)) later)
    (steady : vigil.state.Steady staging.story)
    (startDeclared : staging.story.declares staging.story.start = true) (accounted : vigil.Accounted)
    (accountedLater : later.Accounted) (steadyLater : later.state.Steady staging.story)
    {about : Option Nat} {report : Report} (answers : later.Answers staging about report)
    (unsettled : report ≠ .settled) :
    ∃ ticket generation, later.state.Died generation ticket report ∧
      (vigil.state.activities.length ≤ ticket ∨
        Leftover vigil (vigil.after staging (.happens (.command .start) told)) ticket report) := by
  rcases answers.cases with ⟨-, -, -, settled⟩ | ⟨ticket, outcome, awaiting, isOver, died, rfl⟩
  · exact absurd settled unsettled
  · obtain ⟨generation, diedLater⟩ := State.died_of_outcome? isOver died
    refine ⟨ticket, generation, diedLater, ?_⟩
    have isTold : (some ticket, report) ∈ (later.after staging .looks).reports := by
      show _ ∈ (later.look staging).reports
      rw [answers]
      exact List.mem_append_right _ (List.mem_singleton_self _)
    have outdatesThen := outdates.after steady startDeclared .looks
    have accountedThen := accountedLater.after steadyLater startDeclared .looks
    refine (outdatesThen.of_told accounted accountedThen isTold).resolve_left fun before => ?_
    have once := accountedLater.once
    rw [tickets, awaiting, List.nodup_append] at once
    have already : ticket ∈ later.reports.filterMap Prod.fst :=
      List.mem_filterMap.mpr ⟨_, outdates.kept.subset before, rfl⟩
    exact once.2.2 ticket already ticket (by simp [Waiting.ticket?]) rfl

theorem Outdates.attend {restarted : Vigil} (outdates : Outdates vigil restarted later)
    (steady : vigil.state.Steady staging.story)
    (startDeclared : staging.story.declares staging.story.start = true) (turns : List Turn) :
    Outdates vigil restarted (later.attend staging turns) :=
  attend_induction (fun _ turn held => held.after steady startDeclared turn) outdates turns

/-- Once a story was started again, whoever waits is told only of sequences that were begun since, unless a
sequence of before had died by then, untold, or was held up with a line that it dies of, and was waited for at
that moment or is noted still. If the story starts with a sequence, it is not noted any more. But if it starts
with anything else, then whoever begins to wait next is told of a death of before at once. -/
theorem told_after_restart {initial : State} (opened : State.opening staging.story = .ok initial)
    (before further : List Turn) :
    let vigil := (opening initial).attend staging before
    let restarted := vigil.after staging (.happens (.command .start) Happening.noConfusion)
    let later := restarted.attend staging further
    let tellsOf := fun ticket report =>
      vigil.state.activities.length ≤ ticket ∨ Leftover vigil restarted ticket report
    (∀ ticket report, (some ticket, report) ∈ later.reports →
      (some ticket, report) ∈ vigil.reports ∨ tellsOf ticket report) ∧
    (later.waiting = .nobody → ∀ limit bound final report,
      later.state.settle staging limit bound = some (final, report) → report ≠ .settled →
      report ≠ .timedOut → report ≠ .stalled →
        ∃ ticket generation, final.Died generation ticket report ∧ tellsOf ticket report) ∧
    (staging.story.begins staging.story.start = true → ∀ ticket report,
      Leftover vigil restarted ticket report → vigil.waiting = .awaiting ticket) ∧
    (staging.story.begins staging.story.start = false → ∀ generation ticket report,
      vigil.state.latest = some ticket → vigil.state.Died generation ticket report →
        ∀ limit bound, restarted.state.settle staging limit (bound + 3) =
          some ({ restarted.state with latest := none }, report)) := by
  intro vigil restarted later tellsOf
  have startDeclared := (State.initial_of_opening opened).2
  obtain ⟨steady, accounted⟩ := attended opened before
  have outdates : Outdates vigil restarted later :=
    (vigil.outdates_restart Happening.noConfusion).attend steady startDeclared further
  have latest : restarted.state.latest = if staging.story.begins staging.story.start then
      some vigil.state.activities.length else vigil.state.latest :=
    State.latest_after_start startDeclared
  have attendedFor : ∀ turns, (later.attend staging turns).state.Steady staging.story ∧
      (later.attend staging turns).Accounted := by
    intro turns
    have attendedAll := attended opened
      (before ++ .happens (.command .start) Happening.noConfusion :: (further ++ turns))
    rw [attend_append] at attendedAll
    show ((restarted.attend staging further).attend staging turns).state.Steady _ ∧ _
    rw [← attend_append]
    exact attendedAll
  refine ⟨?_, ?_, ?_, ?_⟩
  · intro ticket report isTold
    exact outdates.of_told accounted (attendedFor []).2 isTold
  · intro nobody limit bound final report done unsettled timely lively
    obtain ⟨turns, waiting, about, waited, answers⟩ :=
      attend_of_settle done timely lively later.reports
    have unwaited : later = ⟨later.state, .nobody, later.reports⟩ := by rw [← nobody]
    rw [← unwaited] at waited
    have outdatesThen := outdates.attend steady startDeclared (.waits :: turns)
    obtain ⟨steadyThen, accountedThen⟩ := attendedFor (.waits :: turns)
    rw [waited] at outdatesThen steadyThen accountedThen
    exact outdatesThen.of_answers steady startDeclared accounted accountedThen steadyThen answers
      unsettled
  · intro begins ticket report leftover
    refine leftover.known.resolve_right fun noted => ?_
    rw [latest, if_pos begins] at noted
    have older : ticket < vigil.state.activities.length := by
      rcases leftover.died with ⟨generation, died⟩ | ⟨-, heldUp⟩
      · exact died.ticket_lt
      · exact heldUp.ticket_lt
    cases noted
    exact absurd older (Nat.lt_irrefl _)
  · intro begins generation ticket report noted died
    refine State.settle_of_noted ?_ (died.after (.command .start))
    rw [latest, begins]
    exact noted

/-- The terminal breaks down at the first line, and the story is started again before anybody asks. As it
starts with a sequence, nobody is ever told. -/
theorem sample_restart_isolates :
    let staging : Staging := ⟨.sample, .silent⟩
    let vigil := (opening (.initial .empty)).attend staging
      [.happens .fault (by decide), .happens (.command .start) (by decide),
        .happens (.step 0) (by decide)]
    let restarted := vigil.after staging (.happens (.command .start) Happening.noConfusion)
    vigil.state.Died 2 0 .brokenOff ∧ vigil.state.latest = some 0 ∧
      ∀ further ticket report,
        (some ticket, report) ∈ (restarted.attend staging further).reports → 1 ≤ ticket := by
  intro staging vigil restarted
  have opened : State.opening staging.story = .ok (.initial .empty) := rfl
  have died : vigil.state.Died 2 0 .brokenOff := ⟨_, .brokenOff, rfl, rfl⟩
  refine ⟨died, by decide +kernel, fun further ticket report isTold => ?_⟩
  obtain ⟨told, -, isolates, -⟩ := told_after_restart opened
    [.happens .fault (by decide), .happens (.command .start) (by decide),
      .happens (.step 0) (by decide)] further
  rcases told ticket report isTold with before | newer | leftover
  · have untold : vigil.reports = [] := by decide +kernel
    rw [untold] at before
    cases before
  · exact newer
  · have awaited := isolates rfl ticket report leftover
    have nobody : vigil.waiting = .nobody := by decide +kernel
    rw [nobody] at awaited
    cases awaited

end Vigil

end Session

/-- A story that starts with a question and then leads astray. -/
def Story.astray : Story where
  id := "astray"
  version := "1"
  store := Table.empty
  start := "ask"
  scenes := [
    .question ⟨"ask", ⟨"name", "Name", none, none, none, false⟩, [⟨submitEvent, [], [], "path"⟩]⟩,
    .sequence ⟨"path", [], [], some "ghost", none, Table.empty, false⟩]

namespace Session.Vigil

/-- The story was started again, and begins no sequence since. Whoever asks is told of the one of before. -/
theorem astray_told_after_restart :
    let staging : Staging := ⟨.astray, .silent⟩
    ∃ initial, State.opening staging.story = .ok initial ∧
      let vigil := (opening initial).attend staging
        [.happens (.command .start) (by decide), .happens (.command (.submit "Bea")) (by decide),
          .happens (.step 0) (by decide)]
      let restarted := vigil.after staging (.happens (.command .start) Happening.noConfusion)
      vigil.state.activities.length = 1 ∧ vigil.reports = [] ∧
        restarted.state.activities.length = 1 ∧
        (restarted.attend staging [.waits, .looks, .looks]).reports =
          [(some 0, .failed (.undeclared "ghost"))] ∧
        restarted.state.settle staging none 3 =
          some ({ restarted.state with latest := none }, .failed (.undeclared "ghost")) := by
  intro staging
  refine ⟨.initial Table.empty, rfl, ?_⟩
  intro vigil restarted
  refine ⟨by decide +kernel, by decide +kernel, by decide +kernel, by decide +kernel, by decide +kernel⟩

end Session.Vigil

end NarrativePlayer
