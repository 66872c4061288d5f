import NarrativePlayer.Proofs.Session.Vigil

/-!
Contract: what those who wait for a session know of its sequences.

Whoever waits learns of sequences only through the note of the one entered last, which every sequence
overwrites. Owns what ties the sequences to the notes nevertheless: the one in force is noted, or
awaited, or its end was told, and no sequence is told of twice or falsely. Which answer comes first is
not owned here.
-/

namespace NarrativePlayer.Session

/-- A sequence has died, on behalf of a generation, and this is what there is to report of it. -/
def State.Died (state : State) (generation ticket : Nat) (report : Report) : Prop :=
  ∃ sequence outcome, state.Performs ticket sequence generation (.finished outcome) ∧
    outcome.report? = some report

/-- A sequence is held up with a line. -/
def State.HeldUp (state : State) (ticket : Nat) : Prop :=
  ∃ sequence generation index, state.Performs ticket sequence generation (.printing index false)

theorem State.Died.unique {state : State} {generation since ticket : Nat} {report other : Report}
    (died : state.Died generation ticket report) (again : state.Died since ticket other) :
    report = other := by
  obtain ⟨sequence, outcome, performs, told⟩ := died
  obtain ⟨_, outcome, performsAgain, toldAgain⟩ := again
  obtain ⟨-, -, same⟩ := performs.unique performsAgain
  cases same
  exact Option.some.inj (told.symm.trans toldAgain)

theorem State.Died.after {staging : Staging} {state : State} {generation ticket : Nat}
    {report : Report} (died : state.Died generation ticket report) (happening : Happening) :
    (state.after staging happening).Died generation ticket report := by
  obtain ⟨sequence, outcome, performs, told⟩ := died
  exact ⟨sequence, outcome, performs.finished_after happening, told⟩

/-- A sequence dies of itself and so while it is in force, or of the line it was held up with, or it had died
before. -/
theorem State.Died.before {staging : Staging} {state : State} {happening : Happening}
    {generation ticket : Nat} {report : Report}
    (died : (state.after staging happening).Died generation ticket report) :
    state.Died generation ticket report ∨ generation = state.position.generation ∨
      report = .brokenOff ∧ state.HeldUp ticket := by
  obtain ⟨sequence, outcome, performs, told⟩ := died
  rcases performs.finished_before with
    before | ⟨stage, next, before, advances⟩ | ⟨-, rfl, index, before⟩
  · exact .inl ⟨sequence, outcome, before, told⟩
  · cases advances with
    | breaksOff current => exact .inr (.inl current.symm)
    | fails current => exact .inr (.inl current.symm)
    | stays => exact .inl ⟨sequence, outcome, before, told⟩
    | _ => cases told
  · cases told
    exact .inr (.inr ⟨rfl, sequence, generation, index, before⟩)

/-- Only a sequence in force begins a line, so any other that is held up was so before. -/
theorem State.Performs.heldUp_before {staging : Staging} {state : State} {happening : Happening}
    {ticket : Nat} {sequence : Sequence} {generation index : Nat}
    (performs : (state.after staging happening).Performs ticket sequence generation (.printing index false))
    (stale : state.position.generation ≠ generation) :
    state.Performs ticket sequence generation (.printing index false) := by
  generalize reached : Stage.printing index false = stage at performs ⊢
  cases arises_after state staging happening performs with
  | kept here => exact here
  | begun begun member =>
      cases begun with
      | nothing => cases member
      | held => simp at member
      | sequence =>
          simp only [List.mem_singleton, Activity.performance.injEq] at member
          cases reached.trans member.2.2
  | advanced here advances =>
      cases advances with
      | prints current => exact absurd current stale
      | stays => exact here
      | _ => cases reached
  | released here released =>
      rcases before_of_released? released with ⟨_, -, rfl⟩ | ⟨-, rfl⟩
      · cases reached
      · cases reached
  | awakened here awakened =>
      obtain ⟨_, _, -, -, rfl⟩ := before_of_awakened? awakened
      cases reached
  | broken down here broken =>
      obtain ⟨-, rfl⟩ := before_of_broken? broken
      cases reached

theorem State.died_of_outcome? {state : State} {ticket : Nat} {outcome : Outcome} {report : Report}
    (isOver : state.outcome? ticket = some outcome) (told : outcome.report? = some report) :
    ∃ generation, state.Died generation ticket report := by
  obtain ⟨sequence, generation, performs⟩ := State.performs_of_outcome? isOver
  exact ⟨generation, sequence, outcome, performs, told⟩

theorem State.Died.report?_eq {state : State} {generation ticket : Nat} {outcome : Outcome}
    {report : Report} (died : state.Died generation ticket report)
    (isOver : state.outcome? ticket = some outcome) : outcome.report? = some report := by
  obtain ⟨sequence, other, performs, told⟩ := died
  rw [performs.outcome?_eq] at isOver
  cases isOver
  exact told

/-- While a sequence is noted that has ended, whoever begins to wait sees that at once. -/
theorem State.settle_eq_of_noted (staging : Staging) {state : State} {ticket : Nat} {outcome : Outcome}
    (noted : state.latest = some ticket) (isOver : state.outcome? ticket = some outcome)
    (limit : Option Nat) (bound : Nat) :
    state.settle staging limit (bound + 2) =
      State.watchFor staging (limit.map (state.clock + ·)) bound { state with latest := none }
        (State.afterOutcome outcome) := by
  have stillOver : State.outcome? { state with latest := none } ticket = some outcome := isOver
  rw [State.settle, State.watchFor_step staging _ _ _ (by simp), State.watch, noted,
    State.watchFor_step staging _ _ _ (by simp), State.watch, stillOver]

theorem State.settle_of_noted {staging : Staging} {state : State} {generation ticket : Nat}
    {report : Report} (noted : state.latest = some ticket)
    (died : state.Died generation ticket report) (limit : Option Nat) (bound : Nat) :
    state.settle staging limit (bound + 3) = some ({ state with latest := none }, report) := by
  obtain ⟨sequence, outcome, performs, reports⟩ := died
  have told : State.afterOutcome outcome = .reported report := by
    cases outcome <;> cases reports <;> rfl
  rw [State.settle_eq_of_noted staging noted performs.outcome?_eq limit (bound + 1), told]
  exact State.watchFor_reported staging _ bound _ report

namespace Vigil

variable {staging : Staging} {vigil later : Vigil}

/-- The sequences that were told of, that are awaited, and that are noted, in this order. -/
def tickets (vigil : Vigil) : List Nat :=
  vigil.reports.filterMap Prod.fst ++ (vigil.waiting.ticket?.toList ++ vigil.state.latest.toList)

/-- A sequence goes from the note to whoever waits and from there to the answers, or drops out. -/
theorem Looks.tickets_sublist (looks : Looks vigil later) : later.tickets.Sublist vigil.tickets := by
  cases looks with
  | idles => exact .refl _
  | settles seeking nothing => simp [tickets, seeking, nothing, Waiting.ticket?]
  | takes seeking latest => simp [tickets, seeking, latest, Waiting.ticket?]
  | stays => exact .refl _
  | passes awaiting => simp [tickets, awaiting, Waiting.ticket?]
  | tells awaiting => simp [tickets, awaiting, Waiting.ticket?]

theorem Looks.activities_eq (looks : Looks vigil later) :
    later.state.activities = vigil.state.activities := by
  cases looks <;> rfl

theorem Looks.position_eq (looks : Looks vigil later) :
    later.state.position = vigil.state.position := by
  cases looks <;> rfl

theorem Looks.reports_kept (looks : Looks vigil later) :
    vigil.reports.IsPrefix later.reports := by
  cases looks with
  | settles => exact List.prefix_append _ _
  | tells => exact List.prefix_append _ _
  | _ => exact List.prefix_rfl

theorem Looks.died (looks : Looks vigil later) {generation ticket : Nat} {report : Report}
    (died : vigil.state.Died generation ticket report) : later.state.Died generation ticket report := by
  unfold State.Died State.Performs
  rw [looks.activities_eq]
  exact died

/-- What a look adds to the answers is that a sequence has died, or nothing about any. -/
theorem Looks.died_of_told (looks : Looks vigil later) {ticket : Nat} {report : Report}
    (told : (some ticket, report) ∈ later.reports) :
    (some ticket, report) ∈ vigil.reports ∨
      ∃ generation, vigil.state.Died generation ticket report := by
  cases looks with
  | settles =>
      rcases List.mem_append.mp told with before | new
      · exact .inl before
      · simp at new
  | tells awaiting isOver died =>
      rcases List.mem_append.mp told with before | new
      · exact .inl before
      · simp only [List.mem_singleton, Prod.mk.injEq, Option.some.injEq] at new
        obtain ⟨rfl, rfl⟩ := new
        exact .inr (State.died_of_outcome? isOver died)
  | _ => exact .inl told

/-- A sequence that is awaited goes on being awaited until its end is told, if there is something to
tell. -/
theorem Looks.of_awaited (looks : Looks vigil later) {ticket : Nat}
    (awaited : vigil.waiting = .awaiting ticket) :
    later.waiting = .awaiting ticket ∨ ∃ outcome, vigil.state.outcome? ticket = some outcome ∧
      ∀ report, outcome.report? = some report →
        later.reports = vigil.reports ++ [(some ticket, report)] := by
  cases looks with
  | idles => exact .inl awaited
  | stays => exact .inl awaited
  | settles seeking =>
      rw [seeking] at awaited
      cases awaited
  | takes seeking =>
      rw [seeking] at awaited
      cases awaited
  | @passes _ outcome awaiting isOver peaceful =>
      rw [awaiting] at awaited
      cases awaited
      refine .inr ⟨outcome, isOver, fun report died => ?_⟩
      rw [peaceful] at died
      cases died
  | @tells _ outcome report awaiting isOver died =>
      rw [awaiting] at awaited
      cases awaited
      refine .inr ⟨outcome, isOver, fun other again => ?_⟩
      rw [died] at again
      cases again
      rfl

/-! ## Every sequence in force is accounted for -/

/-- Whoever waits, now or later, learns how a sequence at a stage ends, or it was told already. -/
inductive Knows (vigil : Vigil) (ticket : Nat) : Stage → Prop
  | noted {stage : Stage} (latest : vigil.state.latest = some ticket) : Knows vigil ticket stage
  | awaited {stage : Stage} (waiting : vigil.waiting = .awaiting ticket) : Knows vigil ticket stage
  | told {outcome : Outcome}
      (reported : ∀ report, outcome.report? = some report → (some ticket, report) ∈ vigil.reports) :
      Knows vigil ticket (.finished outcome)

theorem Looks.knows (looks : Looks vigil later) {ticket : Nat} {sequence : Sequence}
    {generation : Nat} {stage : Stage}
    (performs : vigil.state.Performs ticket sequence generation stage)
    (knows : vigil.Knows ticket stage) : later.Knows ticket stage := by
  cases knows with
  | noted noted =>
      cases looks with
      | settles seeking nothing =>
          rw [nothing] at noted
          cases noted
      | takes seeking latest =>
          rw [latest] at noted
          cases noted
          exact .awaited rfl
      | _ => exact .noted noted
  | awaited awaited =>
      rcases looks.of_awaited awaited with still | ⟨outcome, isOver, told⟩
      · exact .awaited still
      · obtain ⟨_, _, finished⟩ := State.performs_of_outcome? isOver
        obtain ⟨-, -, rfl⟩ := finished.unique performs
        refine .told fun report died => ?_
        rw [told report died]
        exact List.mem_append_right _ (List.mem_singleton_self _)
  | told reported =>
      exact .told fun report died => looks.reports_kept.subset (reported report died)

/-- No sequence in force is lost sight of, and none is told of twice, or falsely. -/
structure Accounted (vigil : Vigil) : Prop where
  knows : ∀ {ticket sequence stage},
    vigil.state.Performs ticket sequence vigil.state.position.generation stage →
      vigil.Knows ticket stage
  given : ∀ ticket ∈ vigil.tickets, ticket < vigil.state.activities.length
  once : vigil.tickets.Nodup
  honest : ∀ {ticket report}, (some ticket, report) ∈ vigil.reports →
    ∃ generation, vigil.state.Died generation ticket report

theorem accounted_opening {state : State} (idle : state.activities = [])
    (unnoted : state.latest = none) : (opening state).Accounted where
  knows performs := by simp [opening, State.Performs, idle] at performs
  given := by simp [tickets, opening, unnoted, Waiting.ticket?]
  once := by simp [tickets, opening, unnoted, Waiting.ticket?]
  honest told := by cases told

theorem Accounted.looks (accounted : vigil.Accounted) (looks : Looks vigil later) :
    later.Accounted where
  knows {ticket sequence stage} performs := by
    unfold State.Performs at performs
    rw [looks.activities_eq, looks.position_eq] at performs
    exact looks.knows performs (accounted.knows performs)
  given ticket member := by
    rw [looks.activities_eq]
    exact accounted.given ticket (looks.tickets_sublist.subset member)
  once := accounted.once.sublist looks.tickets_sublist
  honest told := by
    rcases looks.died_of_told told with before | ⟨generation, died⟩
    · obtain ⟨generation, died⟩ := accounted.honest before
      exact ⟨generation, looks.died died⟩
    · exact ⟨generation, looks.died died⟩

section Happens

variable {happening : Happening}

/-- Unless a sequence is begun, the note stays, and so does what is known of the sequence in force. -/
theorem Accounted.happens_kept (accounted : vigil.Accounted)
    (steady : vigil.state.Steady staging.story)
    (latest : (vigil.state.after staging happening).latest = vigil.state.latest)
    (runsOn : (vigil.state.after staging happening).position.mode = .running →
      (vigil.state.after staging happening).position.generation = vigil.state.position.generation) :
    Accounted { vigil with state := vigil.state.after staging happening } where
  knows {ticket sequence stage} performs := by
    rcases performs.before_or_begun with ⟨earlier, before⟩ | ⟨-, -, newer, -, -, -, running, -⟩
    · have inForce : (vigil.state.after staging happening).position.generation =
          vigil.state.position.generation :=
        Nat.le_antisymm (steady.orderly.notAhead before)
          (vigil.state.generation_le_after staging happening)
      cases accounted.knows (inForce ▸ before) with
      | noted noted => exact .noted (latest.trans noted)
      | awaited awaited => exact .awaited awaited
      | told reported =>
          obtain ⟨-, -, rfl⟩ := (before.finished_after happening).unique performs
          exact .told reported
    · exact absurd (runsOn running) (Nat.ne_of_gt newer)
  given ticket member := by
    simp only [tickets, latest] at member
    exact Nat.lt_of_lt_of_le (accounted.given ticket member)
      (State.length_le_course staging [happening] vigil.state)
  once := by
    simp only [tickets, latest]
    exact accounted.once
  honest told := by
    obtain ⟨generation, died⟩ := accounted.honest told
    exact ⟨generation, died.after happening⟩

/-- A sequence that is begun is noted, whatever was noted before it. -/
theorem Accounted.happens_begun (accounted : vigil.Accounted)
    (steady : vigil.state.Steady staging.story) {body : Sequence}
    (latest : (vigil.state.after staging happening).latest = some vigil.state.activities.length)
    (begun : (vigil.state.after staging happening).Performs vigil.state.activities.length body
      (vigil.state.after staging happening).position.generation (.ready 0)) :
    Accounted { vigil with state := vigil.state.after staging happening } := by
  have split : tickets { vigil with state := vigil.state.after staging happening } =
      (vigil.reports.filterMap Prod.fst ++ vigil.waiting.ticket?.toList) ++
        [vigil.state.activities.length] := by simp [tickets, latest]
  have older : (vigil.reports.filterMap Prod.fst ++ vigil.waiting.ticket?.toList).Sublist
      vigil.tickets := by
    rw [tickets, ← List.append_assoc]
    exact List.sublist_append_left _ _
  have inside := (List.getElem?_eq_some_iff.mp begun).1
  refine ⟨?_, ?_, ?_, ?_⟩
  · intro ticket sequence stage performs
    have same := (steady.orderly.after happening).apart performs begun
    exact .noted (same ▸ latest)
  · intro ticket member
    rw [split, List.mem_append, List.mem_singleton] at member
    rcases member with member | rfl
    · exact Nat.lt_trans (accounted.given ticket (older.subset member)) inside
    · exact inside
  · rw [split, List.nodup_append]
    refine ⟨accounted.once.sublist older, by simp, ?_⟩
    intro ticket member other new
    rw [List.mem_singleton.mp new]
    exact Nat.ne_of_lt (accounted.given ticket (older.subset member))
  · intro ticket report told
    obtain ⟨generation, died⟩ := accounted.honest told
    exact ⟨generation, died.after happening⟩

end Happens

theorem Accounted.after (accounted : vigil.Accounted) (steady : vigil.state.Steady staging.story)
    (startDeclared : staging.story.declares staging.story.start = true) (turn : Turn) :
    (vigil.after staging turn).Accounted := by
  cases turn with
  | happens happening untaken =>
      cases vigil.state.enrolls_after startDeclared untaken with
      | kept latest runsOn =>
          exact accounted.happens_kept steady latest fun running => (runsOn running).2
      | begun body latest newer begun => exact accounted.happens_begun steady latest begun
  | waits =>
      rw [Vigil.after]
      split
      · rename_i nobody
        have same : tickets { vigil with waiting := .seeking } = vigil.tickets := by
          simp [tickets, nobody, Waiting.ticket?]
        refine ⟨fun performs => ?_, same ▸ accounted.given, same ▸ accounted.once, accounted.honest⟩
        cases accounted.knows performs with
        | noted noted => exact .noted noted
        | awaited awaited =>
            rw [nobody] at awaited
            cases awaited
        | told reported => exact .told reported
      · exact accounted
  | looks => exact accounted.looks (vigil.looks_look staging)

theorem attended {initial : State} (opened : State.opening staging.story = .ok initial)
    (turns : List Turn) :
    ((opening initial).attend staging turns).state.Steady staging.story ∧
      ((opening initial).attend staging turns).Accounted := by
  have startDeclared := (State.initial_of_opening opened).2
  refine attend_induction
    (motive := fun vigil => vigil.state.Steady staging.story ∧ vigil.Accounted) ?_ ?_ turns
  · rintro vigil turn ⟨steady, accounted⟩
    exact ⟨steady.of_reaches startDeclared (vigil.reaches_after staging turn),
      accounted.after steady startDeclared turn⟩
  · refine ⟨State.steady_of_opening opened, ?_⟩
    obtain ⟨rfl, -⟩ := State.initial_of_opening opened
    exact accounted_opening rfl rfl

end Vigil

end NarrativePlayer.Session
