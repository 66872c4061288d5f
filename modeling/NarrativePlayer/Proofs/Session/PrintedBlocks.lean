import NarrativePlayer.Proofs.Session.Tenure

/-!
Contract: what sequences print, and when.

All that is printed falls into blocks, one for each sequence, in the order in which the sequences were
begun. A block holds the first lines of its sequence, filled in with the variables that the sequence was
begun with. Owns that between two lines the terminal has been done with the first and its pause has
passed, and that a sequence decides nothing before its block is complete. The lines of a block cannot be
told from its calls alone, so a block is read off the steps of its sequence.
-/

namespace NarrativePlayer

open Session

/-- The call that prints a line at a moment, with the variables of that moment. -/
def Line.printed (line : Line) (store : Table) (time : Nat) : Event :=
  .print time (Template.fill line.text store) line.instant line.speed

/-- The calls that print lines, the first ones if there are fewer moments than lines. -/
def Sequence.printings (sequence : Sequence) (store : Table) (times : List Nat) : List Event :=
  List.zipWith (fun line time => line.printed store time) sequence.lines times

theorem Sequence.length_printings {sequence : Sequence} {times : List Nat} (store : Table)
    (few : times.length ≤ sequence.lines.length) :
    (sequence.printings store times).length = times.length := by
  rw [printings, List.length_zipWith]
  exact Nat.min_eq_right few

private theorem zipWith_concat {α β γ : Type} {combine : α → β → γ} {list : List α} {others : List β}
    {next : α} (here : list[others.length]? = some next) (last : β) :
    List.zipWith combine list (others ++ [last]) =
      List.zipWith combine list others ++ [combine next last] := by
  induction list generalizing others with
  | nil => cases here
  | cons first rest inductionHypothesis =>
      cases others with
      | nil =>
          cases here
          simp
      | cons other others => simpa using inductionHypothesis here

theorem Sequence.printings_concat {sequence : Sequence} {times : List Nat} {line : Line} (store : Table)
    (here : sequence.lines[times.length]? = some line) (time : Nat) :
    sequence.printings store (times ++ [time]) =
      sequence.printings store times ++ [line.printed store time] :=
  zipWith_concat here time

namespace Session

/-- Whether a call prints a line. -/
def Event.isPrint : Event → Bool
  | .print _ _ _ _ => true
  | _ => false

/-- How many lines of so many have been printed at a stage. -/
def Stage.Told (lines told : Nat) : Stage → Prop
  | .ready index => told = index ∧ index ≤ lines
  | .printing index _ => told = index + 1 ∧ index < lines
  | .resting index _ => told = index + 1 ∧ index < lines
  | .presenting _ => told = lines
  | .finished (.failed _) => told = lines
  | .finished _ => told ≤ lines

theorem Stage.Told.le {lines told : Nat} {stage : Stage} (toldSo : stage.Told lines told) :
    told ≤ lines := by
  unfold Told at toldSo
  split at toldSo <;> omega

theorem Silent.filter_isPrint {notes : List Event} (silent : Silent notes) :
    notes.filter Event.isPrint = [] := by
  refine List.filter_eq_nil_iff.mpr fun event member => ?_
  have uncalled := silent event member
  cases event <;> simp_all [Event.isCall, Event.isPrint]

namespace State

/-- The lines printed so far, in their order. -/
def prints (state : State) : List Event :=
  (state.trace.filter Event.isPrint).reverse

/-- The lines printed since an earlier state. -/
def printsSince (earlier later : State) : List Event :=
  later.prints.drop earlier.prints.length

/-- The lines printed in a course by the steps of one activity. -/
def printsBy (staging : Staging) (ticket : Nat) : State → List Happening → List Event
  | _, [] => []
  | state, happening :: rest =>
      (if happening = .step ticket then printsSince state (state.after staging happening) else []) ++
        printsBy staging ticket (state.after staging happening) rest

theorem printsBy_concat (staging : Staging) (ticket : Nat) (happenings : List Happening)
    (last : Happening) (state : State) :
    printsBy staging ticket state (happenings ++ [last]) =
      printsBy staging ticket state happenings ++
        (if last = .step ticket then
          printsSince (state.course staging happenings)
            ((state.course staging happenings).after staging last)
        else []) := by
  induction happenings generalizing state with
  | nil => simp [printsBy, course]
  | cons happening rest inductionHypothesis =>
      rw [List.cons_append, printsBy, inductionHypothesis, printsBy, course, List.append_assoc]

end State

/-! ## What prints -/

theorem Enters.prints_eq {staging : Staging} {id : String} {state : State}
    {result : State × Entrance} (enters : Enters staging id state result) :
    result.1.prints = state.prints := by
  cases enters with
  | undeclared => rfl
  | ends _ _ silent => simp [State.prints, silent.filter_isPrint, Event.isPrint]
  | begins _ _ silent silentLater =>
      simp [State.prints, silent.filter_isPrint, silentLater.filter_isPrint,
        Event.isPrint]
  | asks _ silent => simp [State.prints, silent.filter_isPrint, Event.isPrint]
  | offers _ silent => simp [State.prints, silent.filter_isPrint, Event.isPrint]

theorem State.prints_reply (result : State × Entrance) :
    (State.reply result).1.prints = result.1.prints := by
  obtain ⟨entered, entrance⟩ := result
  cases entrance <;> rfl

/-- A command prints nothing by itself. -/
theorem Obeys.prints_eq {staging : Staging} {state : State} {command : Command}
    {result : State × Reply} (obeys : Obeys staging state command result) :
    result.1.prints = state.prints := by
  cases obeys with
  | starts silent enters =>
      rw [State.prints_reply, enters.prints_eq]
      simp [State.prints, silent.filter_isPrint, Event.isPrint]
  | stops silent => simp [State.prints, silent.filter_isPrint, Event.isPrint]
  | ignores _ silent => simp [State.prints, silent.filter_isPrint]
  | misfits => rfl
  | rejects _ _ _ _ silent =>
      simp [State.prints, silent.filter_isPrint, Event.isPrint]
  | refuses => rfl
  | @moves command _ _ _ leaves _ found notes silent entered enters =>
      rw [State.prints_reply, enters.prints_eq]
      rcases command.clearing_cases with none | one
      · simp [State.prints, none, silent.filter_isPrint]
      · simp [State.prints, one, silent.filter_isPrint, Event.isPrint]
  | closes _ _ _ silent => simp [State.prints, silent.filter_isPrint, Event.isPrint]

/-- A sequence prints only a line of its own that is next, and only while it is in force. Without that,
as many of its lines are told as before. -/
theorem Advances.prints_cases {staging : Staging} {sequence : Sequence} {generation : Nat}
    {state : State} {stage : Stage} {result : State × Stage}
    (advances : Advances staging sequence generation state stage result) :
    (result.1.prints = state.prints ∧ ∀ told, stage.Told sequence.lines.length told →
      result.2.Told sequence.lines.length told) ∨
      ∃ index line, stage = .ready index ∧ state.position.generation = generation ∧
        sequence.lines[index]? = some line ∧ result.2 = .printing index state.printOpen ∧
        result.1.prints = state.prints ++ [line.printed state.position.store state.clock] := by
  have atEnd : ∀ {index told}, sequence.lines[index]? = none →
      (Stage.ready index).Told sequence.lines.length told → told = sequence.lines.length := by
    intro index told beyond toldSo
    have outside := List.getElem?_eq_none_iff.mp beyond
    obtain ⟨same, notBeyond⟩ := toldSo
    omega
  cases advances with
  | prints current here intact silent =>
      refine .inr ⟨_, _, rfl, current, here, rfl, ?_⟩
      simp [State.prints, List.filter_cons, silent.filter_isPrint, Event.isPrint, Line.printed]
  | givesUp _ silent =>
      exact .inl ⟨by simp [State.prints, silent.filter_isPrint], fun told toldSo => toldSo.le⟩
  | givesUpPrinted _ _ silent =>
      exact .inl ⟨by simp [State.prints, silent.filter_isPrint], fun told toldSo => toldSo.le⟩
  | breaksOff _ _ _ silent =>
      exact .inl ⟨by simp [State.prints, silent.filter_isPrint], fun told toldSo => toldSo.le⟩
  | rests => exact .inl ⟨rfl, fun told toldSo => toldSo⟩
  | passes => exact .inl ⟨rfl, fun told toldSo => toldSo⟩
  | skips beyond =>
      have outside := List.getElem?_eq_none_iff.mp beyond
      exact .inl ⟨rfl, fun told toldSo => absurd toldSo.2 (Nat.not_lt_of_le outside)⟩
  | waits _ _ _ silent =>
      exact .inl ⟨by simp [State.prints, silent.filter_isPrint, Event.isPrint],
        fun told toldSo => toldSo.le⟩
  | ends _ _ _ _ silent =>
      exact .inl ⟨by simp [State.prints, silent.filter_isPrint, Event.isPrint],
        fun told toldSo => toldSo.le⟩
  | leads _ _ _ _ enters => exact .inl ⟨enters.prints_eq, fun told toldSo => toldSo.le⟩
  | presents _ beyond _ _ enters =>
      exact .inl ⟨enters.prints_eq, fun told toldSo => atEnd beyond toldSo⟩
  | fails _ beyond _ _ enters =>
      refine .inl ⟨Eq.trans ?_ enters.prints_eq, fun told toldSo => atEnd beyond toldSo⟩
      simp [State.prints, Event.isPrint]
  | presented => exact .inl ⟨rfl, fun told toldSo => toldSo.le⟩
  | stays => exact .inl ⟨rfl, fun told toldSo => toldSo⟩

namespace State

/-- A happening with which a sequence in force prints its next line. -/
structure PrintsLine (staging : Staging) (state : State) (happening : Happening) (ticket : Nat)
    (sequence : Sequence) (index : Nat) (line : Line) : Prop where
  steps : happening = .step ticket
  performs : state.Performs ticket sequence state.position.generation (.ready index)
  onLine : sequence.lines[index]? = some line
  reached : (state.after staging happening).Performs ticket sequence state.position.generation
    (.printing index state.printOpen)
  printed : (state.after staging happening).prints =
    state.prints ++ [line.printed state.position.store state.clock]

/-- Nothing is printed but by a step of the sequence in force. -/
theorem prints_after (staging : Staging) (state : State) (happening : Happening) :
    (state.after staging happening).prints = state.prints ∨
      ∃ ticket sequence index line,
        PrintsLine staging state happening ticket sequence index line := by
  cases happening with
  | command command => exact .inl (state.obeys_execute staging command).prints_eq
  | step ticket =>
      have goesOn := state.goesOn_goOn staging ticket
      generalize outcome : state.goOn staging ticket = later at goesOn
      have same : state.after staging (.step ticket) = later := outcome
      cases goesOn with
      | @performs sequence generation stage reached next here advances =>
          rcases advances.prints_cases with ⟨nothing, -⟩ | ⟨index, line, rfl, rfl, onLine, stage, printed⟩
          · exact .inl (same ▸ nothing)
          · obtain ⟨added, -, activities⟩ := advances.begun
            have inside : ticket < next.activities.length := by
              have before := (List.getElem?_eq_some_iff.mp here).1
              change next.activities = state.activities ++ added at activities
              rw [activities, List.length_append]
              omega
            refine .inr ⟨ticket, sequence, index, line, rfl, here, onLine, ?_, ?_⟩
            · rw [same, ← stage]
              exact List.getElem?_set_self inside
            · rw [same]
              exact printed
      | returns here =>
          rw [same]
          exact .inl (by simp [prints, Event.isPrint])
      | rests => exact .inl (congrArg prints same)
  | turn gate opened => cases gate <;> exact .inl rfl
  | _ => exact .inl rfl

theorem PrintsLine.printsSince_eq {staging : Staging} {state : State} {happening : Happening}
    {ticket : Nat} {sequence : Sequence} {index : Nat} {line : Line}
    (prints : PrintsLine staging state happening ticket sequence index line) :
    printsSince state (state.after staging happening) =
      [line.printed state.position.store state.clock] := by
  rw [printsSince, prints.printed, List.drop_left]

theorem printsSince_of_prints_eq {earlier later : State} (same : later.prints = earlier.prints) :
    printsSince earlier later = [] := by
  rw [printsSince, same, List.drop_length]

/-! ## Blocks -/

/-- Sequences have generations in the order of their tickets. -/
theorem ascending_course {staging : Staging} {initial : State}
    (opened : opening staging.story = .ok initial) (happenings : List Happening) :
    ∀ {first second sequence other generation since stage reached},
      (initial.course staging happenings).Performs first sequence generation stage →
      (initial.course staging happenings).Performs second other since reached →
      first < second → generation < since := by
  refine course_rec (motive := fun _ state =>
    ∀ {first second sequence other generation since stage reached},
      state.Performs first sequence generation stage → state.Performs second other since reached →
        first < second → generation < since) ?_ ?_ happenings
  · obtain ⟨rfl, -⟩ := initial_of_opening opened
    intro first second sequence other generation since stage reached performs
    cases performs
  · intro past happening ascending first second sequence other generation since stage reached
      performs again before
    have orderly := orderly_course (orderly_of_opening opened) past
    rcases performs.before_or_begun with ⟨_, here⟩ | ⟨new, -⟩
    · rcases again.before_or_begun with ⟨_, there⟩ | ⟨-, -, newer, -⟩
      · exact ascending here there before
      · exact Nat.lt_of_le_of_lt (orderly.notAhead here) newer
    · rcases again.before_or_begun with ⟨_, there⟩ | ⟨newToo, -⟩
      · have inside := (List.getElem?_eq_some_iff.mp there).1
        omega
      · omega

/-- What never was a sequence has printed nothing. -/
theorem printsBy_eq_nil {staging : Staging} (initial : State) (happenings : List Happening)
    {ticket : Nat} (noSequence : ∀ sequence generation stage,
      ¬ (initial.course staging happenings).Performs ticket sequence generation stage) :
    printsBy staging ticket initial happenings = [] := by
  revert noSequence
  refine course_rec (motive := fun past state =>
    (∀ sequence generation stage, ¬ state.Performs ticket sequence generation stage) →
      printsBy staging ticket initial past = []) ?_ ?_ happenings
  · intro _
    rfl
  · intro past happening before noSequence
    have neverBefore : ∀ sequence generation stage,
        ¬ (initial.course staging past).Performs ticket sequence generation stage := by
      intro sequence generation stage performs
      obtain ⟨reached, still⟩ := performs_after performs staging happening
      exact noSequence _ _ _ still
    rw [printsBy_concat, before neverBefore, List.nil_append]
    split
    · rename_i stepped
      rcases prints_after staging (initial.course staging past) happening with
        nothing | ⟨other, sequence, index, line, prints⟩
      · exact printsSince_of_prints_eq nothing
      · have own := prints.steps
        rw [stepped] at own
        cases own
        exact absurd prints.performs (neverBefore _ _ _)
    · rfl

private theorem flatMap_range_concat {count ticket : Nat} {blocks longer : Nat → List Event}
    {added : List Event} (inside : ticket < count)
    (own : longer ticket = blocks ticket ++ added)
    (others : ∀ other, other ≠ ticket → longer other = blocks other)
    (empty : ∀ other, ticket < other → blocks other = []) :
    (List.range count).flatMap longer = (List.range count).flatMap blocks ++ added := by
  obtain ⟨rest, rfl⟩ := Nat.exists_eq_add_of_lt inside
  have split : List.range (ticket + rest + 1) =
      List.range ticket ++ ticket :: (List.range rest).map (ticket + 1 + ·) := by
    rw [show ticket + rest + 1 = ticket + 1 + rest by omega, List.range_add, List.range_succ,
      List.append_assoc, List.singleton_append]
  have before : (List.range ticket).flatMap longer = (List.range ticket).flatMap blocks := by
    have same : ∀ other ∈ List.range ticket, longer other = blocks other :=
      fun other member => others other (Nat.ne_of_lt (List.mem_range.mp member))
    rw [List.flatMap_def, List.flatMap_def, List.map_congr_left same]
  have behind : ∀ {family : Nat → List Event}, (∀ other, ticket < other → family other = []) →
      ((List.range rest).map (ticket + 1 + ·)).flatMap family = [] := by
    intro family nothing
    refine List.flatMap_eq_nil_iff.mpr fun other member => ?_
    obtain ⟨offset, -, rfl⟩ := List.mem_map.mp member
    exact nothing _ (by omega)
  have emptyStill : ∀ other, ticket < other → longer other = [] := by
    intro other later
    rw [others other (Nat.ne_of_gt later), empty other later]
  rw [split]
  simp only [List.flatMap_append, List.flatMap_cons]
  rw [before, behind emptyStill, behind empty, own]
  simp

/-- All that was printed, block by block. -/
theorem prints_course {staging : Staging} {initial : State}
    (opened : opening staging.story = .ok initial) (happenings : List Happening) :
    (initial.course staging happenings).prints =
      (List.range (initial.course staging happenings).activities.length).flatMap fun ticket =>
        printsBy staging ticket initial happenings := by
  refine course_rec (motive := fun past state => state.prints =
    (List.range state.activities.length).flatMap fun ticket =>
      printsBy staging ticket initial past) ?_ ?_ happenings
  · obtain ⟨rfl, -⟩ := initial_of_opening opened
    rfl
  · intro past happening held
    have orderly := orderly_course (orderly_of_opening opened) past
    -- Activities that are new have printed nothing yet.
    have grown : (List.range ((initial.course staging past).after staging
          happening).activities.length).flatMap (fun ticket => printsBy staging ticket initial past) =
        (List.range (initial.course staging past).activities.length).flatMap fun ticket =>
          printsBy staging ticket initial past := by
      obtain ⟨kept, added, activities, asMany, -⟩ :=
        (initial.course staging past).begun_after staging happening
      rw [activities, List.length_append, asMany, List.range_add, List.flatMap_append]
      refine List.append_right_eq_self.mpr (List.flatMap_eq_nil_iff.mpr fun ticket member => ?_)
      obtain ⟨offset, -, rfl⟩ := List.mem_map.mp member
      refine printsBy_eq_nil initial past fun sequence generation stage performs => ?_
      have inside := (List.getElem?_eq_some_iff.mp performs).1
      omega
    rcases prints_after staging (initial.course staging past) happening with
      nothing | ⟨ticket, sequence, index, line, prints⟩
    · rw [nothing, held, ← grown]
      simp only [printsBy_concat, printsSince_of_prints_eq nothing, ite_self, List.append_nil]
    · rw [prints.printed, held, ← grown]
      refine (flatMap_range_concat (List.getElem?_eq_some_iff.mp prints.reached).1 ?_ ?_ ?_).symm
      · rw [printsBy_concat, if_pos prints.steps, prints.printsSince_eq]
      · intro other different
        have elsewhere : happening ≠ .step other := by
          rw [prints.steps]
          intro same
          cases same
          exact different rfl
        rw [printsBy_concat, if_neg elsewhere, List.append_nil]
      · intro other later
        refine printsBy_eq_nil initial past fun body generation stage performs => ?_
        have newer := ascending_course opened past prints.performs performs later
        exact absurd (orderly.notAhead performs) (Nat.not_le_of_lt newer)

end State

end Session

end NarrativePlayer
