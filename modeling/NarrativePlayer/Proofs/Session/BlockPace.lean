import NarrativePlayer.Proofs.Session.PrintedBlocks

/-!
Contract: the pace at which a sequence is told.

Owns two invariants of single sequences. The block of a sequence is as long as its stage says, and holds
what its lines say with the variables that it was begun with. And where the stage says that a line is
next, or that the end is, the line before it was printed to its end and the clock has come to show that
its pause has passed. From these follows when a line can begin and when a sequence can decide on what
follows.
-/

namespace NarrativePlayer.Session

namespace State

/-- The pause before the line at an index is over: at some moment the terminal was done with the line
before it, and since then the clock has come to show that the pause after that line has passed. -/
def PauseOver (staging : Staging) (initial : State) (happenings : List Happening) (ticket : Nat)
    (sequence : Sequence) (index : Nat) : Prop :=
  ∀ previous line, index = previous + 1 → sequence.lines[previous]? = some line →
    ∃ printed rested later, happenings = printed ++ rested ++ later ∧
      (∃ generation, (initial.course staging printed).Performs ticket sequence generation
        (.printing previous true)) ∧
      (initial.course staging printed).clock + line.delay ≤
        (initial.course staging (printed ++ rested)).clock

theorem PauseOver.concat {staging : Staging} {initial : State} {happenings : List Happening}
    {ticket : Nat} {sequence : Sequence} {index : Nat}
    (pauseOver : PauseOver staging initial happenings ticket sequence index) (last : Happening) :
    PauseOver staging initial (happenings ++ [last]) ticket sequence index := by
  intro previous line next here
  obtain ⟨printed, rested, later, rfl, facts⟩ := pauseOver previous line next here
  exact ⟨printed, rested, later ++ [last], by simp, facts⟩

/-- Where the clock was never ahead of now, it shows now that the pause has passed. -/
theorem PauseOver.elapsed {staging : Staging} {initial : State} {happenings : List Happening}
    {ticket : Nat} {sequence : Sequence} {previous : Nat}
    (pauseOver : PauseOver staging initial happenings ticket sequence (previous + 1)) {line : Line}
    (here : sequence.lines[previous]? = some line)
    (forward : ∀ past later, happenings = past ++ later →
      (initial.course staging past).clock ≤ (initial.course staging happenings).clock) :
    ∃ printed later, happenings = printed ++ later ∧
      (∃ generation, (initial.course staging printed).Performs ticket sequence generation
        (.printing previous true)) ∧
      (initial.course staging printed).clock + line.delay ≤
        (initial.course staging happenings).clock := by
  obtain ⟨printed, rested, later, split, performs, shown⟩ := pauseOver previous line rfl here
  have notAhead := forward (printed ++ rested) later split
  refine ⟨printed, rested ++ later, ?_, performs, Nat.le_trans shown notAhead⟩
  rw [split, List.append_assoc]

/-- What the clock has to have shown for a stage. -/
def Paced (staging : Staging) (initial : State) (happenings : List Happening) (ticket : Nat)
    (sequence : Sequence) : Stage → Prop
  | .ready index => PauseOver staging initial happenings ticket sequence index
  | .resting index due => ∃ printed later line, happenings = printed ++ later ∧
      sequence.lines[index]? = some line ∧
      (∃ generation, (initial.course staging printed).Performs ticket sequence generation
        (.printing index true)) ∧
      due = (initial.course staging printed).clock + line.delay
  | _ => True

theorem Paced.concat {staging : Staging} {initial : State} {happenings : List Happening}
    {ticket : Nat} {sequence : Sequence} {stage : Stage}
    (paced : Paced staging initial happenings ticket sequence stage) (last : Happening) :
    Paced staging initial (happenings ++ [last]) ticket sequence stage := by
  cases stage with
  | ready index => exact PauseOver.concat paced last
  | resting index due =>
      obtain ⟨printed, later, line, rfl, facts⟩ := paced
      exact ⟨printed, later ++ [last], line, by simp, facts⟩
  | _ => trivial

/-- A sequence that goes on keeps the pace. -/
theorem Paced.advance {staging : Staging} {initial : State} {happenings : List Happening}
    {ticket : Nat} {sequence : Sequence} {generation : Nat} {earlier stage : Stage} {next : State}
    (paced : Paced staging initial happenings ticket sequence earlier)
    (performs : (initial.course staging happenings).Performs ticket sequence generation earlier)
    (advances : Advances staging sequence generation (initial.course staging happenings) earlier
      (next, stage)) (last : Happening) :
    Paced staging initial (happenings ++ [last]) ticket sequence stage := by
  cases advances with
  | @rests index line current here pause =>
      exact ⟨happenings, [last], line, rfl, here, ⟨generation, performs⟩, rfl⟩
  | @passes index line current here atOnce =>
      intro previous other next there
      cases next
      rw [here] at there
      cases there
      refine ⟨happenings, [], [last], by simp, ⟨generation, performs⟩, ?_⟩
      rw [atOnce, List.append_nil]
      exact Nat.le_refl _
  | skips beyond =>
      intro previous other next there
      cases next
      rw [beyond] at there
      cases there
  | stays => exact paced.concat last
  | _ => trivial

/-- Whatever else happens to a sequence keeps the pace. -/
theorem Paced.rouse {staging : Staging} {initial : State} {happenings : List Happening}
    {ticket : Nat} {sequence : Sequence} {earlier stage : Stage}
    (paced : Paced staging initial happenings ticket sequence earlier)
    (roused : Roused (initial.course staging happenings).clock earlier stage) (last : Happening) :
    Paced staging initial (happenings ++ [last]) ticket sequence stage := by
  cases roused with
  | kept => exact paced.concat last
  | printed => trivial
  | presented => trivial
  | broken => trivial
  | rested early =>
      intro previous other next there
      cases next
      obtain ⟨printed, later, line, split, here, performs, due⟩ := paced
      rw [here] at there
      cases there
      refine ⟨printed, later, [last], by rw [split], performs, ?_⟩
      rw [← due, ← split]
      exact early

theorem paced_course {staging : Staging} {initial : State}
    (opened : opening staging.story = .ok initial) (happenings : List Happening) :
    ∀ {ticket sequence generation stage},
      (initial.course staging happenings).Performs ticket sequence generation stage →
        Paced staging initial happenings ticket sequence stage := by
  refine course_rec (motive := fun past state => ∀ {ticket sequence generation stage},
    state.Performs ticket sequence generation stage →
      Paced staging initial past ticket sequence stage) ?_ ?_ happenings
  · obtain ⟨rfl, -⟩ := initial_of_opening opened
    intro ticket sequence generation stage performs
    cases performs
  · intro past happening held ticket sequence generation stage performs
    by_cases own : happening = .step ticket
    · subst own
      obtain ⟨earlier, next, before, advances, -⟩ := performs.own_step
      exact (held before).advance before advances _
    · rcases performs.elsewhere own with ⟨earlier, before, roused⟩ | ⟨-, first⟩
      · exact (held before).rouse roused happening
      · subst first
        intro previous line next
        cases next

/-! ## What a block holds -/

/-- The block of a sequence is as long as its stage says, and filled in with the variables that the
sequence was begun with. -/
def Recited (staging : Staging) (initial : State) (happenings : List Happening) (ticket : Nat)
    (sequence : Sequence) (stage : Stage) : Prop :=
  ∃ store times, BegunWith staging initial happenings ticket sequence store ∧
    printsBy staging ticket initial happenings = sequence.printings store times ∧
    stage.Told sequence.lines.length times.length

theorem Recited.keep {staging : Staging} {initial : State} {happenings : List Happening}
    {ticket : Nat} {sequence : Sequence} {earlier stage : Stage}
    (recited : Recited staging initial happenings ticket sequence earlier) {last : Happening}
    (told : ∀ told, earlier.Told sequence.lines.length told →
      stage.Told sequence.lines.length told)
    (nothing : printsBy staging ticket initial (happenings ++ [last]) =
      printsBy staging ticket initial happenings) :
    Recited staging initial (happenings ++ [last]) ticket sequence stage := by
  obtain ⟨store, times, begun, block, toldBefore⟩ := recited
  exact ⟨store, times, begun.concat last, nothing.trans block, told _ toldBefore⟩

theorem Stage.Told.rouse {clock lines told : Nat} {earlier stage : Stage}
    (toldSo : earlier.Told lines told) (roused : Roused clock earlier stage) :
    stage.Told lines told := by
  cases roused with
  | kept => exact toldSo
  | printed => exact toldSo
  | presented => exact toldSo
  | rested => exact toldSo
  | broken =>
      obtain ⟨rfl, within⟩ := toldSo
      exact within

theorem PrintsLine.recited {staging : Staging} {initial : State} {happenings : List Happening}
    (opened : opening staging.story = .ok initial) {last : Happening} {ticket : Nat}
    {sequence : Sequence} {index : Nat} {line : Line}
    (prints : PrintsLine staging (initial.course staging happenings) last ticket sequence index line)
    (recited : Recited staging initial happenings ticket sequence (.ready index)) (released : Bool) :
    Recited staging initial (happenings ++ [last]) ticket sequence (.printing index released) := by
  obtain ⟨store, times, begun, block, told, -⟩ := recited
  obtain ⟨-, -, begunInForce⟩ := tenure_course opened happenings prints.performs rfl
  -- The variables in force are those that the sequence was begun with.
  have sameStore := begun.unique begunInForce
  have onLine := prints.onLine
  rw [← told] at onLine
  refine ⟨store, times ++ [(initial.course staging happenings).clock], begun.concat last, ?_, ?_, ?_⟩
  · rw [printsBy_concat, if_pos prints.steps, prints.printsSince_eq, block, ← sameStore]
    exact (Sequence.printings_concat store onLine _).symm
  · rw [List.length_append, told]
    rfl
  · exact told ▸ (List.getElem?_eq_some_iff.mp onLine).1

theorem recited_course {staging : Staging} {initial : State}
    (opened : opening staging.story = .ok initial) (happenings : List Happening) :
    ∀ {ticket sequence generation stage},
      (initial.course staging happenings).Performs ticket sequence generation stage →
        Recited staging initial happenings ticket sequence stage := by
  refine course_rec (motive := fun past state => ∀ {ticket sequence generation stage},
    state.Performs ticket sequence generation stage →
      Recited staging initial past ticket sequence stage) ?_ ?_ happenings
  · obtain ⟨rfl, -⟩ := initial_of_opening opened
    intro ticket sequence generation stage performs
    cases performs
  · intro past happening held ticket sequence generation stage performs
    by_cases own : happening = .step ticket
    · rcases prints_after staging (initial.course staging past) happening with
        nothing | ⟨other, body, index, line, prints⟩
      · obtain ⟨earlier, next, before, advances, replaced⟩ := (own ▸ performs).own_step
        have unprinted : next.prints = (initial.course staging past).prints := by
          rw [own, replaced] at nothing
          exact nothing
        refine (held before).keep ?_ ?_
        · rcases advances.prints_cases with ⟨-, told⟩ | ⟨index, line, -, -, -, -, printed⟩
          · exact told
          · rw [unprinted] at printed
            simp at printed
        · rw [printsBy_concat, printsSince_of_prints_eq nothing, ite_self, List.append_nil]
      · cases own.symm.trans prints.steps
        obtain ⟨rfl, -, rfl⟩ := prints.reached.unique performs
        exact prints.recited opened (held prints.performs) _
    · have elsewhere : printsBy staging ticket initial (past ++ [happening]) =
          printsBy staging ticket initial past := by
        rw [printsBy_concat, if_neg own, List.append_nil]
      rcases performs.elsewhere own with ⟨earlier, before, roused⟩ | ⟨new, first⟩
      · exact (held before).keep (fun told toldSo => Stage.Told.rouse toldSo roused) elsewhere
      · subst new first
        refine ⟨_, [], begunWith_of_begun performs, ?_, rfl, Nat.zero_le _⟩
        rw [elsewhere, printsBy_eq_nil initial past]
        · exact (List.zipWith_nil_right).symm
        · intro other since stage before
          exact absurd (List.getElem?_eq_some_iff.mp before).1 (Nat.lt_irrefl _)

/-! ## What a sequence decides -/

/-- With a step an activity waits, leads on, ends the story, or comes into trouble: it changes the
position, makes another call than for a line, or fails. -/
def Decides (staging : Staging) (state : State) (ticket : Nat) : Prop :=
  (state.after staging (.step ticket)).position ≠ state.position ∨
    (∃ event ∈ callsSince state (state.after staging (.step ticket)), event.isPrint = false) ∨
    ∃ trouble, (state.after staging (.step ticket)).outcome? ticket = some (.failed trouble) ∧
      state.outcome? ticket ≠ some (.failed trouble)

end State

/-- Before the end of its lines, a sequence that is taken further has no say in the position, calls for
nothing but lines, and comes into no trouble. -/
theorem Advances.keeps_or_concludes {staging : Staging} {sequence : Sequence} {generation : Nat}
    {state : State} {stage : Stage} {result : State × Stage}
    (advances : Advances staging sequence generation state stage result) :
    (∃ calls, result.1.position = state.position ∧ result.1.calls = state.calls ++ calls ∧
      (∀ event ∈ calls, event.isPrint = true) ∧
      ∀ trouble, result.2 = .finished (.failed trouble) → stage = .finished (.failed trouble)) ∨
    ∃ index, stage = .ready index ∧ state.position.generation = generation ∧
      sequence.lines[index]? = none := by
  have quiet : ∀ {next : State} {reached : Stage} {added : List Event}, Silent added →
      next.trace = added ++ state.trace → next.position = state.position →
      (∀ trouble, reached = .finished (.failed trouble) → stage = .finished (.failed trouble)) →
      (∃ calls, next.position = state.position ∧ next.calls = state.calls ++ calls ∧
        (∀ event ∈ calls, event.isPrint = true) ∧
        ∀ trouble, reached = .finished (.failed trouble) → stage = .finished (.failed trouble)) := by
    intro next reached added silent trace same untroubled
    refine ⟨[], same, ?_, by simp, untroubled⟩
    rw [State.calls_of_trace trace, silent.filter_isCall]
    rfl
  cases advances with
  | @prints index line current here intact notes silent =>
      refine .inl ⟨[line.printed state.position.store state.clock], rfl, ?_, ?_, by simp⟩
      · exact State.calls_of_call silent rfl rfl
      · simp [Line.printed, Event.isPrint]
  | givesUp _ silent => exact .inl (quiet silent rfl rfl (by simp))
  | givesUpPrinted _ _ silent => exact .inl (quiet silent rfl rfl (by simp))
  | breaksOff _ _ _ silent => exact .inl (quiet silent rfl rfl (by simp))
  | rests => exact .inl (quiet .nil rfl rfl (by simp))
  | passes => exact .inl (quiet .nil rfl rfl (by simp))
  | skips => exact .inl (quiet .nil rfl rfl (by simp))
  | presented => exact .inl (quiet .nil rfl rfl (by simp))
  | stays => exact .inl (quiet .nil rfl rfl fun _ same => same)
  | waits current beyond => exact .inr ⟨_, rfl, current, beyond⟩
  | ends current beyond => exact .inr ⟨_, rfl, current, beyond⟩
  | leads current beyond => exact .inr ⟨_, rfl, current, beyond⟩
  | presents current beyond => exact .inr ⟨_, rfl, current, beyond⟩
  | fails current beyond => exact .inr ⟨_, rfl, current, beyond⟩

namespace State

/-- What decides is the sequence in force, at the end of its lines. -/
theorem Decides.concludes {staging : Staging} {state : State} {ticket : Nat}
    (decides : Decides staging state ticket) :
    ∃ sequence index, state.Performs ticket sequence state.position.generation (.ready index) ∧
      sequence.lines[index]? = none := by
  have undecided : ∀ calls : List Event,
      (state.after staging (.step ticket)).position = state.position →
      (state.after staging (.step ticket)).calls = state.calls ++ calls →
      (∀ event ∈ calls, event.isPrint = true) →
      (∀ trouble, (state.after staging (.step ticket)).outcome? ticket = some (.failed trouble) →
        state.outcome? ticket = some (.failed trouble)) → False := by
    intro calls same called lines untroubled
    rcases decides with moved | ⟨event, member, noLine⟩ | ⟨trouble, failed, notBefore⟩
    · exact moved same
    · rw [callsSince_of_calls called] at member
      rw [lines event member] at noLine
      cases noLine
    · exact notBefore (untroubled trouble failed)
  have goesOn := state.goesOn_goOn staging ticket
  generalize outcome : state.goOn staging ticket = later at goesOn
  have same : state.after staging (.step ticket) = later := outcome
  rw [same] at undecided
  cases goesOn with
  | @performs sequence generation stage reached next here advances =>
      rcases advances.keeps_or_concludes with
        ⟨calls, position, called, lines, untroubled⟩ | ⟨index, rfl, rfl, beyond⟩
      · refine (undecided calls position called lines fun trouble failed => ?_).elim
        obtain ⟨other, since, performs⟩ := performs_of_outcome? failed
        have equal := eq_of_getElem?_set performs
        simp only [Activity.performance.injEq] at equal
        have before := untroubled trouble equal.2.2.symm
        subst before
        simp [outcome?, here]
      · exact ⟨sequence, index, here, beyond⟩
  | returns here =>
      refine (undecided [] rfl ?_ (by simp) fun trouble failed => ?_).elim
      · simp [calls, Event.isCall]
      · obtain ⟨other, since, performs⟩ := performs_of_outcome? failed
        cases eq_of_getElem?_set performs
  | rests => exact (undecided [] rfl (by simp) (by simp) fun _ failed => failed).elim

/-- Whatever happens, activities keep what they were begun with. -/
private theorem filterMap_deed?_after (staging : Staging) (state : State) (happening : Happening) :
    ((state.after staging happening).activities.take state.activities.length).filterMap
      Activity.deed? = state.activities.filterMap Activity.deed? := by
  obtain ⟨kept, added, activities, asMany, -⟩ := state.begun_after staging happening
  have alike : kept.map Activity.deed? = state.activities.map Activity.deed? := by
    refine List.ext_getElem? fun ticket => ?_
    rw [List.getElem?_map, List.getElem?_map]
    by_cases inside : ticket < state.activities.length
    · have still : (state.after staging happening).activities[ticket]? = kept[ticket]? := by
        rw [activities, List.getElem?_append_left (asMany ▸ inside)]
      obtain ⟨activity, before⟩ : ∃ activity, state.activities[ticket]? = some activity :=
        ⟨_, List.getElem?_eq_getElem inside⟩
      obtain ⟨other, here⟩ : ∃ other, kept[ticket]? = some other :=
        ⟨_, List.getElem?_eq_getElem (asMany ▸ inside)⟩
      cases activity with
      | performance sequence generation stage =>
          obtain ⟨reached, performs⟩ := performs_after before staging happening
          rw [before, ← still, performs]
          rfl
      | call released finished =>
          cases other with
          | call => rw [before, here]; rfl
          | performance sequence generation stage =>
              rcases Performs.before_or_begun (still.trans here) with ⟨earlier, performs⟩ | ⟨new, -⟩
              · cases before.symm.trans performs
              · omega
    · rw [List.getElem?_eq_none (Nat.le_of_not_lt inside),
        List.getElem?_eq_none (asMany ▸ Nat.le_of_not_lt inside)]
  have mapped : ∀ list : List Activity,
      list.filterMap Activity.deed? = (list.map Activity.deed?).filterMap id := by
    intro list
    rw [List.filterMap_map]
    rfl
  rw [activities, ← asMany, List.take_left, mapped, alike, ← mapped]

/-- Sequences are announced as running in the order of their tickets. -/
theorem announced_course {staging : Staging} {initial : State}
    (opened : opening staging.story = .ok initial) (happenings : List Happening) :
    (initial.course staging happenings).calls.filterMap Event.deed? =
      (initial.course staging happenings).activities.filterMap Activity.deed? := by
  refine course_rec (motive := fun _ state =>
    state.calls.filterMap Event.deed? = state.activities.filterMap Activity.deed?) ?_ ?_ happenings
  · obtain ⟨rfl, -⟩ := initial_of_opening opened
    rfl
  · intro past happening held
    generalize initial.course staging past = state at held ⊢
    have tells := tells_after staging state happening
    rw [tells.called, List.filterMap_append, held, ← tells.begun, ← filterMap_deed?_after staging state
      happening, ← List.filterMap_append, List.take_append_drop]

/-- In every course, what is printed is made of one block for each sequence, in the order in which the
sequences were begun and announced. A block holds the first lines of its sequence, each once and in
order, filled in with the variables as they were right after the actions of the sequence. A line begins
only as the next one of a block whose line before it was printed to its end, its pause being over; and a
sequence waits, leads on, ends the story or comes into trouble only when its block is complete and the
last pause is over. -/
theorem printed_in_blocks (staging : Staging) {initial : State}
    (opened : State.opening staging.story = .ok initial) (happenings : List Happening) :
    ((initial.course staging happenings).prints =
        (List.range (initial.course staging happenings).activities.length).flatMap
          fun ticket => printsBy staging ticket initial happenings) ∧
      ((initial.course staging happenings).calls.filterMap Event.deed? =
        (initial.course staging happenings).activities.filterMap Activity.deed?) ∧
      (∀ ticket, (∀ sequence generation stage,
          ¬ (initial.course staging happenings).Performs ticket sequence generation stage) →
        printsBy staging ticket initial happenings = []) ∧
      (∀ ticket sequence generation stage,
        (initial.course staging happenings).Performs ticket sequence generation stage →
          staging.story.find? sequence.id = some (.sequence sequence) ∧
          ∃ store times, BegunWith staging initial happenings ticket sequence store ∧
            times.length ≤ sequence.lines.length ∧
            printsBy staging ticket initial happenings = sequence.printings store times) ∧
      (∀ happening,
        ((initial.course staging happenings).after staging happening).prints ≠
            (initial.course staging happenings).prints →
          ∃ ticket sequence index line,
            PrintsLine staging (initial.course staging happenings) happening ticket sequence index
              line ∧
            (printsBy staging ticket initial happenings).length = index ∧
            PauseOver staging initial happenings ticket sequence index) ∧
      ∀ ticket, Decides staging (initial.course staging happenings) ticket →
        ∃ sequence, (initial.course staging happenings).Performs ticket sequence
            (initial.course staging happenings).position.generation (.ready sequence.lines.length) ∧
          (printsBy staging ticket initial happenings).length = sequence.lines.length ∧
          PauseOver staging initial happenings ticket sequence sequence.lines.length := by
  have orderly := orderly_course (orderly_of_opening opened) happenings
  have asLong : ∀ {ticket sequence generation index},
      (initial.course staging happenings).Performs ticket sequence generation (.ready index) →
        (printsBy staging ticket initial happenings).length = index ∧
          index ≤ sequence.lines.length := by
    intro ticket sequence generation index performs
    obtain ⟨store, times, -, block, told, notBeyond⟩ := recited_course opened happenings performs
    rw [block, Sequence.length_printings store (told ▸ notBeyond)]
    exact ⟨told, notBeyond⟩
  refine ⟨prints_course opened happenings, announced_course opened happenings, ?_, ?_, ?_, ?_⟩
  · intro ticket noSequence
    exact printsBy_eq_nil initial happenings noSequence
  · intro ticket sequence generation stage performs
    obtain ⟨store, times, begun, block, told⟩ := recited_course opened happenings performs
    exact ⟨(orderly.declared performs).1, store, times, begun, told.le, block⟩
  · intro happening changed
    rcases prints_after staging (initial.course staging happenings) happening with
      nothing | ⟨ticket, sequence, index, line, prints⟩
    · exact absurd nothing changed
    · exact ⟨ticket, sequence, index, line, prints, (asLong prints.performs).1,
        paced_course opened happenings prints.performs⟩
  · intro ticket decides
    obtain ⟨sequence, index, performs, beyond⟩ := decides.concludes
    obtain ⟨length, notBeyond⟩ := asLong performs
    have atEnd : index = sequence.lines.length :=
      Nat.le_antisymm notBeyond (List.getElem?_eq_none_iff.mp beyond)
    subst atEnd
    exact ⟨sequence, performs, length, paced_course opened happenings performs⟩

/-- The story is started again after its first line, which is then printed once more, and is told up to its
last line, in which the answer stands. -/
theorem sample_blocks :
    let staging : Staging := ⟨.sample, .silent⟩
    let happenings : List Happening :=
      [.command .start, .step 0, .command .start, .clock 2, .step 1, .step 1, .clock 7, .wake 1, .step 1,
        .step 2, .step 2, .step 2, .command (.submit "Bea"), .command (.choose "on"), .step 3]
    let printsOf := fun ticket => printsBy staging ticket (initial .empty) happenings
    ((initial .empty).course staging happenings).prints = (List.range 4).flatMap printsOf ∧
      printsOf 0 = [.print 0 "Hello." false none] ∧ printsOf 1 = [.print 2 "Hello." false none] ∧
      printsOf 3 = [.print 7 "Farewell, Bea." false none] ∧
      ∃ sequence store times, staging.story.find? sequence.id = some (.sequence sequence) ∧
        BegunWith staging (initial .empty) happenings 3 sequence store ∧
        printsOf 3 = sequence.printings store times := by
  intro staging happenings printsOf
  have opened : opening staging.story = .ok (.initial .empty) := rfl
  have four : ((initial .empty).course staging happenings).activities.length = 4 := by decide +kernel
  have first : printsOf 0 = [.print 0 "Hello." false none] := by decide +kernel
  have again : printsOf 1 = [.print 2 "Hello." false none] := by decide +kernel
  have last : printsOf 3 = [.print 7 "Farewell, Bea." false none] := by decide +kernel
  have ran : ((initial .empty).course staging happenings).activities[3]?.bind Activity.deed? =
      some (.ran "parting") := by decide +kernel
  obtain ⟨activity, here, deed⟩ := Option.bind_eq_some_iff.mp ran
  obtain ⟨printed, -, -, held, -, -⟩ := printed_in_blocks staging opened happenings
  rw [four] at printed
  cases activity with
  | call => cases deed
  | performance sequence generation stage =>
      obtain ⟨found, store, times, begun, -, block⟩ := held 3 sequence generation stage here
      exact ⟨printed, first, again, last, sequence, store, times, found, begun, block⟩

end State

end NarrativePlayer.Session
