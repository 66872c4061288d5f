import NarrativePlayer.Proofs.Session.RousedActivities

/-!
Contract: what is done to a session from outside, and the states that it comes into.

A move is a command, the passing of time, or a change of the terminal; waiting for sequences is no move.
A state is attained if it comes of a course and its queue holds only tickets that have been given. Owns
that an opened session is attained, and that moves and waiting lead from attained states to attained
ones, so every state that a session can really come into is among them.
-/

namespace NarrativePlayer.Session

/-- What is done to a session from outside. -/
inductive Move where
  | command (told : Command)
  /-- All goes on that can without time passing. -/
  | tick
  /-- So many milliseconds pass. -/
  | advance (time : Nat)
  /-- Calls to come are held up at a gate. -/
  | shut (gate : Gate)
  /-- A gate is opened, and lets pass what it holds up. -/
  | lift (gate : Gate)
  /-- A gate lets pass what it holds up. -/
  | pulse (gate : Gate)
  /-- The terminal will break down at the next line. -/
  | fault
deriving DecidableEq, Repr

namespace State

/-- The state and the reply to a move, in a bounded number of steps. -/
def make (staging : Staging) (bound : Nat) (state : State) : Move → Option (State × Option Reply)
  | .command told => some ((state.execute staging told).1, some (state.execute staging told).2)
  | .tick => (drain staging bound state).map (·, none)
  | .advance time => (advanceTo staging (state.clock + time) bound state).map (·, none)
  | .shut gate => some (state.setGate gate false, none)
  | .lift gate => some (state.openGate gate, none)
  | .pulse gate => some (state.release gate, none)
  | .fault => some ({ state with faulty := true }, none)

/-- What comes of a move, in however many steps. -/
def Makes (staging : Staging) (state : State) (move : Move) (next : State) (reply : Option Reply) :
    Prop :=
  ∃ bound, make staging bound state move = some (next, reply)

/-- A move is a command, or a course without any. -/
theorem Makes.command_or_along {staging : Staging} {state next : State} {move : Move}
    {reply : Option Reply} (makes : Makes staging state move next reply) :
    (∃ told, move = .command told ∧ next = state.after staging (.command told)) ∨
      Along Happening.isInner staging state next := by
  obtain ⟨bound, made⟩ := makes
  cases move with
  | command told =>
      cases made
      exact .inl ⟨told, rfl, rfl⟩
  | tick =>
      obtain ⟨drained, done, same⟩ := Option.map_eq_some_iff.mp made
      cases same
      exact .inr (along_drain done)
  | advance time =>
      obtain ⟨advanced, done, same⟩ := Option.map_eq_some_iff.mp made
      cases same
      exact .inr (along_advanceTo done)
  | shut gate =>
      have turned : (Happening.turn gate false).isInner = true := rfl
      cases made
      exact .inr (.once turned)
  | lift gate =>
      cases made
      exact .inr (state.along_openGate staging gate)
  | pulse gate =>
      cases made
      exact .inr (state.along_release staging gate)
  | fault =>
      have faults : Happening.fault.isInner = true := rfl
      cases made
      exact .inr (.once faults)

theorem Makes.reaches {staging : Staging} {state next : State} {move : Move} {reply : Option Reply}
    (makes : Makes staging state move next reply) : Reaches staging state next := by
  rcases makes.command_or_along with ⟨told, -, rfl⟩ | along
  · exact .once (.command told)
  · exact along.reaches

/-! ## What the queue holds -/

/-- The queue holds only tickets that have been given. -/
def Listed (state : State) : Prop :=
  ∀ ticket ∈ state.queue, ticket < state.activities.length

theorem Listed.spawn {state : State} (listed : state.Listed) (activity : Activity) :
    (state.spawn activity).Listed := by
  intro ticket member
  have longer : (state.spawn activity).activities.length = state.activities.length + 1 := by
    simp [State.spawn]
  rcases List.mem_append.mp member with old | new
  · have inside := listed ticket old
    omega
  · have same := List.mem_singleton.mp new
    omega

theorem Listed.reply {result : State × Entrance} (listed : result.1.Listed) :
    (State.reply result).1.Listed := by
  obtain ⟨entered, entrance⟩ := result
  cases entrance with
  | made => exact listed
  | failed trouble => exact listed
  | held => exact listed.spawn (.call false false)

end State

theorem Enters.listed {staging : Staging} {id : String} {state : State} {result : State × Entrance}
    (enters : Enters staging id state result) (listed : state.Listed) : result.1.Listed := by
  cases enters with
  | begins => exact listed.spawn _
  | _ => exact listed

theorem Obeys.listed {staging : Staging} {state : State} {command : Command}
    {result : State × Reply} (obeys : Obeys staging state command result) (listed : state.Listed) :
    result.1.Listed := by
  cases obeys with
  | starts silent enters => exact (enters.listed listed).reply
  | moves leaves found silent enters => exact (enters.listed listed).reply
  | _ => exact listed

theorem Advances.listed {staging : Staging} {sequence : Sequence} {generation : Nat} {state : State}
    {stage : Stage} {result : State × Stage}
    (advances : Advances staging sequence generation state stage result) (listed : state.Listed) :
    result.1.Listed := by
  cases advances with
  | leads current beyond unawaited next enters => exact enters.listed listed
  | presents current beyond unawaited next enters => exact enters.listed listed
  | fails current beyond unawaited next enters =>
      obtain ⟨rfl, -, -⟩ := enters.of_failed
      exact listed
  | _ => exact listed

namespace State

theorem Listed.replace {state : State} (listed : state.Listed) (ticket : Nat) (activity : Activity) :
    (state.replace ticket activity).Listed := by
  intro other member
  show other < (state.activities.set ticket activity).length
  rw [List.length_set]
  exact listed other member

theorem Listed.goOn {staging : Staging} {state later : State} {ticket : Nat} (listed : state.Listed)
    (goesOn : GoesOn staging state ticket later) : later.Listed := by
  cases goesOn with
  | performs here advances => exact (advances.listed listed).replace ticket _
  | returns here => exact listed.replace ticket (.call true true)
  | rests => exact listed

theorem Listed.pump {state : State} (listed : state.Listed) (staging : Staging) :
    (state.pump staging).Listed := by
  have pumps := state.pumps_pump staging
  generalize state.pump staging = later at pumps ⊢
  cases pumps with
  | idles => exact listed
  | leaves first => exact fun other member => listed other (first ▸ List.mem_cons_of_mem _ member)
  | goesOn first goesOn => exact listed.goOn goesOn

theorem Listed.rouse {state : State} (listed : state.Listed) (change : Activity → Option Activity) :
    (state.rouse change).Listed := by
  intro ticket member
  show ticket < (state.activities.map _).length
  rw [List.length_map]
  rcases List.mem_append.mp member with old | new
  · exact listed ticket old
  · have within := (mem_affectedFrom (List.mem_filter.mp new).1).2
    rwa [Nat.zero_add] at within

theorem Listed.moveTo {state : State} (listed : state.Listed) (moment : Nat) :
    (state.moveTo moment).Listed := by
  have moved : State.Listed { state with clock := moment } := listed
  exact moved.rouse (awakened? moment)

theorem Listed.setGate {state : State} (listed : state.Listed) (gate : Gate) (opened : Bool) :
    (state.setGate gate opened).Listed := by
  cases gate with
  | print => exact listed
  | display => exact listed

theorem Listed.drain {staging : Staging} {bound : Nat} {state drained : State}
    (listed : state.Listed) (done : State.drain staging bound state = some drained) :
    drained.Listed := by
  induction bound generalizing state with
  | zero => cases done
  | succ bound inductionHypothesis =>
      rw [State.drain] at done
      split at done
      · cases done
        exact listed
      · exact inductionHypothesis (listed.pump staging) done

theorem Listed.advanceTo {staging : Staging} {moment bound : Nat} {state advanced : State}
    (listed : state.Listed) (done : State.advanceTo staging moment bound state = some advanced) :
    advanced.Listed := by
  induction bound generalizing state with
  | zero => cases done
  | succ bound inductionHypothesis =>
      rw [State.advanceTo] at done
      split at done
      · exact inductionHypothesis (listed.pump staging) done
      · split at done
        · rename_i due _
          split at done
          · exact inductionHypothesis (listed.moveTo due) done
          · cases done
            exact listed
        · cases done
          exact listed

theorem Listed.giveUp {state : State} (listed : state.Listed) (deadline : Option Nat) :
    (state.giveUp deadline).1.Listed := by
  cases deadline with
  | none => exact listed
  | some moment => exact listed.moveTo moment

theorem Listed.watch {state : State} (listed : state.Listed) (staging : Staging)
    (deadline : Option Nat) (progress : Watch) :
    (State.watch staging deadline state progress).1.Listed := by
  cases progress with
  | seeking =>
      rw [State.watch]
      split
      · exact listed
      · exact listed
  | looking ticket =>
      rw [State.watch]
      split
      · exact listed
      · split
        · exact listed
        · exact listed
  | watching ticket =>
      rw [State.watch]
      split
      · exact listed.pump staging
      · split
        · exact listed
        · split
          · rename_i due _
            split
            · exact listed.moveTo due
            · exact listed.giveUp deadline
          · exact listed.giveUp deadline
  | reported report => exact listed

theorem Listed.watchFor {staging : Staging} {deadline : Option Nat} {bound : Nat}
    {state final : State} {progress : Watch} {report : Report} (listed : state.Listed)
    (done : State.watchFor staging deadline bound state progress = some (final, report)) :
    final.Listed := by
  induction bound generalizing state progress with
  | zero => cases done
  | succ bound inductionHypothesis =>
      by_cases reported : ∃ other, progress = .reported other
      · obtain ⟨other, rfl⟩ := reported
        rw [watchFor_reported] at done
        cases done
        exact listed
      · rw [watchFor_step staging deadline bound state fun other equal => reported ⟨other, equal⟩]
          at done
        exact inductionHypothesis (listed.watch staging deadline progress) done

/-! ## Attained states -/

/-- A state that a session can come into. -/
structure Attained (staging : Staging) (state : State) : Prop where
  comes : ∃ initial, opening staging.story = .ok initial ∧ Reaches staging initial state
  listed : state.Listed

theorem attained_of_opening {staging : Staging} {initial : State}
    (opened : opening staging.story = .ok initial) : Attained staging initial := by
  refine ⟨⟨initial, opened, .refl staging initial⟩, ?_⟩
  unfold opening at opened
  split at opened
  · cases opened
    intro ticket member
    cases member
  · cases opened

theorem Attained.make {staging : Staging} {state next : State} (attained : Attained staging state)
    {move : Move} {reply : Option Reply} (makes : Makes staging state move next reply) :
    Attained staging next := by
  obtain ⟨initial, opened, reaches⟩ := attained.comes
  refine ⟨⟨initial, opened, reaches.trans makes.reaches⟩, ?_⟩
  have listed := attained.listed
  obtain ⟨bound, made⟩ := makes
  cases move with
  | command told =>
      cases made
      exact (state.obeys_execute staging told).listed listed
  | tick =>
      obtain ⟨drained, done, same⟩ := Option.map_eq_some_iff.mp made
      cases same
      exact listed.drain done
  | advance time =>
      obtain ⟨advanced, done, same⟩ := Option.map_eq_some_iff.mp made
      cases same
      exact listed.advanceTo done
  | shut gate =>
      cases made
      exact listed.setGate gate false
  | lift gate =>
      cases made
      exact (listed.setGate gate true).rouse (released? gate)
  | pulse gate =>
      cases made
      exact listed.rouse (released? gate)
  | fault =>
      cases made
      exact listed

theorem Attained.settle {staging : Staging} {state final : State} (attained : Attained staging state)
    {limit : Option Nat} {bound : Nat} {report : Report}
    (done : state.settle staging limit bound = some (final, report)) : Attained staging final := by
  obtain ⟨initial, opened, reaches⟩ := attained.comes
  exact ⟨⟨initial, opened, reaches.trans (reaches_settle done)⟩, attained.listed.watchFor done⟩

end State

end NarrativePlayer.Session
