import NarrativePlayer.Proofs.Session.Course

/-!
Contract: a session with a past, seen as one without.

A session that has been going on has activities, a generation, a clock and a trace behind it. Owns what
it means that it mirrors a session that has none of these: from some moment on it is the same, with every
ticket, generation and moment later by as much as there was before, and with activities among its own
that nothing waits for any more. Owns that the changes of single parts of a state keep it so. What
entering, performing and obeying do is next door.
-/

namespace NarrativePlayer.Session

/-- What a session has behind it. -/
structure Past where
  /-- How many activities were begun. -/
  tickets : Nat
  generation : Nat
  clock : Nat
  trace : List Event
deriving DecidableEq, Repr

/-- All of a session as its past. -/
def State.past (state : State) : Past :=
  ⟨state.activities.length, state.position.generation, state.clock, state.trace⟩

/-! ## What is later by a past -/

def Stage.later (past : Past) : Stage → Stage
  | .resting index due => .resting index (due + past.clock)
  | stage => stage

def Activity.later (past : Past) : Activity → Activity
  | .performance sequence generation stage =>
      .performance sequence (generation + past.generation) (stage.later past)
  | .call released finished => .call released finished

def Event.later (past : Past) : Event → Event
  | .print time text instant speed => .print (time + past.clock) text instant speed
  | .done ticket => .done (ticket + past.tickets)
  | event => event

def Position.later (past : Past) (position : Position) : Position :=
  { position with generation := position.generation + past.generation }

theorem Position.later_renew (past : Past) (position : Position) :
    position.renew.later past = (position.later past).renew := by
  simp only [later, renew, Nat.add_right_comm]

theorem Position.isCurrent_later (past : Past) (position : Position) (generation : Nat) :
    (position.later past).isCurrent (generation + past.generation) = position.isCurrent generation := by
  simp only [isCurrent, later, Nat.add_right_cancel_iff]

@[simp] theorem Activity.canGoOn_later (past : Past) (activity : Activity) :
    (activity.later past).canGoOn = activity.canGoOn := by
  cases activity with
  | performance sequence generation stage => cases stage <;> rfl
  | call released finished => rfl

/-- Whether an event counts: entries of the journal do not, nor do the ends of commands that were given
before so many activities. -/
def Event.isHeard (tickets : Nat) : Event → Bool
  | .noted _ => false
  | .done ticket => tickets ≤ ticket
  | _ => true

@[simp] theorem Event.isHeard_later (past : Past) (event : Event) :
    (event.later past).isHeard past.tickets = event.isHeard 0 := by
  cases event with
  | done ticket => simp [later, isHeard]
  | _ => rfl

/-- An activity is of a past if it does not belong to a later generation. -/
def Activity.IsOf (past : Past) : Activity → Prop
  | .performance _ generation _ => generation ≤ past.generation
  | .call _ _ => True

namespace State

/-- A session mirrors another that has no past. -/
structure Mirrors (past : Past) (worn fresh : State) : Prop where
  position : worn.position = fresh.position.later past
  clock : worn.clock = fresh.clock + past.clock
  printOpen : worn.printOpen = fresh.printOpen
  displayOpen : worn.displayOpen = fresh.displayOpen
  faulty : worn.faulty = fresh.faulty
  activities : ∃ stale, stale.length = past.tickets ∧ (∀ activity ∈ stale, activity.IsOf past) ∧
    worn.activities = stale ++ fresh.activities.map (Activity.later past)
  queue : worn.queue.filter (past.tickets ≤ ·) = fresh.queue.map (· + past.tickets)
  trace : ∃ recent, worn.trace = recent ++ past.trace ∧
    recent.filter (Event.isHeard past.tickets) =
      (fresh.trace.filter (Event.isHeard 0)).map (Event.later past)

variable {past : Past} {worn fresh : State}

/-! ## Changes of single parts -/

theorem Mirrors.traced (mirrors : Mirrors past worn fresh) {recent events : List Event}
    (heard : recent.filter (Event.isHeard past.tickets) =
      (events.filter (Event.isHeard 0)).map (Event.later past)) :
    Mirrors past { worn with trace := recent ++ worn.trace }
      { fresh with trace := events ++ fresh.trace } := by
  obtain ⟨before, split, heardBefore⟩ := mirrors.trace
  refine { mirrors with trace := ⟨recent ++ before, ?_, ?_⟩ }
  · rw [split, List.append_assoc]
  · rw [List.filter_append, heard, heardBefore, List.filter_append, List.map_append]

theorem filter_isHeard_journaled (tickets : Nat) (staging : Staging) (category : Journal.Category)
    (level : Journal.Level) (message : String) :
    (journaled staging category level message).filter (Event.isHeard tickets) = [] := by
  unfold journaled
  split
  · rfl
  · rfl

theorem filter_isHeard_assignmentsJournaled (tickets : Nat) (staging : Staging)
    (submitted : Option String) (actions : List Action) :
    (assignmentsJournaled staging submitted actions).filter (Event.isHeard tickets) = [] := by
  refine List.filter_eq_nil_iff.mpr fun event member => ?_
  obtain ⟨assignment, -, here⟩ := List.mem_flatMap.mp member
  exact List.filter_eq_nil_iff.mp (filter_isHeard_journaled tickets staging _ _ _) event here

theorem Mirrors.note (mirrors : Mirrors past worn fresh) (staging : Staging)
    (category : Journal.Category) (level : Journal.Level) (message : String) :
    Mirrors past (worn.note staging category level message)
      (fresh.note staging category level message) := by
  rw [note_eq, note_eq]
  refine mirrors.traced ?_
  rw [filter_isHeard_journaled, filter_isHeard_journaled]
  rfl

theorem Mirrors.emit (mirrors : Mirrors past worn fresh) (event : Event) :
    Mirrors past (worn.emit (event.later past)) (fresh.emit event) := by
  have heard : [event.later past].filter (Event.isHeard past.tickets) =
      ([event].filter (Event.isHeard 0)).map (Event.later past) := by
    cases counts : event.isHeard 0 with
    | true => simp [counts]
    | false => simp [counts]
  exact mirrors.traced heard

theorem Mirrors.announce (mirrors : Mirrors past worn fresh) (staging : Staging) (scene : String)
    (mode : Mode) :
    Mirrors past (worn.announce staging scene mode) (fresh.announce staging scene mode) :=
  (mirrors.note staging _ _ _).emit (.changed scene mode)

theorem Mirrors.place (mirrors : Mirrors past worn fresh) {later position : Position}
    (same : later = position.later past) :
    Mirrors past (worn.place later) (fresh.place position) :=
  { mirrors with position := same }

theorem Mirrors.isCurrent (mirrors : Mirrors past worn fresh) (generation : Nat) :
    worn.position.isCurrent (generation + past.generation) = fresh.position.isCurrent generation := by
  rw [mirrors.position, Position.isCurrent_later]

theorem Mirrors.act (mirrors : Mirrors past worn fresh) (staging : Staging)
    (submitted : Option String) (actions : List Action) :
    Mirrors past (worn.act staging submitted actions) (fresh.act staging submitted actions) := by
  rw [act_eq, act_eq]
  have heard : (assignmentsJournaled staging submitted actions).filter (Event.isHeard past.tickets) =
      ((assignmentsJournaled staging submitted actions).filter (Event.isHeard 0)).map
        (Event.later past) := by
    rw [filter_isHeard_assignmentsJournaled, filter_isHeard_assignmentsJournaled]
    rfl
  refine (mirrors.place ?_).traced heard
  rw [mirrors.position]
  rfl

theorem Mirrors.length_activities (mirrors : Mirrors past worn fresh) :
    worn.activities.length = fresh.activities.length + past.tickets := by
  obtain ⟨stale, asMany, -, split⟩ := mirrors.activities
  rw [split, List.length_append, List.length_map, asMany, Nat.add_comm]

theorem Mirrors.spawn (mirrors : Mirrors past worn fresh) (activity : Activity) :
    Mirrors past (worn.spawn (activity.later past)) (fresh.spawn activity) := by
  have asMany := mirrors.length_activities
  obtain ⟨stale, length, isOf, split⟩ := mirrors.activities
  refine { mirrors with activities := ⟨stale, length, isOf, ?_⟩, queue := ?_ }
  · simp only [State.spawn, split, List.map_append, List.map_cons, List.map_nil, List.append_assoc]
  · have new : past.tickets ≤ worn.activities.length := by omega
    simp only [State.spawn, List.filter_append, mirrors.queue, List.map_append, List.map_cons,
      List.map_nil, asMany]
    simp

/-- An activity of the newer session has its ticket later by those of the past. -/
theorem Mirrors.getElem?_activities (mirrors : Mirrors past worn fresh) (ticket : Nat) :
    worn.activities[ticket + past.tickets]? = (fresh.activities[ticket]?).map (Activity.later past) := by
  obtain ⟨stale, asMany, -, split⟩ := mirrors.activities
  rw [split, List.getElem?_append_right (by omega), asMany, Nat.add_sub_cancel, List.getElem?_map]

theorem Mirrors.replace (mirrors : Mirrors past worn fresh) (ticket : Nat) (activity : Activity) :
    Mirrors past (worn.replace (ticket + past.tickets) (activity.later past))
      (fresh.replace ticket activity) := by
  obtain ⟨stale, asMany, isOf, split⟩ := mirrors.activities
  refine { mirrors with activities := ⟨stale, asMany, isOf, ?_⟩ }
  simp only [State.replace, split]
  rw [List.set_append_right _ _ (by omega), asMany, Nat.add_sub_cancel, List.map_set]

/-- What happens to an activity of the past is not mirrored, unless it is heard. -/
theorem Mirrors.replaceStale (mirrors : Mirrors past worn fresh) {ticket : Nat}
    (old : ticket < past.tickets) {activity : Activity} (isOf : activity.IsOf past)
    {notes : List Event} (unheard : notes.filter (Event.isHeard past.tickets) = []) :
    Mirrors past
      { worn with
        activities := worn.activities.set ticket activity
        trace := notes ++ worn.trace }
      fresh := by
  obtain ⟨stale, asMany, allOf, split⟩ := mirrors.activities
  obtain ⟨before, trace, heardBefore⟩ := mirrors.trace
  refine { mirrors with
    activities := ⟨stale.set ticket activity, ?_, ?_, ?_⟩, trace := ⟨notes ++ before, ?_, ?_⟩ }
  · rw [List.length_set, asMany]
  · intro other member
    rcases List.mem_or_eq_of_mem_set member with within | same
    · exact allOf other within
    · exact same ▸ isOf
  · rw [split, List.set_append_left _ _ (by omega)]
  · rw [trace, List.append_assoc]
  · rw [List.filter_append, unheard, List.nil_append, heardBefore]

/-- The queue without what is of the past. -/
theorem Mirrors.rearrange (mirrors : Mirrors past worn fresh) {longer shorter : List Nat}
    (same : longer.filter (past.tickets ≤ ·) = shorter.map (· + past.tickets)) :
    Mirrors past { worn with queue := longer } { fresh with queue := shorter } :=
  { mirrors with queue := same }

end State

end NarrativePlayer.Session
