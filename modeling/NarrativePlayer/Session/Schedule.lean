import NarrativePlayer.Session.Performance

/-!
Contract: the order in which activities go on, gates, and the clock.

The activity at the head of the queue goes on until it is held up, rests or is done; then comes the
next. Time stands still meanwhile and moves from one moment at which something is due to the next.
Releasing a gate lets the activities go on that it holds up. A story may lead in a circle for ever
without any time passing, so the number of steps is bounded from outside: a run that would need more
has no result.
-/

namespace NarrativePlayer.Session

namespace State

/-- Takes the head of the queue one step further, or off the queue if it cannot go on. -/
def pump (state : State) (staging : Staging) : State :=
  match state.queue with
  | [] => state
  | ticket :: rest =>
      match state.activities[ticket]? with
      | none => { state with queue := rest }
      | some activity =>
          if activity.canGoOn then state.goOn staging ticket else { state with queue := rest }

/-- Runs until no activity can go on. -/
def drain (staging : Staging) : Nat → State → Option State
  | 0, _ => none
  | bound + 1, state =>
      if state.queue.isEmpty then some state else drain staging bound (state.pump staging)

/-! ### Gates -/

/-- Opens or closes a gate for calls to come. -/
def setGate (state : State) (gate : Gate) (opened : Bool) : State :=
  match gate with
  | .print => { state with printOpen := opened }
  | .display => { state with displayOpen := opened }

/-- The tickets of the activities that a change affects, in ascending order. -/
def affected (state : State) (change : Activity → Option Activity) : List Nat :=
  state.activities.zipIdx.filterMap fun (activity, ticket) =>
    if (change activity).isSome then some ticket else none

/-- Changes activities, and lets those that were changed go on, in the order of their tickets and
behind all that can go on already. -/
def rouse (state : State) (change : Activity → Option Activity) : State :=
  { state with
    activities := state.activities.map fun activity => (change activity).getD activity
    queue := state.queue ++ (state.affected change).filter fun ticket => !state.queue.contains ticket }

/-- The activity after a gate lets it pass, if the gate holds it up. -/
def released? (gate : Gate) : Activity → Option Activity
  | .performance sequence generation (.printing index false) =>
      if gate = .print then some (.performance sequence generation (.printing index true)) else none
  | .performance sequence generation (.presenting false) =>
      if gate = .display then some (.performance sequence generation (.presenting true)) else none
  | .call false finished => if gate = .display then some (.call true finished) else none
  | _ => none

/-- Lets all activities pass that a gate holds up. -/
def release (state : State) (gate : Gate) : State :=
  state.rouse (released? gate)

/-- Opens a gate, and lets pass what it holds up. -/
def openGate (state : State) (gate : Gate) : State :=
  (state.setGate gate true).release gate

/-! ### Time -/

/-- The moment at which an activity wakes up. -/
def wakingTime? : Activity → Option Nat
  | .performance _ _ (.resting _ due) => some due
  | _ => none

/-- The next moment at which an activity wakes up. -/
def nextWaking? (state : State) : Option Nat :=
  (state.activities.filterMap wakingTime?).min?

/-- The activity once it is awake, if it rests no longer than until a moment. -/
def awakened? (moment : Nat) : Activity → Option Activity
  | .performance sequence generation (.resting index due) =>
      if due ≤ moment then some (.performance sequence generation (.ready (index + 1))) else none
  | _ => none

/-- Moves the clock, and wakes up what is due by then. -/
def moveTo (state : State) (moment : Nat) : State :=
  { state with clock := moment }.rouse (awakened? moment)

/-- Lets time pass up to a moment, with all that falls due by then, the moment included. -/
def advanceTo (staging : Staging) (moment : Nat) : Nat → State → Option State
  | 0, _ => none
  | bound + 1, state =>
      if !state.queue.isEmpty then advanceTo staging moment bound (state.pump staging)
      else
        match state.nextWaking? with
        | some due =>
            if due ≤ moment then advanceTo staging moment bound (state.moveTo due)
            else some { state with clock := moment }
        | none => some { state with clock := moment }

end State

end NarrativePlayer.Session
