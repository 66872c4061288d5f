import NarrativePlayer.Answer
import NarrativePlayer.Journal
import NarrativePlayer.Session.Position
import NarrativePlayer.Story.Graph
import NarrativePlayer.Template
import NarrativePlayer.Text.Quoted

/-!
Contract: the state of a session.

A session is a position together with a clock, the activities that go on in the background, the order
in which those that can go on will do so, and the trace of all that could be noticed. Printing and
showing can be held up by a gate each. Owns the state and the changes of single parts of it; the steps
that a session is made of are next door.
-/

namespace NarrativePlayer.Session

/-- What can be noticed of a session. -/
inductive Event where
  | print (time : Nat) (text : String) (instant : Bool) (speed : Option Nat)
  | showInput (field : AnswerField)
  | showChoices (prompt : String) (offers : List Offer)
  /-- The widget of an interaction is taken away. -/
  | clear
  | changed (scene : String) (mode : Mode)
  /-- An answer was refused. -/
  | invalid (message : String)
  | noted (entry : Journal.Entry)
  /-- A sequence could not go on. This is noted whatever the journal keeps. -/
  | failed (scene : String) (trouble : Trouble)
  /-- A command that had been held up is done. -/
  | done (ticket : Nat)
deriving DecidableEq, Repr

/-- How a sequence came to its end. -/
inductive Outcome where
  | succeeded
  | failed (trouble : Trouble)
  /-- The terminal broke down while it printed. -/
  | brokenOff
deriving DecidableEq, Repr

/-- How far a sequence has come. -/
inductive Stage where
  /-- The line at an index is next, or the end if there is none. -/
  | ready (index : Nat)
  /-- The line at an index is being printed; the terminal may be done with it. -/
  | printing (index : Nat) (released : Bool)
  /-- The pause after the line at an index lasts until a moment. -/
  | resting (index due : Nat)
  /-- The next scene is being shown; the terminal may be done with it. -/
  | presenting (released : Bool)
  | finished (outcome : Outcome)
deriving DecidableEq, Repr

/-- What goes on in the background. -/
inductive Activity where
  /-- A sequence, on behalf of the generation it began. -/
  | performance (sequence : Sequence) (generation : Nat) (stage : Stage)
  /-- A command held up while it shows a scene. -/
  | call (released finished : Bool)
deriving DecidableEq, Repr

/-- What can hold up a terminal. -/
inductive Gate where
  | print
  | display
deriving DecidableEq, Repr

/-- The state of a session. -/
structure State where
  position : Position
  /-- Milliseconds since the beginning. -/
  clock : Nat
  printOpen : Bool
  displayOpen : Bool
  /-- Whether the terminal breaks down at the next line. -/
  faulty : Bool
  /-- By ticket: an activity is known by its index. -/
  activities : List Activity
  /-- Tickets of the activities that can go on, in their order. -/
  queue : List Nat
  /-- The sequence entered last, unless it was waited for since. -/
  latest : Option Nat
  /-- All that was noticed, latest first. -/
  trace : List Event
deriving DecidableEq, Repr

/-- A story with the journal kept of it. -/
structure Staging where
  story : Story
  journal : Journal.Settings
deriving DecidableEq, Repr

namespace State

/-- The state at the beginning. -/
def initial (store : Table) : State where
  position := .initial store
  clock := 0
  printOpen := true
  displayOpen := true
  faulty := false
  activities := []
  queue := []
  latest := none
  trace := []

def emit (state : State) (event : Event) : State :=
  { state with trace := event :: state.trace }

/-- Enters a message into the journal, if the journal keeps it. -/
def note (state : State) (staging : Staging) (category : Journal.Category) (level : Journal.Level)
    (message : String) : State :=
  if staging.journal.allows category level then state.emit (.noted ⟨category, level, message⟩)
  else state

/-- Announces a scene and a mode. -/
def announce (state : State) (staging : Staging) (scene : String) (mode : Mode) : State :=
  (state.note staging .flow .debug s!"[Mode] '{scene}' -> {mode.word}").emit (.changed scene mode)

def place (state : State) (position : Position) : State :=
  { state with position := position }

/-- Adds an activity that can go on, last in order. -/
def spawn (state : State) (activity : Activity) : State :=
  { state with
    activities := state.activities ++ [activity]
    queue := state.queue ++ [state.activities.length] }

def replace (state : State) (ticket : Nat) (activity : Activity) : State :=
  { state with activities := state.activities.set ticket activity }

/-- The journal message on a variable that was set. -/
def assignmentMessage (assignment : Assignment) : String :=
  s!"[Set] {assignment.name}={Text.quoted assignment.value} ({assignment.source})"

/-- Applies actions to the variables, with a note on each that sets one. -/
def act (state : State) (staging : Staging) (submitted : Option String) (actions : List Action) :
    State :=
  let store := applyActions submitted actions state.position.store
  let changed := state.place { state.position with store := store }
  (assignments submitted actions).foldl
    (fun noted assignment => noted.note staging .assignments .debug (assignmentMessage assignment))
    changed

/-- The state at the beginning of a story, or the trouble that its start is not declared. -/
def opening (story : Story) : Except Trouble State :=
  if (story.position? story.start).isSome then .ok (.initial story.store)
  else .error (.missingStart story.id story.start)

end State

end NarrativePlayer.Session
