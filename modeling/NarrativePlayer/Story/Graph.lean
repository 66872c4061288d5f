import NarrativePlayer.Story.Basic

/-!
Contract: the story as a graph of scenes.

Owns which declaration an id stands for (the last one), looked for from the end or found by an index of
positions, where a scene can lead, and access to a scene by its kind, together with the troubles that a
story can run into.
-/

namespace NarrativePlayer

inductive SceneKind where
  | sequence
  | question
  | choice
deriving DecidableEq, Repr

def SceneKind.word : SceneKind → String
  | .sequence => "sequence"
  | .question => "input"
  | .choice => "choice"

/-- What can go wrong when a story is followed. -/
inductive Trouble where
  | missingStart (story id : String)
  | undeclared (id : String)
  | wrongKind (id : String) (actual expected : SceneKind)
deriving DecidableEq, Repr

def Trouble.message : Trouble → String
  | .missingStart story id => s!"start state '{id}' is not declared in story '{story}'"
  | .undeclared id => s!"transition to undeclared state '{id}'"
  | .wrongKind id actual expected =>
      s!"state '{id}' is a {actual.word} state, expected {expected.word}"

/-- The event on which an answer is submitted. -/
def submitEvent : String := "SUBMIT"

/-- The event on which a waiting sequence is acknowledged. -/
def enterEvent : String := "ENTER"

/-- The transition that a submitted answer takes: the first of its event. -/
def Question.submission? (question : Question) : Option Transition :=
  question.transitions.find? fun transition => transition.event = submitEvent

/-- The option with an id: the first of that id. -/
def Choice.offer? (choice : Choice) (id : String) : Option Offer :=
  choice.offers.find? fun offer => offer.id = id

namespace Scene

def id : Scene → String
  | .sequence body => body.id
  | .question body => body.id
  | .choice body => body.id

def kind : Scene → SceneKind
  | .sequence _ => .sequence
  | .question _ => .question
  | .choice _ => .choice

/-- Whether entering a scene ends the story. Only sequences can be terminal. -/
def isTerminal : Scene → Bool
  | .sequence body => body.terminal
  | _ => false

/-- The ids that a scene can lead to, in the order of their declaration. The events of a sequence are a table,
which has no order of its own; that they come here by the name of the event is a choice. -/
def successors : Scene → List String
  | .sequence body =>
      (if body.awaits.isNone then body.next.toList else []) ++ body.events.values
  | .question body => body.transitions.map Transition.target
  | .choice body => body.offers.map Offer.target

def asSequence : Scene → Except Trouble Sequence
  | .sequence body => .ok body
  | other => .error (.wrongKind other.id other.kind .sequence)

def asQuestion : Scene → Except Trouble Question
  | .question body => .ok body
  | other => .error (.wrongKind other.id other.kind .question)

def asChoice : Scene → Except Trouble Choice
  | .choice body => .ok body
  | other => .error (.wrongKind other.id other.kind .choice)

end Scene

namespace Story

/-- The scene that an id stands for: the last one declared with it. -/
def find? (story : Story) (id : String) : Option Scene :=
  story.scenes.reverse.find? fun scene => scene.id = id

/-- The position that an id is indexed with. Scenes are indexed from the first to the last, and a later
one takes the place of an earlier one with its id. -/
def position? (story : Story) (id : String) : Option Nat :=
  story.scenes.zipIdx.foldl
    (fun indexed entry => if entry.1.id = id then some entry.2 else indexed) none

/-- The scene at the position that an id is indexed with, or the trouble that there is none. -/
def find (story : Story) (id : String) : Except Trouble Scene :=
  match (story.position? id).bind (story.scenes[·]?) with
  | some scene => .ok scene
  | none => .error (.undeclared id)

/-- Whether a scene is declared with an id. -/
def declares (story : Story) (id : String) : Bool :=
  story.scenes.any fun scene => scene.id = id

end Story

end NarrativePlayer
