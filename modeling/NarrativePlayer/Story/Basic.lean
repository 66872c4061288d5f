import NarrativePlayer.Table

/-!
Contract: what a story is.

A story is a list of scenes with a start. A scene prints a sequence of lines, asks a question that is
answered with text, or offers a choice. Owns the types only: which scene an id stands for and where a
scene can lead is the graph's business, and how stories are written down is the document's.
-/

namespace NarrativePlayer

/-- A condition on an answer. -/
inductive Guard where
  /-- The answer has at least `least` characters. -/
  | minLength (least : Nat)
  /-- A kind of condition that is not known here. It always holds. -/
  | unknown
deriving DecidableEq, Repr

/-- A change of the variables. -/
inductive Action where
  /-- Sets the variable of a name: to the answer being given if `fromAnswer`, and else to the literal. -/
  | set (name : String) (literal : Option String) (fromAnswer : Bool)
  /-- A kind of change that is not known here. It changes nothing. -/
  | unknown
deriving DecidableEq, Repr

structure Line where
  /-- A template, filled in when the line is printed. -/
  text : String
  /-- The pause after the line, in milliseconds. -/
  delay : Nat
  instant : Bool
  /-- Milliseconds per character, where the line asks for a speed of its own. -/
  speed : Option Nat
deriving DecidableEq, Repr

/-- A sequence of lines that goes on to another scene, waits to be acknowledged, or ends the story. -/
structure Sequence where
  id : String
  lines : List Line
  /-- Applied on entry, before the first line. -/
  actions : List Action
  next : Option String
  /-- The event waited for after the last line. A sequence that waits never takes its `next`. -/
  awaits : Option String
  /-- From the name of an event to the id of the scene it leads to. -/
  events : Table
  /-- Whether entering the scene ends the story at once. -/
  terminal : Bool
deriving DecidableEq, Repr

/-- The field a question is answered in. -/
structure AnswerField where
  id : String
  label : String
  placeholder : Option String
  minLength : Option Nat
  maxLength : Option Nat
  trim : Bool
deriving DecidableEq, Repr

/-- A move to another scene on an event. -/
structure Transition where
  event : String
  /-- All must hold; they are looked at in order. -/
  guards : List Guard
  /-- Applied once all guards held. -/
  actions : List Action
  target : String
deriving DecidableEq, Repr

/-- A question answered with a line of text. -/
structure Question where
  id : String
  field : AnswerField
  transitions : List Transition
deriving DecidableEq, Repr

structure Offer where
  id : String
  label : String
  actions : List Action
  target : String
deriving DecidableEq, Repr

/-- A prompt with options to choose from. -/
structure Choice where
  id : String
  /-- A template, filled in when the choice is shown. -/
  prompt : String
  offers : List Offer
deriving DecidableEq, Repr

/-- A node of the story graph. -/
inductive Scene where
  | sequence (body : Sequence)
  | question (body : Question)
  | choice (body : Choice)
deriving DecidableEq, Repr

/-- A story. Ids need not be distinct, and targets need not be declared. -/
structure Story where
  id : String
  version : String
  /-- The variables at the beginning. -/
  store : Table
  /-- The id of the scene entered on start. -/
  start : String
  scenes : List Scene
deriving DecidableEq, Repr

end NarrativePlayer
