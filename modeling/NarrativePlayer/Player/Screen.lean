import NarrativePlayer.Session.Basic

/-!
Contract: how a session looks on a screen of text.

Every event becomes cues: single writes to one of two channels, each with a pause behind it. A line that
has a pace is typed out, which is a write for every character and one that ends the line; any other line is
a single write. Owns the prompts, the layout and these writes. Does not own what is asked or when.
-/

namespace NarrativePlayer.Player

open Session

/-- Where a text goes. -/
inductive Channel where
  | output
  | errors
deriving DecidableEq, Repr

/-- One write to the screen. -/
structure Cue where
  channel : Channel
  text : String
  /-- Milliseconds until the next write. -/
  pause : Nat
deriving DecidableEq, Repr

/-- A write without a pause behind it. -/
def Cue.plain (channel : Channel) (text : String) : Cue :=
  ⟨channel, text, 0⟩

/-- All that cues write to a channel. -/
def written (channel : Channel) (cues : List Cue) : String :=
  String.join ((cues.filter fun cue => cue.channel = channel).map Cue.text)

/-- What a player was asked for. -/
structure Options where
  /-- Show what the session does. -/
  debug : Bool
  /-- The pace of lines that have none of their own. -/
  speed : Option Nat
deriving DecidableEq, Repr

/-- The prompt for an answer. -/
def answerPrompt (field : AnswerField) : String :=
  let hint :=
    match field.placeholder with
    | some placeholder => s!" ({placeholder})"
    | none => ""
  field.label ++ hint ++ " > "

/-- Options with their numbers, one a line. -/
def numberedFrom (number : Nat) : List Offer → String
  | [] => ""
  | offer :: rest => s!"  {number}. {offer.label}\n" ++ numberedFrom (number + 1) rest

/-- The prompt for a choice. -/
def choicePrompt (prompt : String) (offers : List Offer) : String :=
  prompt ++ "\n" ++ numberedFrom 1 offers ++ "> "

/-- The pace at which a line is typed out, in milliseconds per character; none if it is zero. -/
def Options.pace (options : Options) (instant : Bool) (speed : Option Nat) : Nat :=
  if instant then 0 else (speed <|> options.speed).getD 0

/-- The writes of a printed line. At a pace, its characters are typed one by one, and then the line is
ended; without one, all of it is there at once. -/
def lineCues (pace : Nat) (text : String) : List Cue :=
  if pace = 0 then [.plain .output (text ++ "\n")]
  else
    text.toList.map (fun character => ⟨.output, String.singleton character, pace⟩)
      ++ [.plain .output "\n"]

/-- The cues of an event, and whether a prompt is on the screen after it, given whether one was
before. -/
def cuesOf (options : Options) (prompted : Bool) : Event → List Cue × Bool
  | .print _ text instant speed => (lineCues (options.pace instant speed) text, prompted)
  | .showInput field => ([.plain .output (answerPrompt field)], true)
  | .showChoices prompt offers => ([.plain .output (choicePrompt prompt offers)], true)
  | .clear => (if prompted then [.plain .output "\n"] else [], false)
  | .changed scene mode =>
      (if options.debug then [.plain .errors s!"[debug] state={scene} mode={mode.word}\n"] else [],
        prompted)
  | .invalid message => ([.plain .output s!"! {message}\n"], prompted)
  | .noted _ => ([], prompted)
  | .failed _ _ => ([], prompted)
  | .done _ => ([], prompted)

/-- The cues of events in their order. -/
def cuesOfAll (options : Options) (prompted : Bool) : List Event → List Cue × Bool
  | [] => ([], prompted)
  | event :: rest =>
      let (first, prompted) := cuesOf options prompted event
      let (others, prompted) := cuesOfAll options prompted rest
      (first ++ others, prompted)

end NarrativePlayer.Player
