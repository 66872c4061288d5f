import NarrativePlayer.Document.StoryText
import NarrativePlayer.Player.Screen
import NarrativePlayer.Review.Basic
import NarrativePlayer.Session.Command
import NarrativePlayer.Session.Settlement
import NarrativePlayer.Text.Utf8

/-!
Contract: a story played on a screen, one line of the reader at a time.

The player waits until nothing goes on any more. If the story has ended, it says so; otherwise it takes
a line, which is an answer, the number of an option, or an acknowledgement, according to what is waited
for, or the word for leaving. Where a reader has nothing more to say, the player leaves without a word.
Owns turns and what is written between them. Does not own reading lines or writing texts.
-/

namespace NarrativePlayer.Player

open Session

def quitWord : String := ":q"

/-- A story on a screen. -/
structure Show where
  session : State
  /-- Whether a prompt is on the screen. -/
  prompted : Bool
deriving DecidableEq, Repr

/-- Whose turn it is. -/
inductive Turn where
  /-- Sequences are to be waited for. -/
  | waiting (shown : Show)
  /-- A line is to be read. -/
  | reading (shown : Show)
  /-- Playing is over, with an exit code. -/
  | closed (exit : Nat)
deriving DecidableEq, Repr

/-- A line as it was read, or why it could not be. -/
abbrev ReadLine := Except Text.Utf8.Fault String

/-- Puts on the screen what has happened in a session. -/
def present (options : Options) (session : State) (prompted : Bool) : Show × List Cue :=
  let (cues, prompted) := cuesOfAll options prompted session.trace.reverse
  (⟨{ session with trace := [] }, prompted⟩, cues)

/-- What is said when playing fails. -/
def failureCues (reason : String) : List Cue :=
  [.plain .errors s!"Error: Player mode failed\nReason: {reason}\n"]

/-- What follows a command that was carried out. -/
def afterCommand (options : Options) (prompted : Bool) (outcome : State × Reply)
    (closing : Show → List Cue) : Turn × List Cue :=
  let (shown, cues) := present options outcome.1 prompted
  match outcome.2 with
  | .failed trouble => (.closed 1, cues ++ failureCues trouble.message)
  | _ => (.waiting shown, cues ++ closing shown)

/-- The heading of a story. -/
def headingCues (story : Story) : List Cue :=
  [.plain .output s!"=== {story.id} ===\n(type {quitWord} to quit)\n\n"]

/-- What a review has to say before a story is played. -/
def reviewCues (options : Options) (findings : List Review.Finding) : List Cue :=
  (findings.filter fun finding => finding.severity ≠ .info ∨ options.debug).map fun finding =>
    .plain .errors s!"[{finding.severity.word}] {finding.message}\n"

/-- A story with the journal that a player keeps. -/
def stagingFor (options : Options) (story : Story) : Staging :=
  ⟨story, if options.debug then .verbose else .silent⟩

/-- Opens a story: the review, the heading, and the first scene. -/
def openStory (options : Options) (story : Story) : Turn × List Cue :=
  let remarks := reviewCues options (Review.review .standard story)
  match State.opening story with
  | .error trouble => (.closed 1, remarks ++ failureCues trouble.message)
  | .ok session =>
      let started := session.start (stagingFor options story)
      let (turn, cues) := afterCommand options false started fun _ => []
      (turn, remarks ++ headingCues story ++ cues)

/-- What follows once the sequences have been waited for. -/
def afterSettling (options : Options) (prompted : Bool) (session : State) (report : Report) :
    Turn × List Cue :=
  let (shown, cues) := present options session prompted
  match report with
  | .failed trouble => (.closed 1, cues ++ failureCues trouble.message)
  | .brokenOff => (.closed 1, cues ++ failureCues "line sequence task failed")
  | _ =>
      match shown.session.position.mode with
      | .ended => (.closed 0, cues ++ [.plain .output "\n== THE END ==\n"])
      | .waiting _ => (.reading shown, cues)
      | _ => (.waiting shown, cues)

/-- The value of decimal digits, if there are any and nothing else. -/
def decimal? (digits : List Char) : Option Nat :=
  if digits.isEmpty ∨ !digits.all Json.isDigit then none
  else some (Decimal.ofDigits (digits.map fun digit => digit.toNat - '0'.toNat))

/-- The number that a text writes, with or without a plus sign, if it is below 2^64. -/
def number? (text : String) : Option Nat :=
  let digits :=
    match text.toList with
    | '+' :: rest => rest
    | all => all
  match decimal? digits with
  | some number => if number < Decimal.wordBound then some number else none
  | none => none

/-- The id of the option with the number that a line writes, among those of the current scene. -/
def chosenOffer? (story : Story) (position : Position) (line : String) : Option String :=
  match number? (Text.trim line), position.current.bind story.find? with
  | some (index + 1), some (.choice choice) => choice.offers[index]?.map Offer.id
  | _, _ => none

/-- Leaves a story. -/
def leave (options : Options) (staging : Staging) (shown : Show) (farewell : List Cue) :
    Turn × List Cue :=
  let (_, cues) := present options (shown.session.stop staging) shown.prompted
  (.closed 0, cues ++ farewell)

/-- Uses a line for what is waited for. -/
def useLine (options : Options) (staging : Staging) (shown : Show) (line : String) :
    Turn × List Cue :=
  let session := shown.session
  match session.position.mode with
  | .waiting .answer =>
      afterCommand options shown.prompted (session.submit staging line) fun after =>
        if after.session.position.mode = .waiting .answer then [.plain .output "> "] else []
  | .waiting .choice =>
      match chosenOffer? staging.story session.position line with
      | some offer =>
          afterCommand options shown.prompted (session.choose staging offer) fun _ => []
      | none => (.waiting shown, [.plain .output "Enter a number from the list > "])
  | .waiting .enter =>
      afterCommand options shown.prompted (session.acknowledge staging) fun _ => []
  | _ => (.waiting shown, [])

/-- Takes a line, or learns that there is none. -/
def takeLine (options : Options) (staging : Staging) (shown : Show) : Option ReadLine →
    Turn × List Cue
  | none => leave options staging shown []
  | some (.error fault) => (.closed 1, failureCues s!"failed to read from stdin: {fault.message}")
  | some (.ok line) =>
      if Text.trim line = quitWord then leave options staging shown [.plain .output "Goodbye!\n"]
      else useLine options staging shown line

/-- Plays from a turn on with given lines, in a bounded number of turns: the exit code and all cues. -/
def play (options : Options) (staging : Staging) (steps : Nat) :
    Nat → Turn → List ReadLine → Option (Nat × List Cue)
  | 0, _, _ => none
  | _ + 1, .closed exit, _ => some (exit, [])
  | bound + 1, .waiting shown, lines =>
      match shown.session.settle staging none steps with
      | none => none
      | some (session, report) =>
          let (turn, cues) := afterSettling options shown.prompted session report
          (play options staging steps bound turn lines).map fun (exit, rest) => (exit, cues ++ rest)
  | bound + 1, .reading shown, lines =>
      let (turn, cues) := takeLine options staging shown lines.head?
      (play options staging steps bound turn lines.tail).map fun (exit, rest) => (exit, cues ++ rest)

end NarrativePlayer.Player
