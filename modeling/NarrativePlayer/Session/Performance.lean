import NarrativePlayer.Session.Entrance

/-!
Contract: what an activity does when it goes on.

A sequence prints its lines one after the other, each with its pause, and gives up silently as soon as
something newer has taken over. After its last line it waits, leads on to the next scene, or ends the
story. Every function here is one step of one activity; in which order activities go on is not decided
here.
-/

namespace NarrativePlayer.Session

/-- Whether an activity can go on by itself. -/
def Activity.canGoOn : Activity → Bool
  | .performance _ _ (.ready _) => true
  | .performance _ _ (.printing _ released) => released
  | .performance _ _ (.presenting released) => released
  | .performance _ _ (.resting _ _) => false
  | .performance _ _ (.finished _) => false
  | .call released finished => released && !finished

namespace State

/-- Gives up a sequence that was superseded. -/
def abandon (state : State) (staging : Staging) (id message : String) : State × Stage :=
  (state.note staging .timing .debug s!"[Line] '{id}' {message}", .finished .succeeded)

def beginLine (state : State) (staging : Staging) (id : String) (generation index : Nat)
    (line : Line) : State × Stage :=
  let text := Template.fill line.text state.position.store
  let state := state.note staging .timing .trace s!"[Line] '{id}' #{index}: {text}"
  if !state.position.isCurrent generation then
    state.abandon staging id "superseded, abandoning"
  else if state.faulty then ({ state with faulty := false }, .finished .brokenOff)
  else
    (state.emit (.print state.clock text line.instant line.speed), .printing index state.printOpen)

/-- Goes on after a line was printed. -/
def endLine (state : State) (staging : Staging) (id : String) (generation index : Nat)
    (line : Line) : State × Stage :=
  if !state.position.isCurrent generation then
    state.abandon staging id "superseded, abandoning"
  else if 0 < line.delay then (state, .resting index (state.clock + line.delay))
  else (state, .ready (index + 1))

/-- Notes that a sequence could not go on. -/
def fail (state : State) (id : String) (trouble : Trouble) : State × Stage :=
  (state.emit (.failed id trouble), .finished (.failed trouble))

/-- Decides what follows the last line of a sequence. -/
def conclude (state : State) (staging : Staging) (generation : Nat) (sequence : Sequence) :
    State × Stage :=
  let id := sequence.id
  if !state.position.isCurrent generation then
    state.abandon staging id "superseded after its last line"
  else if sequence.awaits.isSome then (state.await staging .enter id, .finished .succeeded)
  else
    match sequence.next with
    | none =>
        ((state.place { state.position with mode := .ended }).announce staging id .ended,
          .finished .succeeded)
    | some target =>
        match state.enter staging target generation with
        | (entered, .made) => (entered, .finished .succeeded)
        | (entered, .held) => (entered, .presenting false)
        | (entered, .failed trouble) => entered.fail id trouble

/-- Takes a sequence one step further. -/
def perform (state : State) (staging : Staging) (sequence : Sequence) (generation : Nat)
    (stage : Stage) : State × Stage :=
  match stage with
  | .ready index =>
      match sequence.lines[index]? with
      | some line => state.beginLine staging sequence.id generation index line
      | none => state.conclude staging generation sequence
  | .printing index true =>
      match sequence.lines[index]? with
      | some line => state.endLine staging sequence.id generation index line
      | none => (state, .ready (index + 1))
  | .presenting true => (state, .finished .succeeded)
  | other => (state, other)

/-- Takes an activity one step further. -/
def goOn (state : State) (staging : Staging) (ticket : Nat) : State :=
  match state.activities[ticket]? with
  | some (.performance sequence generation stage) =>
      let (performed, reached) := state.perform staging sequence generation stage
      performed.replace ticket (.performance sequence generation reached)
  | some (.call true false) => (state.emit (.done ticket)).replace ticket (.call true true)
  | _ => state

end State

end NarrativePlayer.Session
