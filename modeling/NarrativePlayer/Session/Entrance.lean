import NarrativePlayer.Session.Basic

/-!
Contract: the entrance of a scene.

A scene is entered on behalf of a generation, and if something newer has taken over since, nothing
happens. A terminal scene ends the story. Another sequence is announced, applies its actions and goes
on in the background. A question or a choice is announced and shown, and it is then up to the terminal
how long the showing takes.
-/

namespace NarrativePlayer.Session

inductive Entrance where
  | made
  | failed (trouble : Trouble)
  /-- The terminal is not done showing the scene. -/
  | held
deriving DecidableEq, Repr

namespace State

/-- Has the terminal show a scene. -/
def display (state : State) (event : Event) : State × Entrance :=
  (state.emit event, if state.displayOpen then .made else .held)

/-- Waits for an interaction with a scene, and announces it. -/
def await (state : State) (staging : Staging) (interaction : Interaction) (scene : String) : State :=
  (state.place (state.position.park interaction scene)).announce staging scene (.waiting interaction)

/-- Begins a sequence in the background. -/
def beginSequence (state : State) (staging : Staging) (id : String) (sequence : Sequence) : State :=
  let position := { state.position with current := some id, mode := .running }.renew
  let begun := ((state.place position).announce staging id .running).act staging none sequence.actions
  let ticket := begun.activities.length
  { begun.spawn (.performance sequence position.generation (.ready 0)) with latest := some ticket }

def finish (state : State) (staging : Staging) (id : String) : State :=
  let position := { state.position with current := some id, pending := none, mode := .ended }
  (state.place position).announce staging id .ended

/-- Enters a scene on behalf of a generation. -/
def enter (state : State) (staging : Staging) (id : String) (generation : Nat) : State × Entrance :=
  match staging.story.find id with
  | .error trouble => (state, .failed trouble)
  | .ok scene =>
      let state := state.note staging .engine .debug s!"[Enter] {scene.kind.word} state '{id}'"
      if !state.position.isCurrent generation then (state, .made)
      else if scene.isTerminal then (state.finish staging id, .made)
      else
        match scene with
        | .sequence body => (state.beginSequence staging id body, .made)
        | .question body => (state.await staging .answer id).display (.showInput body.field)
        | .choice body =>
            let parked := state.await staging .choice id
            parked.display
              (.showChoices (Template.fill body.prompt parked.position.store) body.offers)

end State

end NarrativePlayer.Session
