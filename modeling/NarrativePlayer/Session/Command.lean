import NarrativePlayer.Session.Entrance

/-!
Contract: the commands of a session.

Start enters the first scene and supersedes all that goes on; stop ends the story. Submitting an
answer, choosing an option and acknowledging a sequence have an effect only where they are waited for.
A command that fails or is ignored changes nothing. A command whose scene is still being shown when
the others go on is held up, and its ticket tells when it is done.
-/

namespace NarrativePlayer.Session

/-- What a session can be told. -/
inductive Command where
  | start
  | stop
  | submit (answer : String)
  | choose (offer : String)
  | enter
deriving DecidableEq, Repr

inductive Reply where
  | done
  | failed (trouble : Trouble)
  | held (ticket : Nat)
deriving DecidableEq, Repr

namespace State

/-- The reply to a command that entered a scene. A command that is held up goes on in the
background. -/
def reply (entered : State × Entrance) : State × Reply :=
  match entered with
  | (state, .made) => (state, .done)
  | (state, .failed trouble) => (state, .failed trouble)
  | (state, .held) => (state.spawn (.call false false), .held state.activities.length)

/-- Enters the first scene. Variables stay as they are. -/
def start (state : State) (staging : Staging) : State × Reply :=
  let story := staging.story
  let position := state.position.release.renew
  let message := s!"[Start] story '{story.id}' v{story.version} at '{story.start}'"
  let cleared := ((state.place position).note staging .engine .info message).emit .clear
  reply (cleared.enter staging story.start position.generation)

def stop (state : State) (staging : Staging) : State :=
  let position := { state.position.release.renew with mode := .ended }
  ((state.place position).note staging .engine .info "[Stop] story stopped").announce staging
    (position.current.getD "") .ended

def ignore (state : State) (staging : Staging) (message : String) : State × Reply :=
  (state.note staging .flow .debug message, .done)

/-- Follows a transition out of a scene: applies its actions and enters its target. -/
def follow (state : State) (staging : Staging) (submitted : Option String) (actions : List Action)
    (target : String) : State × Reply :=
  match staging.story.find target with
  | .error trouble => (state, .failed trouble)
  | .ok _ =>
      let acted := state.act staging submitted actions
      let cleared := (acted.place acted.position.release).emit .clear
      reply (cleared.enter staging target cleared.position.generation)

def submit (state : State) (staging : Staging) (raw : String) : State × Reply :=
  match state.position.pendingFor? .answer with
  | none => state.ignore staging "[Submit] ignored, not waiting for input"
  | some id =>
      match staging.story.find id >>= Scene.asQuestion with
      | .error trouble => (state, .failed trouble)
      | .ok question =>
          let answer := question.field.normalize raw
          match question.submission? with
          | none => state.ignore staging s!"[Submit] ignored, '{id}' has no submit transition"
          | some transition =>
              match complaint? transition.guards answer with
              | some message =>
                  ((state.note staging .flow .debug s!"[Submit] rejected: {message}").emit
                    (.invalid message), .done)
              | none => state.follow staging (some answer) transition.actions transition.target

def choose (state : State) (staging : Staging) (offer : String) : State × Reply :=
  match state.position.pendingFor? .choice with
  | none => state.ignore staging "[Choose] ignored, not waiting for a choice"
  | some id =>
      match staging.story.find id >>= Scene.asChoice with
      | .error trouble => (state, .failed trouble)
      | .ok choice =>
          match choice.offer? offer with
          | none => state.ignore staging s!"[Choose] ignored unknown option '{offer}' in '{id}'"
          | some chosen => state.follow staging none chosen.actions chosen.target

def acknowledge (state : State) (staging : Staging) : State × Reply :=
  match state.position.pendingFor? .enter with
  | none => state.ignore staging "[Enter] ignored, nothing to acknowledge"
  | some id =>
      match staging.story.find id >>= Scene.asSequence with
      | .error trouble => (state, .failed trouble)
      | .ok sequence =>
          match sequence.events.find? enterEvent with
          | some target =>
              match staging.story.find target with
              | .error trouble => (state, .failed trouble)
              | .ok _ =>
                  let released := state.place state.position.release
                  reply (released.enter staging target released.position.generation)
          | none =>
              let position := { state.position.release with mode := .ended }
              let message := s!"[Enter] '{id}' has no ENTER transition, story ends"
              (((state.place position).note staging .flow .info message).announce staging id .ended,
                .done)

def execute (state : State) (staging : Staging) : Command → State × Reply
  | .start => state.start staging
  | .stop => (state.stop staging, .done)
  | .submit answer => state.submit staging answer
  | .choose offer => state.choose staging offer
  | .enter => state.acknowledge staging

end State

end NarrativePlayer.Session
