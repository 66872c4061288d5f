import NarrativePlayer.Review.Finding
import NarrativePlayer.Story.Graph

/-!
Contract: scenes that cannot be left, or are not left the way they say.
-/

namespace NarrativePlayer.Review

/-- What keeps a scene from being left. -/
def deadEnd : Scene → List Finding
  | .question body => if body.submission?.isNone then [.noSubmission body.id] else []
  | .choice body => if body.offers.isEmpty then [.noOffers body.id] else []
  | .sequence body =>
      if body.awaits.isSome && !body.terminal && !body.events.contains enterEvent then
        [.noAcknowledgement body.id]
      else []

/-- The next scene of a sequence, if the sequence waits instead of going there. -/
def neverTaken : Scene → List Finding
  | .sequence body =>
      match body.awaits, body.next with
      | some event, some next => [.nextNeverTaken body.id event next]
      | _, _ => []
  | _ => []

def deadEnds (story : Story) : List Finding :=
  story.scenes.flatMap fun scene => deadEnd scene ++ neverTaken scene

end NarrativePlayer.Review
