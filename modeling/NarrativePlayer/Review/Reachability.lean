import NarrativePlayer.Review.Finding
import NarrativePlayer.Story.Graph

/-!
Contract: which scenes can be reached from the start of a story.

Owns a walk over the ids that scenes lead to, breadth first, undeclared ids included. An id is put into
the queue at most once, so the walk needs no more steps than there are ids: the start and the targets
of all scenes bound them.
-/

namespace NarrativePlayer.Review

/-- The ids that an id leads to: those of the scene it stands for. -/
def successorsOf (story : Story) (id : String) : List String :=
  match story.find? id with
  | some scene => scene.successors
  | none => []

/-- Walks on from the ids of a queue, given all ids that were reached, those of the queue included. -/
def walk (story : Story) : Nat → List String → List String → List String
  | 0, _, reached => reached
  | _, [], reached => reached
  | bound + 1, id :: queue, reached =>
      let fresh :=
        ((successorsOf story id).filter fun target => !reached.contains target).eraseDups
      walk story bound (queue ++ fresh) (reached ++ fresh)

/-- The number of steps that are enough for a walk. -/
def walkBound (story : Story) : Nat :=
  (story.scenes.flatMap Scene.successors).length + 1

/-- The ids that can be reached from the start, if the start is declared. -/
def reachable (story : Story) : List String :=
  if story.declares story.start then walk story (walkBound story) [story.start] [story.start] else []

/-- The declared ids that cannot be reached, in the order of their first declarations. -/
def unreachable (story : Story) : List Finding :=
  let reached := reachable story
  (((story.scenes.map Scene.id).eraseDups).filter fun id => !reached.contains id).map fun id =>
    .unreachable id story.start

end NarrativePlayer.Review
