import NarrativePlayer.Review.Finding
import NarrativePlayer.Review.Settings
import NarrativePlayer.Story.Graph

/-!
Contract: checks on the ids of a story: whether its start and all targets are declared, and whether any
id is declared twice.
-/

namespace NarrativePlayer.Review

def undeclaredStart (story : Story) : List Finding :=
  if story.declares story.start then [] else [.undeclaredStart story.start]

/-- The targets of every scene that are not declared, as often as they occur. -/
def undeclaredTargets (story : Story) : List Finding :=
  story.scenes.flatMap fun scene =>
    (scene.successors.filter fun target => !story.declares target).map
      (Finding.undeclaredTarget scene.id)

/-- The ids of a list at their second occurrence, given those before. -/
def repeatedAfter (before : List String) : List String → List String
  | [] => []
  | id :: rest =>
      if before.count id = 1 then id :: repeatedAfter (id :: before) rest
      else repeatedAfter (id :: before) rest

def repeatedIds (story : Story) : List Finding :=
  (repeatedAfter [] (story.scenes.map Scene.id)).map .repeatedId

def checkReferences (checks : ReferenceChecks) (story : Story) : List Finding :=
  undeclaredStart story ++ undeclaredTargets story
    ++ (if checks.duplicates then repeatedIds story else [])

end NarrativePlayer.Review
