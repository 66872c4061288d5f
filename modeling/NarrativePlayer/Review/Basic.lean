import NarrativePlayer.Review.DeadEnds
import NarrativePlayer.Review.Reachability
import NarrativePlayer.Review.References
import NarrativePlayer.Review.Texts

/-!
Contract: the review of a story: all findings of the checks that its settings ask for, check by check.
-/

namespace NarrativePlayer.Review

def checkFlow (checks : FlowChecks) (story : Story) : List Finding :=
  (if checks.reachability then unreachable story else [])
    ++ (if checks.deadEnds then deadEnds story else [])

def review (settings : Settings) (story : Story) : List Finding :=
  (if settings.references.enabled then checkReferences settings.references story else [])
    ++ (if settings.flow.enabled then checkFlow settings.flow story else [])
    ++ (if settings.quality.enabled then checkQuality settings.quality story else [])

end NarrativePlayer.Review
