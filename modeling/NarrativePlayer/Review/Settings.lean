/-!
Contract: which checks a review makes.
-/

namespace NarrativePlayer.Review

/-- Checks on the ids that scenes lead to. -/
structure ReferenceChecks where
  enabled : Bool
  /-- Report ids that are declared more than once. -/
  duplicates : Bool
deriving DecidableEq, Repr

/-- Checks on the ways through the story. -/
structure FlowChecks where
  enabled : Bool
  /-- Report scenes that no path from the start leads to. -/
  reachability : Bool
  /-- Report scenes that cannot be left. -/
  deadEnds : Bool
deriving DecidableEq, Repr

structure QualityChecks where
  enabled : Bool
  /-- Report variables that nothing ever sets. -/
  unsetVariables : Bool
  /-- The length from which on a text is called too long is one more than this. -/
  maxLineLength : Nat
deriving DecidableEq, Repr

structure Settings where
  references : ReferenceChecks
  flow : FlowChecks
  quality : QualityChecks
deriving DecidableEq, Repr

/-- Every check, with texts of up to 200 characters. -/
def Settings.standard : Settings :=
  ⟨⟨true, true⟩, ⟨true, true, true⟩, ⟨true, true, 200⟩⟩

end NarrativePlayer.Review
