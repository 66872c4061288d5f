import NarrativePlayer.Review.Finding
import NarrativePlayer.Review.Settings
import NarrativePlayer.Story.Graph
import NarrativePlayer.Template

/-!
Contract: checks on the templates of a story: whether all variables can have a value, and whether the
texts are short enough. The texts of the field of a question are not templates.
-/

namespace NarrativePlayer.Review

def actionsOf : Scene → List Action
  | .sequence body => body.actions
  | .question body => body.transitions.flatMap Transition.actions
  | .choice body => body.offers.flatMap Offer.actions

def variableOf? : Action → Option String
  | .set name _ _ => some name
  | .unknown => none

/-- The variables that a story begins with or that some action sets. -/
def assignedVariables (story : Story) : List String :=
  story.store.keys ++ (story.scenes.flatMap actionsOf).filterMap variableOf?

def templatesOf : Scene → List String
  | .sequence body => body.lines.map Line.text
  | .choice body => [body.prompt]
  | .question _ => []

/-- The variables of every scene that nothing sets. -/
def unsetVariables (story : Story) : List Finding :=
  let assigned := assignedVariables story
  story.scenes.flatMap fun scene =>
    let unset :=
      ((templatesOf scene).flatMap Template.tokens).filter fun name => !assigned.contains name
    unset.eraseDups.map (Finding.unsetVariable scene.id)

def longTexts (limit : Nat) (story : Story) : List Finding :=
  story.scenes.flatMap fun scene =>
    ((templatesOf scene).filter fun template => limit < template.length).map fun template =>
      .longText scene.id template.length limit

def checkQuality (checks : QualityChecks) (story : Story) : List Finding :=
  (if checks.unsetVariables then unsetVariables story else []) ++ longTexts checks.maxLineLength story

end NarrativePlayer.Review
