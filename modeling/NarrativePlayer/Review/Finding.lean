/-!
Contract: what a review can find, how grave it is, and how it is worded.

Owns the kinds of findings only; which of them hold of a story is for the checks to say.
-/

namespace NarrativePlayer.Review

inductive Severity where
  /-- Following the story can fail. -/
  | error
  | warning
  | info
deriving DecidableEq, Repr

inductive Topic where
  | references
  | flow
  | quality
deriving DecidableEq, Repr

def Severity.word : Severity → String
  | .error => "error"
  | .warning => "warning"
  | .info => "info"

def Topic.word : Topic → String
  | .references => "references"
  | .flow => "flow"
  | .quality => "quality"

inductive Finding where
  | undeclaredStart (start : String)
  | undeclaredTarget (scene target : String)
  | repeatedId (scene : String)
  | unreachable (scene start : String)
  /-- A question that no answer leads out of. -/
  | noSubmission (scene : String)
  | noOffers (scene : String)
  /-- A waiting sequence that ends the story when it is acknowledged. -/
  | noAcknowledgement (scene : String)
  /-- The next scene of a sequence that waits instead. -/
  | nextNeverTaken (scene event next : String)
  | unsetVariable (scene name : String)
  | longText (scene : String) (length limit : Nat)
deriving DecidableEq, Repr

namespace Finding

def severity : Finding → Severity
  | undeclaredStart _ => .error
  | undeclaredTarget _ _ => .error
  | repeatedId _ => .error
  | unreachable _ _ => .warning
  | noSubmission _ => .warning
  | noOffers _ => .warning
  | noAcknowledgement _ => .info
  | nextNeverTaken _ _ _ => .info
  | unsetVariable _ _ => .info
  | longText _ _ _ => .warning

def topic : Finding → Topic
  | undeclaredStart _ => .references
  | undeclaredTarget _ _ => .references
  | repeatedId _ => .references
  | unreachable _ _ => .flow
  | noSubmission _ => .flow
  | noOffers _ => .flow
  | noAcknowledgement _ => .flow
  | nextNeverTaken _ _ _ => .flow
  | unsetVariable _ _ => .quality
  | longText _ _ _ => .quality

def scene? : Finding → Option String
  | undeclaredStart _ => none
  | undeclaredTarget scene _ => some scene
  | repeatedId scene => some scene
  | unreachable scene _ => some scene
  | noSubmission scene => some scene
  | noOffers scene => some scene
  | noAcknowledgement scene => some scene
  | nextNeverTaken scene _ _ => some scene
  | unsetVariable scene _ => some scene
  | longText scene _ _ => some scene

def message : Finding → String
  | undeclaredStart start => s!"Start state '{start}' is not declared"
  | undeclaredTarget scene target => s!"State '{scene}' leads to undeclared state '{target}'"
  | repeatedId scene =>
      s!"State '{scene}' is declared more than once; the last declaration wins"
  | unreachable scene start => s!"State '{scene}' is unreachable from '{start}'"
  | noSubmission scene => s!"Input '{scene}' has no SUBMIT transition and can never advance"
  | noOffers scene => s!"Choice '{scene}' offers no options"
  | noAcknowledgement scene =>
      s!"Sequence '{scene}' waits for Enter but has no ENTER transition; the story ends there"
  | nextNeverTaken scene event next =>
      s!"Sequence '{scene}' waits for {event}, so its next state '{next}' is never taken"
  | unsetVariable scene name =>
      s!"Variable '{name}' used in '{scene}' is never set and will print as empty"
  | longText scene length limit =>
      s!"Text in '{scene}' is {length} characters (threshold: {limit})"

end Finding

def count (severity : Severity) (findings : List Finding) : Nat :=
  findings.countP fun finding => finding.severity = severity

/-- Whether there is a finding for which following the story can fail. -/
def hasErrors (findings : List Finding) : Bool :=
  findings.any fun finding => finding.severity = .error

def attachedTo (scene : String) (findings : List Finding) : List Finding :=
  findings.filter fun finding => finding.scene? = some scene

end NarrativePlayer.Review
