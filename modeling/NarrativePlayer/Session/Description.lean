import NarrativePlayer.Session.Basic

/-!
Contract: a one-line description of a session, with texts in quotes.
-/

namespace NarrativePlayer.Session

def Mode.description : Mode → String
  | .idle => "Idle"
  | .running => "Running"
  | .waiting .answer => "WaitingForInput"
  | .waiting .choice => "WaitingForChoice"
  | .waiting .enter => "WaitingForEnter"
  | .ended => "Ended"

def Interaction.description : Interaction → String
  | .answer => "Input"
  | .choice => "Choice"
  | .enter => "Enter"

/-- A value in a description that may be absent. -/
def optionalDescription : Option String → String
  | none => "None"
  | some text => "Some(" ++ text ++ ")"

def Pending.description (pending : Pending) : String :=
  "Pending \x7b kind: " ++ pending.interaction.description ++ ", state_id: "
    ++ Text.quoted pending.scene ++ " \x7d"

def Position.description (position : Position) (story : String) : String :=
  "Interpreter \x7b story: " ++ Text.quoted story ++ ", mode: " ++ position.mode.description
    ++ ", current: " ++ optionalDescription (position.current.map Text.quoted)
    ++ ", pending: " ++ optionalDescription (position.pending.map Pending.description) ++ " \x7d"

end NarrativePlayer.Session
