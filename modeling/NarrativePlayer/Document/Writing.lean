import NarrativePlayer.Json.Value
import NarrativePlayer.Story.Basic

/-!
Contract: stories written down as documents.

Every field is written under its name and in declaration order, defaults included; left out are only
optional fields that are absent, and an empty table of events. Of a guard or action of an unknown kind
nothing but that is written.
-/

namespace NarrativePlayer.Document

open NarrativePlayer.Json

/-- A member that is left out when it is absent. -/
def optionalMember (key : String) : Option Value → List (String × Value)
  | none => []
  | some value => [(key, value)]

/-- Writes the entries of a table in the order in which they are given. -/
def writeEntries (entries : List (String × String)) : Value :=
  .object (entries.map fun entry => (entry.1, .string entry.2))

def writeTable (table : Table) : Value :=
  writeEntries table.entries

def writeAction : Action → Value
  | .set name literal fromAnswer =>
      .object
        ([("type", .string "set"), ("var", .string name)]
          ++ optionalMember "value" (literal.map .string)
          ++ optionalMember "from" (if fromAnswer then some (.string "input") else none))
  | .unknown => .object [("type", .string "unknown")]

def writeGuard : Guard → Value
  | .minLength least => .object [("type", .string "minLength"), ("value", .natural least)]
  | .unknown => .object [("type", .string "Unknown")]

def writeLine (line : Line) : Value :=
  .object
    ([("text", .string line.text), ("delay", .natural line.delay), ("instant", .bool line.instant)]
      ++ optionalMember "speed" (line.speed.map .natural))

def writeAnswerField (field : AnswerField) : Value :=
  .object
    ([("id", .string field.id), ("label", .string field.label)]
      ++ optionalMember "placeholder" (field.placeholder.map .string)
      ++ optionalMember "minLength" (field.minLength.map .natural)
      ++ optionalMember "maxLength" (field.maxLength.map .natural)
      ++ [("trim", .bool field.trim)])

def writeTransition (transition : Transition) : Value :=
  .object
    [("event", .string transition.event), ("guards", .array (transition.guards.map writeGuard)),
      ("actions", .array (transition.actions.map writeAction)), ("to", .string transition.target)]

def writeOffer (offer : Offer) : Value :=
  .object
    [("id", .string offer.id), ("label", .string offer.label),
      ("actions", .array (offer.actions.map writeAction)), ("to", .string offer.target)]

/-- Writes a sequence, given the entries of its table of events. -/
def writeSequence (body : Sequence) (events : List (String × String)) : Value :=
  .object
    ([("type", .string "sequence"), ("id", .string body.id), ("lines", .array (body.lines.map writeLine)),
        ("actions", .array (body.actions.map writeAction))]
      ++ optionalMember "next" (body.next.map .string)
      ++ optionalMember "await" (body.awaits.map .string)
      ++ optionalMember "on" (if events.isEmpty then none else some (writeEntries events))
      ++ [("terminal", .bool body.terminal)])

def writeQuestion (body : Question) : Value :=
  .object
    [("type", .string "input"), ("id", .string body.id), ("input", writeAnswerField body.field),
      ("transitions", .array (body.transitions.map writeTransition))]

def writeChoice (body : Choice) : Value :=
  .object
    [("type", .string "choice"), ("id", .string body.id), ("prompt", .string body.prompt),
      ("choices", .array (body.offers.map writeOffer))]

def writeScene : Scene → Value
  | .sequence body => writeSequence body body.events.entries
  | .question body => writeQuestion body
  | .choice body => writeChoice body

/-- Writes a story, given the entries of its table of variables and its scenes as they are written. -/
def writeStoryOf (story : Story) (store : List (String × String)) (scenes : List Value) : Value :=
  .object
    [("id", .string story.id), ("version", .string story.version),
      ("context", .object [("vars", writeEntries store)]), ("start", .string story.start),
      ("states", .array scenes)]

def writeStory (story : Story) : Value :=
  writeStoryOf story story.store.entries (story.scenes.map writeScene)

end NarrativePlayer.Document
