import NarrativePlayer.Document.Parts
import NarrativePlayer.Document.Writing
import NarrativePlayer.Text.Blank

/-!
Contract: the text of a story.

Owns the two directions between a story and its text, and the checks on a story that are not about
shape: neither its start nor the id of any of its scenes is blank. Where ids lead is not checked here.
-/

namespace NarrativePlayer

open Document Json

/-- Why a text is refused as a story. -/
inductive Refusal where
  | unreadable (fault : Fault)
  | blankStart (story : String)
  | blankScene (story : String) (kind : SceneKind)
deriving DecidableEq, Repr

def Refusal.message : Refusal → String
  | .unreadable _ => "invalid story document"
  | .blankStart story => s!"story '{story}' has an empty start state id"
  | .blankScene story kind => s!"story '{story}' declares a {kind.word} state with an empty id"

/-- The wording of a refusal with its reason. -/
def Refusal.fullMessage : Refusal → String
  | .unreadable fault => s!"invalid story document: {fault.message}"
  | other => other.message

/-- Reads the text of a story: the first problem in reading order, and whatever follows the story. -/
def readStoryText (text : String) : Except Fault Story :=
  let (draft, rest) := Draft.ofText text.toList
  match readStory Medium.text draft with
  | .error fault => .error fault
  | .ok story =>
      match rest with
      | none => .error .malformed
      | some rest => if (skipSpaces rest).isEmpty then .ok story else .error .malformed

/-- The story that a text holds: well shaped, with a start, and with an id for every scene. -/
def Story.ofText (text : String) : Except Refusal Story :=
  match readStoryText text with
  | .error fault => .error (.unreadable fault)
  | .ok story =>
      if Text.isVoid story.start then .error (.blankStart story.id)
      else
        match story.scenes.find? fun scene => Text.isVoid scene.id with
        | some scene => .error (.blankScene story.id scene.kind)
        | none => .ok story

def Story.toText (story : Story) : String :=
  (writeStory story).text

end NarrativePlayer
