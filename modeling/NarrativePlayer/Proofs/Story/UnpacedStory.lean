import NarrativePlayer.Proofs.Story.Chain

/-!
Contract: stories without their pace.

The pauses between lines and the speed at which they are typed out say when a story is told, not what. Owns
the story that is left without them, and that scenes are found and chains walked in it as before.
-/

namespace NarrativePlayer

/-- A line that is there at once, with no pause after it. -/
def Line.unpaced (line : Line) : Line :=
  { line with delay := 0, instant := false, speed := none }

def Sequence.unpaced (sequence : Sequence) : Sequence :=
  { sequence with lines := sequence.lines.map Line.unpaced }

def Scene.unpaced : Scene → Scene
  | .sequence body => .sequence body.unpaced
  | .question body => .question body
  | .choice body => .choice body

def Story.unpaced (story : Story) : Story :=
  { story with scenes := story.scenes.map Scene.unpaced }

namespace Scene

@[simp] theorem id_unpaced (scene : Scene) : scene.unpaced.id = scene.id := by
  cases scene <;> rfl

end Scene

namespace Story

variable (story : Story) (id : String)

@[simp] theorem find?_unpaced : story.unpaced.find? id = (story.find? id).map Scene.unpaced := by
  have same : (fun scene => decide (scene.id = id)) ∘ Scene.unpaced = fun scene => decide (scene.id = id) :=
    funext fun scene => by simp
  simp only [find?, unpaced, ← List.map_reverse, List.find?_map, same]

@[simp] theorem declares_unpaced : story.unpaced.declares id = story.declares id := by
  simp [declares, unpaced, List.any_map, Function.comp_def]

@[simp] theorem onward?_unpaced : story.unpaced.onward? id = story.onward? id := by
  unfold onward?
  rw [find?_unpaced]
  cases story.find? id with
  | none => rfl
  | some scene => cases scene <;> rfl

theorem chain_unpaced (more : Nat) : story.unpaced.chain more id = story.chain more id := by
  induction more generalizing id with
  | zero => rfl
  | succ more inductionHypothesis =>
      rw [chain, chain, onward?_unpaced]
      simp only [inductionHypothesis]

@[simp] theorem straight_unpaced : story.unpaced.Straight id ↔ story.Straight id := by
  have scenes : story.unpaced.scenes.length = story.scenes.length := List.length_map ..
  rw [Straight, Straight, chain_unpaced, scenes]

end Story

end NarrativePlayer
