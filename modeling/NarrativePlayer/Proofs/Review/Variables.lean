import NarrativePlayer.Proofs.Review.Findings
import NarrativePlayer.Proofs.Review.IdWalk

/-!
Contract: the report of variables that nothing sets.

Owns which variables these are, and that a review reports each of them once for every declaration whose
templates mention it, if it checks variables at all, and never else. Findings tell declarations apart by
their ids alone, so the reports on an id are as many as its declarations.
-/

namespace NarrativePlayer.Review

/-- The variables that the templates of a scene mention, as often as they do. -/
def mentioned (scene : Scene) : List String :=
  (templatesOf scene).flatMap Template.tokens

/-- Whether an action of a declared scene sets a variable. -/
def SetBySome (story : Story) (name : String) : Prop :=
  ∃ scene ∈ story.scenes, ∃ action ∈ actionsOf scene, variableOf? action = some name

/-- Whether neither the story begins with a variable nor any action sets it. -/
def NeverSet (story : Story) (name : String) : Prop :=
  name ∉ story.store.keys ∧ ¬ SetBySome story name

/-- Whether a review checks variables. -/
def Settings.checksVariables (settings : Settings) : Bool :=
  settings.quality.enabled && settings.quality.unsetVariables

theorem mem_assignedVariables {story : Story} {name : String} :
    name ∈ assignedVariables story ↔ name ∈ story.store.keys ∨ SetBySome story name := by
  simp only [assignedVariables, SetBySome, List.mem_append, List.mem_filterMap, List.mem_flatMap]
  constructor
  · rintro (seeded | ⟨action, ⟨scene, here, acts⟩, sets⟩)
    · exact .inl seeded
    · exact .inr ⟨scene, here, action, acts, sets⟩
  · rintro (seeded | ⟨scene, here, action, acts, sets⟩)
    · exact .inl seeded
    · exact .inr ⟨action, ⟨scene, here, acts⟩, sets⟩

theorem neverSet_iff {story : Story} {name : String} :
    NeverSet story name ↔ name ∉ assignedVariables story := by
  rw [mem_assignedVariables, not_or, NeverSet]

/-! ## One declaration -/

/-- The reports on one declaration. -/
private def reports (assigned : List String) (scene : Scene) : List Finding :=
  ((mentioned scene).filter fun name => !assigned.contains name).eraseDups.map
    (Finding.unsetVariable scene.id)

private theorem unsetVariables_eq (story : Story) :
    unsetVariables story = story.scenes.flatMap (reports (assignedVariables story)) :=
  rfl

private theorem count_reports {assigned : List String} {name : String} (unset : name ∉ assigned)
    (id : String) (scene : Scene) :
    (reports assigned scene).count (.unsetVariable id name) =
      if scene.id = id ∧ name ∈ mentioned scene then 1 else 0 := by
  unfold reports
  by_cases same : scene.id = id
  · subst same
    have injective : Function.Injective (Finding.unsetVariable scene.id) :=
      fun first second equal => (Finding.unsetVariable.inj equal).2
    rw [List.count_map_of_injective _ _ injective, (nodup_eraseDups _).count]
    simp [unset]
  · rw [if_neg fun both => same both.1]
    refine List.count_eq_zero.mpr fun member => ?_
    obtain ⟨other, -, equal⟩ := List.mem_map.mp member
    exact same (Finding.unsetVariable.inj equal).1

private theorem count_flatMap_reports {assigned : List String} {name : String} (unset : name ∉ assigned)
    (id : String) (scenes : List Scene) :
    (scenes.flatMap (reports assigned)).count (.unsetVariable id name) =
      scenes.countP fun scene => scene.id = id ∧ name ∈ mentioned scene := by
  induction scenes with
  | nil => rfl
  | cons scene rest inductionHypothesis =>
      rw [List.flatMap_cons, List.count_append, inductionHypothesis, count_reports unset, List.countP_cons,
        Nat.add_comm]
      simp only [decide_eq_true_eq]

/-! ## A review -/

theorem neverSet_of_mem_review {settings : Settings} {story : Story} {id name : String}
    (reported : .unsetVariable id name ∈ review settings story) :
    settings.checksVariables = true ∧ NeverSet story name := by
  obtain ⟨enabled, quality⟩ := mem_checkQuality_of_mem_review reported rfl
  unfold checkQuality at quality
  rw [List.mem_append] at quality
  rcases quality with unset | long
  · split at unset
    · rename_i asked
      obtain ⟨scene, -, member⟩ := List.mem_flatMap.mp unset
      obtain ⟨other, isUnset, same⟩ := List.mem_map.mp member
      obtain ⟨-, rfl⟩ := Finding.unsetVariable.inj same
      have absent := (List.mem_filter.mp (List.mem_eraseDups.mp isUnset)).2
      exact ⟨by simp [Settings.checksVariables, enabled, asked], neverSet_iff.mpr (by simpa using absent)⟩
    · cases unset
  · obtain ⟨scene, -, member⟩ := List.mem_flatMap.mp long
    obtain ⟨template, -, same⟩ := List.mem_map.mp member
    cases same

/-- A variable that nothing sets is reported once for each declaration that mentions it. -/
theorem count_review_of_neverSet {settings : Settings} {story : Story} {name : String}
    (checked : settings.checksVariables = true) (unset : NeverSet story name) (id : String) :
    (review settings story).count (.unsetVariable id name) =
      story.scenes.countP fun scene => scene.id = id ∧ name ∈ mentioned scene := by
  obtain ⟨enabled, asked⟩ := Bool.and_eq_true_iff.mp checked
  have noReference : .unsetVariable id name ∉
      (if settings.references.enabled then checkReferences settings.references story else []) := by
    intro member
    rw [List.mem_ite_nil_right] at member
    cases topic_of_mem_checkReferences member.2
  have noWay : .unsetVariable id name ∉
      (if settings.flow.enabled then checkFlow settings.flow story else []) := by
    intro member
    rw [List.mem_ite_nil_right] at member
    cases topic_of_mem_checkFlow member.2
  have notLong : .unsetVariable id name ∉ longTexts settings.quality.maxLineLength story := by
    intro member
    obtain ⟨scene, -, here⟩ := List.mem_flatMap.mp member
    obtain ⟨template, -, same⟩ := List.mem_map.mp here
    cases same
  rw [review, List.count_append, List.count_append, List.count_eq_zero_of_not_mem noReference,
    List.count_eq_zero_of_not_mem noWay, if_pos enabled, checkQuality, if_pos asked, List.count_append,
    List.count_eq_zero_of_not_mem notLong, unsetVariables_eq,
    count_flatMap_reports (neverSet_iff.mp unset)]
  omega

/-- A variable that nothing sets is reported for every declaration that mentions it. -/
theorem mem_review_of_neverSet {settings : Settings} {story : Story} {scene : Scene} {name : String}
    (checked : settings.checksVariables = true) (unset : NeverSet story name)
    (here : scene ∈ story.scenes) (mentions : name ∈ mentioned scene) :
    .unsetVariable scene.id name ∈ review settings story := by
  rw [← List.count_pos_iff, count_review_of_neverSet checked unset, List.countP_pos_iff]
  exact ⟨scene, here, by simpa using mentions⟩

end NarrativePlayer.Review
