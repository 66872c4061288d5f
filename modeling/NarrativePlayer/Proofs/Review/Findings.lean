import NarrativePlayer.Review.Basic

/-!
Contract: which check a finding of a review comes from.

Owns that the findings of a check are of its topic, so that a review has a finding only if the check of
its topic is asked for and makes it, what the checks on the ways through a story say of a scene, and how
often an id is said to repeat.
-/

namespace NarrativePlayer.Review

/-! ## Topics -/

theorem topic_of_mem_checkReferences {checks : ReferenceChecks} {story : Story} {finding : Finding}
    (member : finding ∈ checkReferences checks story) : finding.topic = .references := by
  unfold checkReferences at member
  rw [List.mem_append, List.mem_append] at member
  rcases member with (undeclared | undeclared) | repeated
  · unfold undeclaredStart at undeclared
    split at undeclared
    · cases undeclared
    · rw [List.mem_singleton.mp undeclared]
      rfl
  · obtain ⟨scene, -, target⟩ := List.mem_flatMap.mp undeclared
    obtain ⟨target, -, rfl⟩ := List.mem_map.mp target
    rfl
  · split at repeated
    · obtain ⟨id, -, rfl⟩ := List.mem_map.mp repeated
      rfl
    · cases repeated

/-- What the check of dead ends says of a scene, and what the scene is like. -/
inductive IsSaidOf : Scene → Finding → Prop
  | noSubmission {body : Question} (mute : body.submission? = none) :
      IsSaidOf (.question body) (.noSubmission body.id)
  | noOffers {body : Choice} (bare : body.offers = []) : IsSaidOf (.choice body) (.noOffers body.id)
  | noAcknowledgement {body : Sequence} (awaited : body.awaits.isSome = true)
      (goesOn : body.terminal = false) (noWay : body.events.find? enterEvent = none) :
      IsSaidOf (.sequence body) (.noAcknowledgement body.id)
  | nextNeverTaken {body : Sequence} {event next : String} (awaited : body.awaits = some event)
      (onward : body.next = some next) :
      IsSaidOf (.sequence body) (.nextNeverTaken body.id event next)

theorem isSaidOf_of_mem {scene : Scene} {finding : Finding}
    (said : finding ∈ deadEnd scene ++ neverTaken scene) : IsSaidOf scene finding := by
  cases scene with
  | question body =>
      simp only [deadEnd, neverTaken, List.append_nil, List.mem_ite_nil_right, Option.isNone_iff_eq_none,
        List.mem_singleton] at said
      obtain ⟨mute, rfl⟩ := said
      exact .noSubmission mute
  | choice body =>
      simp only [deadEnd, neverTaken, List.append_nil, List.mem_ite_nil_right, List.isEmpty_iff,
        List.mem_singleton] at said
      obtain ⟨bare, rfl⟩ := said
      exact .noOffers bare
  | sequence body =>
      rcases List.mem_append.mp said with dead | never
      · simp only [deadEnd, List.mem_ite_nil_right, Bool.and_eq_true, Bool.not_eq_true',
          List.mem_singleton] at dead
        obtain ⟨⟨⟨awaited, goesOn⟩, noEvent⟩, rfl⟩ := dead
        exact .noAcknowledgement awaited goesOn (by simpa [Table.contains, Table.find?] using noEvent)
      · simp only [neverTaken] at never
        split at never
        · rename_i event next awaited onward
          cases List.mem_singleton.mp never
          exact .nextNeverTaken awaited onward
        · cases never

theorem IsSaidOf.scene?_eq {scene : Scene} {finding : Finding} (said : IsSaidOf scene finding) :
    finding.scene? = some scene.id := by
  cases said <;> rfl

theorem of_mem_deadEnds {story : Story} {finding : Finding} (member : finding ∈ deadEnds story) :
    ∃ scene ∈ story.scenes, IsSaidOf scene finding := by
  obtain ⟨scene, here, said⟩ := List.mem_flatMap.mp member
  exact ⟨scene, here, isSaidOf_of_mem said⟩

/-- What the check of the ways through a story finds: ids that are not reached, and dead ends. -/
theorem of_mem_checkFlow {checks : FlowChecks} {story : Story} {finding : Finding}
    (member : finding ∈ checkFlow checks story) :
    (∃ id, id ∉ reachable story ∧ finding = .unreachable id story.start) ∨ finding ∈ deadEnds story := by
  unfold checkFlow at member
  rw [List.mem_append, List.mem_ite_nil_right, List.mem_ite_nil_right] at member
  rcases member with ⟨-, ways⟩ | ⟨-, ends⟩
  · obtain ⟨id, unreached, rfl⟩ := List.mem_map.mp ways
    exact .inl ⟨id, by simpa using (List.mem_filter.mp unreached).2, rfl⟩
  · exact .inr ends

theorem topic_of_mem_checkFlow {checks : FlowChecks} {story : Story} {finding : Finding}
    (member : finding ∈ checkFlow checks story) : finding.topic = .flow := by
  rcases of_mem_checkFlow member with ⟨id, -, rfl⟩ | ends
  · rfl
  · obtain ⟨scene, -, said⟩ := of_mem_deadEnds ends
    cases said <;> rfl

theorem topic_of_mem_checkQuality {checks : QualityChecks} {story : Story} {finding : Finding}
    (member : finding ∈ checkQuality checks story) : finding.topic = .quality := by
  unfold checkQuality at member
  rw [List.mem_append] at member
  rcases member with unset | long
  · split at unset
    · obtain ⟨scene, -, name⟩ := List.mem_flatMap.mp unset
      obtain ⟨name, -, rfl⟩ := List.mem_map.mp name
      rfl
    · cases unset
  · obtain ⟨scene, -, template⟩ := List.mem_flatMap.mp long
    obtain ⟨template, -, rfl⟩ := List.mem_map.mp template
    rfl

/-! ## Ids that repeat -/

/-- An id is said to repeat once, where it occurs for the second time, or not at all. -/
theorem count_repeatedAfter (id : String) (ids before : List String) :
    (repeatedAfter before ids).count id =
      if before.count id ≤ 1 ∧ 2 ≤ before.count id + ids.count id then 1 else 0 := by
  induction ids generalizing before with
  | nil =>
      have once : ¬ (before.count id ≤ 1 ∧ 2 ≤ before.count id + [].count id) := by
        rw [List.count_nil]
        omega
      rw [if_neg once]
      exact List.count_nil
  | cons first rest inductionHypothesis =>
      have later := inductionHypothesis (first :: before)
      unfold repeatedAfter
      by_cases here : first = id
      · subst here
        rw [List.count_cons_self] at later ⊢
        by_cases second : before.count first = 1
        · rw [if_pos second, List.count_cons_self, later, second, if_neg (by omega), if_pos (by omega)]
        · have same : before.count first + 1 ≤ 1 ∧ 2 ≤ before.count first + 1 + rest.count first ↔
              before.count first ≤ 1 ∧ 2 ≤ before.count first + (rest.count first + 1) := by
            omega
          rw [if_neg second, later]
          simp only [same]
      · rw [List.count_cons_of_ne here] at later ⊢
        split
        · rw [List.count_cons_of_ne here, later]
        · exact later

theorem mem_repeatedAfter {id : String} {ids before : List String} (fresh : before.count id ≤ 1)
    (again : 2 ≤ before.count id + ids.count id) : id ∈ repeatedAfter before ids := by
  rw [← List.count_pos_iff, count_repeatedAfter, if_pos ⟨fresh, again⟩]
  exact Nat.one_pos

/-! ## The parts of a review -/

theorem mem_review {settings : Settings} {story : Story} {finding : Finding} :
    finding ∈ review settings story ↔
      (settings.references.enabled = true ∧ finding ∈ checkReferences settings.references story) ∨
      (settings.flow.enabled = true ∧ finding ∈ checkFlow settings.flow story) ∨
      (settings.quality.enabled = true ∧ finding ∈ checkQuality settings.quality story) := by
  unfold review
  rw [List.mem_append, List.mem_append, List.mem_ite_nil_right, List.mem_ite_nil_right,
    List.mem_ite_nil_right, or_assoc]

/-- A finding on the ways through a story comes from the check of these ways. -/
theorem mem_checkFlow_of_mem_review {settings : Settings} {story : Story} {finding : Finding}
    (member : finding ∈ review settings story) (flow : finding.topic = .flow) :
    settings.flow.enabled = true ∧ finding ∈ checkFlow settings.flow story := by
  rcases mem_review.mp member with ⟨-, other⟩ | here | ⟨-, other⟩
  · cases flow.symm.trans (topic_of_mem_checkReferences other)
  · exact here
  · cases flow.symm.trans (topic_of_mem_checkQuality other)

/-- A finding on the texts of a story comes from the check of these texts. -/
theorem mem_checkQuality_of_mem_review {settings : Settings} {story : Story} {finding : Finding}
    (member : finding ∈ review settings story) (quality : finding.topic = .quality) :
    settings.quality.enabled = true ∧ finding ∈ checkQuality settings.quality story := by
  rcases mem_review.mp member with ⟨-, other⟩ | ⟨-, other⟩ | here
  · cases quality.symm.trans (topic_of_mem_checkReferences other)
  · cases quality.symm.trans (topic_of_mem_checkFlow other)
  · exact here

/-- What a review calls unreachable is not reached. -/
theorem not_mem_reachable_of_unreachable {settings : Settings} {story : Story} {id start : String}
    (found : .unreachable id start ∈ review settings story) : id ∉ reachable story := by
  obtain ⟨-, flow⟩ := mem_checkFlow_of_mem_review found rfl
  rcases of_mem_checkFlow flow with ⟨other, unreached, same⟩ | ends
  · cases same
    exact unreached
  · obtain ⟨scene, -, said⟩ := of_mem_deadEnds ends
    cases said

end NarrativePlayer.Review
