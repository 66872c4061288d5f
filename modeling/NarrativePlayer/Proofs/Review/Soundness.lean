import NarrativePlayer.Proofs.Session.AwaitedInteraction
import NarrativePlayer.Review.Basic

/-!
Contract: what a review without errors is good for.

Owns the closure of a story under its successors, which is what the checks on ids establish, and that no
session on a closed story comes into any trouble. The link between the two is that every id a session
can go to is a successor of a declared scene. That is not plain for a sequence that waits: its next
scene is no successor, and is not gone to.
-/

namespace NarrativePlayer

/-- The start is declared, and so is all that scenes lead to. -/
structure Story.Closed (story : Story) : Prop where
  start : story.declares story.start = true
  successors : ∀ scene ∈ story.scenes, ∀ target ∈ scene.successors, story.declares target = true

theorem Story.Closed.declares_mentioned {story : Story} (closed : story.Closed) {target : String}
    (mentioned : story.Mentions target) : story.declares target = true := by
  rcases mentioned with isStart | ⟨id, scene, found, leads⟩
  · rw [isStart]
    exact closed.start
  · exact closed.successors scene (mem_scenes_of_find? found) target leads

namespace Review

theorem hasErrors_append (first second : List Finding) :
    hasErrors (first ++ second) = (hasErrors first || hasErrors second) := by
  unfold hasErrors
  rw [List.any_append]

theorem declares_start_of_clean {story : Story}
    (clean : hasErrors (undeclaredStart story) = false) : story.declares story.start = true := by
  unfold undeclaredStart at clean
  split at clean
  · assumption
  · cases clean

theorem declares_successors_of_clean {story : Story}
    (clean : hasErrors (undeclaredTargets story) = false) :
    ∀ scene ∈ story.scenes, ∀ target ∈ scene.successors, story.declares target = true := by
  intro scene member target leads
  by_cases declared : story.declares target = true
  · exact declared
  · have reported : Finding.undeclaredTarget scene.id target ∈ undeclaredTargets story := by
      apply List.mem_flatMap.mpr
      refine ⟨scene, member, List.mem_map_of_mem (List.mem_filter.mpr ⟨leads, ?_⟩)⟩
      simp [declared]
    have harmless : (Finding.undeclaredTarget scene.id target).severity ≠ .error := by
      simpa using List.any_eq_false.mp clean _ reported
    exact absurd rfl harmless

/-- A story is closed if a review that checks its ids finds no error. -/
theorem closed_of_clean {settings : Settings} {story : Story}
    (asked : settings.references.enabled = true)
    (clean : hasErrors (review settings story) = false) : story.Closed := by
  simp only [review, asked, if_true, checkReferences, hasErrors_append, Bool.or_eq_false_iff] at clean
  obtain ⟨⟨⟨⟨start, targets⟩, -⟩, -⟩, -⟩ := clean
  exact ⟨declares_start_of_clean start, declares_successors_of_clean targets⟩

end Review

namespace Session

namespace State

theorem opening_of_closed {story : Story} (closed : story.Closed) :
    opening story = .ok (.initial story.store) :=
  opening_of_declared closed.start

theorem not_ledAstray_of_closed {story : Story} (closed : story.Closed) (trouble : Trouble) :
    ¬ LedAstray story trouble := by
  rintro ⟨target, -, absent, mentioned⟩
  obtain ⟨scene, found⟩ := Story.exists_find?_of_declares (closed.declares_mentioned mentioned)
  rw [absent] at found
  cases found

/-- If a review that checks ids finds no error in a story, a session can be opened on it, and whatever
course it takes, no command, no sequence and no waiting ends in trouble. -/
theorem troubles_absent_of_clean (settings : Review.Settings) (staging : Staging)
    (asked : settings.references.enabled = true)
    (clean : Review.hasErrors (Review.review settings staging.story) = false) :
    ∃ initial, opening staging.story = .ok initial ∧ ∀ happenings trouble,
      (∀ command, ((initial.course staging happenings).execute staging command).2 ≠ .failed trouble) ∧
      (∀ ticket, (initial.course staging happenings).outcome? ticket ≠ some (.failed trouble)) ∧
      (∀ limit bound final,
        (initial.course staging happenings).settle staging limit bound ≠
          some (final, .failed trouble)) := by
  have closed := Review.closed_of_clean asked clean
  have opened := opening_of_closed closed
  refine ⟨_, opened, fun happenings trouble => ⟨?_, ?_, ?_⟩⟩
  · intro command failed
    have steady := steady_course opened happenings
    exact not_ledAstray_of_closed closed trouble (steady.ledAstray_of_command failed)
  · intro ticket isOver
    have steady := steady_course opened happenings
    exact not_ledAstray_of_closed closed trouble (steady.orderly.ledAstray_of_outcome isOver)
  · intro limit bound final settled
    -- Waiting is a course of its own, and reports only what a sequence came into.
    obtain ⟨later, rfl⟩ := reaches_settle settled
    obtain ⟨ticket, isOver⟩ := outcome?_of_settle settled
    rw [← course_append] at isOver
    have steady := steady_course opened (happenings ++ later)
    exact not_ledAstray_of_closed closed trouble (steady.orderly.ledAstray_of_outcome isOver)

theorem sample_without_troubles :
    Review.hasErrors (Review.review .standard .sample) = false ∧
      ∃ initial, opening Story.sample = .ok initial ∧ ∀ happenings command trouble,
        ((initial.course ⟨.sample, .silent⟩ happenings).execute ⟨.sample, .silent⟩ command).2 ≠
          .failed trouble := by
  have clean : Review.hasErrors (Review.review .standard .sample) = false := by decide
  obtain ⟨initial, opened, fine⟩ :=
    troubles_absent_of_clean .standard ⟨.sample, .silent⟩ rfl clean
  exact ⟨clean, initial, opened, fun happenings command trouble =>
    (fine happenings trouble).1 command⟩

end State

end Session

end NarrativePlayer
