import Mathlib.Data.Finset.Card
import Mathlib.Data.Finset.Dedup
import NarrativePlayer.CommandLine
import NarrativePlayer.Proofs.Review.Findings
import NarrativePlayer.Proofs.Review.Soundness

/-!
Contract: how many errors a review finds, and what a check of a file answers.

Owns the count of errors by what is wrong with the ids of a story: the start, the passages to ids that are
not declared, each as often as it is written, and the ids that repeat, each once. Owns also that no other
check finds an error, so that a check succeeds exactly if there is nothing of the kind.

Does not own the files that cannot be read: a check of these fails before there is a story.
-/

namespace NarrativePlayer

namespace Story

/-- The ids that scenes lead to, each with its scene, as often as they are written. -/
def passages (story : Story) : List (Scene × String) :=
  story.scenes.flatMap fun scene => scene.successors.map fun target => (scene, target)

/-- The passages to ids that are not declared. -/
def strayPassages (story : Story) : Nat :=
  story.passages.countP fun passage => !story.declares passage.2

/-- The ids that are declared at least twice. -/
def repeatedIds (story : Story) : Finset String :=
  (story.scenes.map Scene.id).toFinset.filter fun id => 2 ≤ (story.scenes.map Scene.id).count id

variable {story : Story}

theorem strayPassages_eq_zero_iff : story.strayPassages = 0 ↔
    ∀ scene ∈ story.scenes, ∀ target ∈ scene.successors, story.declares target = true := by
  unfold strayPassages passages
  rw [List.countP_eq_zero]
  constructor
  · intro none scene here target leads
    have passage := none (scene, target)
      (List.mem_flatMap.mpr ⟨scene, here, List.mem_map_of_mem leads⟩)
    simpa using passage
  · intro declared passage member
    obtain ⟨scene, here, written⟩ := List.mem_flatMap.mp member
    obtain ⟨target, leads, rfl⟩ := List.mem_map.mp written
    simp [declared scene here target leads]

theorem mem_repeatedIds {id : String} :
    id ∈ story.repeatedIds ↔ 2 ≤ (story.scenes.map Scene.id).count id := by
  unfold repeatedIds
  rw [Finset.mem_filter, List.mem_toFinset, ← List.count_pos_iff]
  omega

theorem card_repeatedIds_eq_zero_iff :
    story.repeatedIds.card = 0 ↔ (story.scenes.map Scene.id).Nodup := by
  rw [Finset.card_eq_zero, Finset.eq_empty_iff_forall_notMem, List.nodup_iff_count_le_one]
  refine forall_congr' fun id => ?_
  rw [mem_repeatedIds]
  omega

end Story

namespace Review

/-! ## Errors of a check -/

theorem count_append (severity : Severity) (first second : List Finding) :
    count severity (first ++ second) = count severity first + count severity second := by
  unfold count
  exact List.countP_append

/-- Findings that are errors anyway are all counted. -/
theorem count_error_eq_length {findings : List Finding}
    (grave : ∀ finding ∈ findings, finding.severity = .error) : count .error findings = findings.length := by
  unfold count
  exact List.countP_eq_length.mpr fun finding member => decide_eq_true (grave finding member)

theorem count_error_undeclaredStart (story : Story) :
    count .error (undeclaredStart story) = if story.declares story.start then 0 else 1 := by
  unfold undeclaredStart
  split <;> rfl

theorem count_error_undeclaredTargets (story : Story) :
    count .error (undeclaredTargets story) = story.strayPassages := by
  have grave : ∀ finding ∈ undeclaredTargets story, finding.severity = .error := by
    intro finding member
    obtain ⟨scene, -, stray⟩ := List.mem_flatMap.mp member
    obtain ⟨target, -, rfl⟩ := List.mem_map.mp stray
    rfl
  rw [count_error_eq_length grave]
  unfold undeclaredTargets Story.strayPassages Story.passages
  rw [List.length_flatMap, List.countP_flatMap]
  congr 1
  refine List.map_congr_left fun scene _ => ?_
  rw [List.length_map, Function.comp_apply, List.countP_map, List.countP_eq_length_filter]
  rfl

/-- The repeated ids are reported without repetition, so that there are as many of them. -/
theorem count_error_repeatedIds (story : Story) :
    count .error (repeatedIds story) = story.repeatedIds.card := by
  have grave : ∀ finding ∈ repeatedIds story, finding.severity = .error := by
    intro finding member
    obtain ⟨id, -, rfl⟩ := List.mem_map.mp member
    rfl
  have reported : ∀ id, (repeatedAfter [] (story.scenes.map Scene.id)).count id =
      if 2 ≤ (story.scenes.map Scene.id).count id then 1 else 0 := by
    intro id
    rw [count_repeatedAfter, List.count_nil, Nat.zero_add]
    simp
  have distinct : (repeatedAfter [] (story.scenes.map Scene.id)).Nodup := by
    refine List.nodup_iff_count_le_one.mpr fun id => ?_
    rw [reported]
    split <;> omega
  have same : (repeatedAfter [] (story.scenes.map Scene.id)).toFinset = story.repeatedIds := by
    ext id
    rw [List.mem_toFinset, ← List.count_pos_iff, reported, Story.mem_repeatedIds]
    split <;> simp_all
  rw [count_error_eq_length grave, ← same, List.toFinset_card_of_nodup distinct]
  exact List.length_map _

/-! ## Errors of a review -/

/-- What is wrong with ids is all that a review calls an error. -/
theorem topic_of_error {finding : Finding} (grave : finding.severity = .error) :
    finding.topic = .references := by
  cases finding with
  | undeclaredStart start => rfl
  | undeclaredTarget scene target => rfl
  | repeatedId scene => rfl
  | _ => cases grave

theorem count_error_eq_zero {findings : List Finding}
    (other : ∀ finding ∈ findings, finding.topic ≠ .references) : count .error findings = 0 := by
  refine List.countP_eq_zero.mpr fun finding member grave => ?_
  exact other finding member (topic_of_error (of_decide_eq_true grave))

theorem count_error_review (settings : Settings) (story : Story)
    (asked : settings.references = ⟨true, true⟩) :
    count .error (review settings story) =
      (if story.declares story.start then 0 else 1) + story.strayPassages + story.repeatedIds.card := by
  have references : count .error (checkReferences settings.references story) =
      (if story.declares story.start then 0 else 1) + story.strayPassages + story.repeatedIds.card := by
    rw [asked]
    unfold checkReferences
    rw [count_append, count_append, count_error_undeclaredStart, count_error_undeclaredTargets, if_pos rfl,
      count_error_repeatedIds]
  have flow : count .error (if settings.flow.enabled then checkFlow settings.flow story else []) = 0 := by
    refine count_error_eq_zero fun finding member isReference => ?_
    have checked := (List.mem_ite_nil_right.mp member).2
    cases isReference.symm.trans (topic_of_mem_checkFlow checked)
  have quality :
      count .error (if settings.quality.enabled then checkQuality settings.quality story else []) = 0 := by
    refine count_error_eq_zero fun finding member isReference => ?_
    have checked := (List.mem_ite_nil_right.mp member).2
    cases isReference.symm.trans (topic_of_mem_checkQuality checked)
  unfold review
  rw [count_append, count_append, flow, quality, if_pos (by rw [asked]), references, Nat.add_zero]

theorem hasErrors_eq_false_iff {findings : List Finding} :
    hasErrors findings = false ↔ count .error findings = 0 := by
  unfold hasErrors count
  rw [List.any_eq_false, List.countP_eq_zero]

end Review

/-! ## The exit code -/

theorem Story.closed_and_nodup_iff {story : Story} :
    story.Closed ∧ (story.scenes.map Scene.id).Nodup ↔
      (if story.declares story.start then 0 else 1) + story.strayPassages + story.repeatedIds.card = 0 := by
  rw [Nat.add_eq_zero_iff, Nat.add_eq_zero_iff, card_repeatedIds_eq_zero_iff, strayPassages_eq_zero_iff]
  refine and_congr_left fun _ => ⟨fun closed => ⟨if_pos closed.start, closed.successors⟩, ?_⟩
  rintro ⟨start, successors⟩
  exact ⟨by simpa using start, successors⟩

namespace CommandLine

/-- The number of errors that the standard review finds is one for an undeclared start, and one for every
passage to an undeclared id, as often as it is written, and one for every id that is declared twice or more
often. So the check of a file with a story succeeds if the start and all that scenes lead to are declared and
no id is declared twice, and fails otherwise. -/
theorem errors_counted (story : Story) :
    Review.count .error (Review.review .standard story) =
      (if story.declares story.start then 0 else 1) + story.strayPassages + story.repeatedIds.card ∧
    ∀ path rest contentOf input bound, load path (contentOf path) = .ok story →
      ∃ exit cues, run ("check" :: path :: rest) contentOf input bound = some (exit, cues) ∧
        (exit = 0 ∨ exit = 1) ∧ (exit = 0 ↔ story.Closed ∧ (story.scenes.map Scene.id).Nodup) := by
  have counted := Review.count_error_review .standard story rfl
  refine ⟨counted, fun path rest contentOf input bound loaded => ?_⟩
  have checked : run ("check" :: path :: rest) contentOf input bound = some (checkStory story) := by
    simp only [run, orderOf, checkFile, loaded]
  have succeeds : Review.hasErrors (Review.review .standard story) = false ↔
      story.Closed ∧ (story.scenes.map Scene.id).Nodup := by
    rw [Review.hasErrors_eq_false_iff, counted, Story.closed_and_nodup_iff]
  refine ⟨if Review.hasErrors (Review.review .standard story) then 1 else 0, _, checked, ?_⟩
  rw [← succeeds]
  cases Review.hasErrors (Review.review .standard story) with
  | false => exact ⟨.inl rfl, iff_of_true rfl rfl⟩
  | true => exact ⟨.inr rfl, iff_of_false Nat.one_ne_zero Bool.noConfusion⟩

/-- A story of two sequences, of which the first leads to "b". The second has an id that is given. -/
def pairStory (second : String) : Story where
  id := "s"
  version := "1"
  store := .empty
  start := "a"
  scenes :=
    [.sequence ⟨"a", [], [], some "b", none, .empty, false⟩,
      .sequence ⟨second, [], [], none, none, .empty, false⟩]

/-- A file with this story. -/
def pairFile (second : String) : String → Content :=
  fun _ => .ok <| List.map (fun letter => letter.toNat.toUInt8) <|
    "\x7b\"id\":\"s\",\"version\":\"1\",\"start\":\"a\",\"states\":[".toList ++
      "\x7b\"type\":\"sequence\",\"id\":\"a\",\"next\":\"b\"\x7d,".toList ++
      "\x7b\"type\":\"sequence\",\"id\":\"".toList ++ second.toList ++ "\"\x7d]\x7d".toList

/-- If the second sequence is declared as "a" too, there are two errors: that, and that "b" is missing. -/
theorem pair_checked :
    (load "pair.json" (pairFile "b" "pair.json") = .ok (pairStory "b") ∧
      ∃ cues, run ["check", "pair.json"] (pairFile "b") [] 0 = some (0, cues)) ∧
    load "pair.json" (pairFile "a" "pair.json") = .ok (pairStory "a") ∧
      Review.count .error (Review.review .standard (pairStory "a")) = 2 ∧
      ∃ cues, run ["check", "pair.json"] (pairFile "a") [] 0 = some (1, cues) := by
  have loaded : load "pair.json" (pairFile "b" "pair.json") = .ok (pairStory "b") := by decide +kernel
  have loaded' : load "pair.json" (pairFile "a" "pair.json") = .ok (pairStory "a") := by decide +kernel
  obtain ⟨-, checked⟩ := errors_counted (pairStory "b")
  obtain ⟨counted, checked'⟩ := errors_counted (pairStory "a")
  obtain ⟨exit, cues, ran, -, succeeds⟩ := checked "pair.json" [] (pairFile "b") [] 0 loaded
  obtain ⟨exit', cues', ran', either, succeeds'⟩ := checked' "pair.json" [] (pairFile "a") [] 0 loaded'
  refine ⟨⟨loaded, cues, ?_⟩, loaded', counted.trans (by decide), cues', ?_⟩
  · have closed : (pairStory "b").Closed := ⟨by decide, by decide⟩
    rw [ran, succeeds.mpr ⟨closed, by decide⟩]
  · have fails : exit' ≠ 0 := fun succeeded => absurd (succeeds'.mp succeeded).2 (by decide)
    rw [ran', either.resolve_left fails]

end CommandLine

end NarrativePlayer
