import Mathlib.Data.List.Induction
import NarrativePlayer.Story.Graph

/-!
Contract: which scene an id stands for.

Owns the links between looking an id up, declaring it, and the scenes of a story, and that what a
command can lead to is among the successors of its scene.
-/

namespace NarrativePlayer

namespace Story

theorem mem_scenes_of_find? {story : Story} {id : String} {scene : Scene}
    (found : story.find? id = some scene) : scene ∈ story.scenes := by
  unfold find? at found
  exact List.mem_reverse.mp (List.mem_of_find?_eq_some found)

theorem id_of_find? {story : Story} {id : String} {scene : Scene}
    (found : story.find? id = some scene) : scene.id = id := by
  unfold find? at found
  simpa using List.find?_some found

theorem isSome_find?_iff_declares {story : Story} {id : String} :
    (story.find? id).isSome ↔ story.declares id = true := by
  simp [find?, declares]

theorem exists_find?_of_declares {story : Story} {id : String}
    (declared : story.declares id = true) : ∃ scene, story.find? id = some scene :=
  Option.isSome_iff_exists.mp (isSome_find?_iff_declares.mpr declared)

theorem declares_of_find? {story : Story} {id : String} {scene : Scene}
    (found : story.find? id = some scene) : story.declares id = true :=
  isSome_find?_iff_declares.mp (by simp [found])

/-! ## The index -/

/-- Scenes that are indexed one after the other are found as from the end. The last scene decides for
its own id, so the induction takes scenes off the end. -/
private theorem indexed_scenes (scenes : List Scene) (id : String) :
    let indexed := scenes.zipIdx.foldl
      (fun indexed entry => if entry.1.id = id then some entry.2 else indexed) none
    (∀ position, indexed = some position → position < scenes.length) ∧
      indexed.bind (scenes[·]?) = scenes.reverse.find? fun scene => scene.id = id := by
  induction scenes using List.reverseRecOn with
  | nil =>
      refine ⟨fun position here => ?_, rfl⟩
      cases here
  | append_singleton scenes last inductionHypothesis =>
      obtain ⟨within, same⟩ := inductionHypothesis
      rw [List.zipIdx_append, List.foldl_append, List.reverse_append]
      generalize scenes.zipIdx.foldl _ none = indexed at within same ⊢
      simp only [List.zipIdx_singleton, List.foldl_cons, List.foldl_nil, List.reverse_singleton,
        List.singleton_append, List.length_append, List.length_singleton, Nat.zero_add]
      by_cases isLast : last.id = id
      · rw [if_pos isLast, List.find?_cons_of_pos (by simpa using isLast)]
        refine ⟨?_, ?_⟩
        · rintro position ⟨⟩
          exact Nat.lt_succ_self _
        · simp
      · rw [if_neg isLast, List.find?_cons_of_neg (by simpa using isLast), ← same]
        refine ⟨fun position here => Nat.lt_succ_of_lt (within position here), ?_⟩
        cases indexed with
        | none => rfl
        | some position => exact List.getElem?_append_left (within position rfl)

/-- The index leads from an id to the scene that it stands for. -/
theorem indexed_eq_find? (story : Story) (id : String) :
    (story.position? id).bind (story.scenes[·]?) = story.find? id :=
  (indexed_scenes story.scenes id).2

theorem isSome_position? (story : Story) (id : String) :
    (story.position? id).isSome = story.declares id := by
  have within := (indexed_scenes story.scenes id).1
  have same := story.indexed_eq_find? id
  rw [Bool.eq_iff_iff, ← isSome_find?_iff_declares, ← same]
  cases here : story.position? id with
  | none => rfl
  | some position => simp [within position here]

theorem find_of_some {story : Story} {id : String} {scene : Scene}
    (found : story.find? id = some scene) : story.find id = .ok scene := by
  simp only [find, indexed_eq_find?, found]

theorem find_of_none {story : Story} {id : String} (absent : story.find? id = none) :
    story.find id = .error (.undeclared id) := by
  simp only [find, indexed_eq_find?, absent]

end Story

/-! ## Where commands lead -/

theorem target_mem_successors_of_submission {question : Question} {transition : Transition}
    (taken : question.submission? = some transition) :
    transition.target ∈ (Scene.question question).successors :=
  List.mem_map_of_mem (List.mem_of_find?_eq_some taken)

theorem target_mem_successors_of_offer {choice : Choice} {id : String} {offer : Offer}
    (chosen : choice.offer? id = some offer) :
    offer.target ∈ (Scene.choice choice).successors :=
  List.mem_map_of_mem (List.mem_of_find?_eq_some chosen)

theorem Table.mem_values_of_find? {table : Table} {key value : String}
    (found : table.find? key = some value) : value ∈ table.values := by
  obtain ⟨entry, here, rfl⟩ := Option.map_eq_some_iff.mp found
  exact List.mem_map_of_mem (List.mem_of_find?_eq_some here)

theorem target_mem_successors_of_event {sequence : Sequence} {event target : String}
    (found : sequence.events.find? event = some target) :
    target ∈ (Scene.sequence sequence).successors :=
  List.mem_append_right _ (Table.mem_values_of_find? found)

theorem next_mem_successors {sequence : Sequence} {target : String}
    (unawaited : sequence.awaits = none) (next : sequence.next = some target) :
    target ∈ (Scene.sequence sequence).successors := by
  simp [Scene.successors, unawaited, next]

/-- The ids that a story can lead to: its start, and the successors of its scenes. -/
def Story.Mentions (story : Story) (target : String) : Prop :=
  target = story.start ∨ ∃ id scene, story.find? id = some scene ∧ target ∈ scene.successors

/-! ## A story with scenes of every kind -/

/-- Two sequences lead to a question, the answer to a choice, and the choice to a parting that waits to
be acknowledged. -/
def Story.sample : Story where
  id := "sample"
  version := "1"
  store := .empty
  start := "greeting"
  scenes :=
    [.sequence
        { id := "greeting"
          lines := [⟨"Hello.", 5, false, none⟩]
          actions := [.set "met" (some "yes") false]
          next := some "asking"
          awaits := none
          events := .empty
          terminal := false },
      .sequence
        { id := "asking"
          lines := [⟨"Who are you?", 0, true, some 2⟩]
          actions := []
          next := some "name"
          awaits := none
          events := .empty
          terminal := false },
      .question
        { id := "name"
          field := ⟨"name", "Name", none, none, some 8, false⟩
          transitions := [⟨submitEvent, [.minLength 1], [.set "name" none true], "way"⟩] },
      .choice ⟨"way", "Where to, {name}?", [⟨"on", "On", [], "parting"⟩]⟩,
      .sequence
        { id := "parting"
          lines := [⟨"Farewell, {name}.", 3, false, none⟩]
          actions := []
          next := some "greeting"
          awaits := some enterEvent
          events := .ofList [(enterEvent, "end")]
          terminal := false },
      .sequence
        { id := "end"
          lines := []
          actions := []
          next := none
          awaits := none
          events := .empty
          terminal := true }]

end NarrativePlayer
