import NarrativePlayer.Proofs.Review.IdWalk
import NarrativePlayer.Proofs.Session.SiftedSession
import NarrativePlayer.Review.Basic

/-!
Contract: guards and actions of unknown kinds.

Stories that differ only in them may have been written for players that know more kinds. Owns that no
check of a review looks at what a sieve holds back, and that such stories are played alike: the only
trace of an unknown kind is that an offer is shown with all its actions.
-/

namespace NarrativePlayer

namespace Review

/-! ## The review of a sifted story -/

section

variable (sieve : Sieve) (story : Story)

theorem declares_sifted (id : String) : (sieve.story story).declares id = story.declares id :=
  (sieve.readsAs_story story).declares id

theorem successorsOf_sifted (id : String) :
    successorsOf (sieve.story story) id = successorsOf story id := by
  unfold successorsOf
  rw [sieve.find?_story]
  cases story.find? id with
  | none => rfl
  | some scene => exact sieve.successors_scene scene

theorem undeclaredStart_sifted : undeclaredStart (sieve.story story) = undeclaredStart story := by
  unfold undeclaredStart
  rw [declares_sifted]
  rfl

theorem undeclaredTargets_sifted :
    undeclaredTargets (sieve.story story) = undeclaredTargets story := by
  unfold undeclaredTargets
  simp only [declares_sifted]
  show (story.scenes.map sieve.scene).flatMap _ = _
  simp only [List.flatMap_map, Sieve.successors_scene, Sieve.id_scene]

theorem ids_sifted : (sieve.story story).scenes.map Scene.id = story.scenes.map Scene.id := by
  show (story.scenes.map sieve.scene).map Scene.id = _
  simp only [List.map_map, Function.comp_def, Sieve.id_scene]

theorem repeatedIds_sifted : repeatedIds (sieve.story story) = repeatedIds story := by
  unfold repeatedIds
  rw [ids_sifted]

theorem unreachable_sifted : unreachable (sieve.story story) = unreachable story := by
  have reached : reachable (sieve.story story) = reachable story :=
    reachable_congr rfl (declares_sifted sieve story _) (successorsOf_sifted sieve story)
  unfold unreachable
  rw [reached, ids_sifted]
  rfl

theorem deadEnd_sifted (scene : Scene) : deadEnd (sieve.scene scene) = deadEnd scene := by
  cases scene with
  | sequence body => rfl
  | question body =>
      simp only [Sieve.scene, deadEnd, sieve.submission?_question, Option.isNone_map]
      rfl
  | choice body =>
      simp only [Sieve.scene, deadEnd, Sieve.choice, List.isEmpty_map]

theorem neverTaken_sifted (scene : Scene) : neverTaken (sieve.scene scene) = neverTaken scene := by
  cases scene <;> rfl

theorem deadEnds_sifted : deadEnds (sieve.story story) = deadEnds story := by
  show (story.scenes.map sieve.scene).flatMap _ = _
  simp only [List.flatMap_map, deadEnd_sifted, neverTaken_sifted]
  rfl

/-- The actions of the sifted scene are those of the scene, sifted, wherever in the scene they stand. -/
theorem actionsOf_sifted (scene : Scene) : actionsOf (sieve.scene scene) = sieve.actions (actionsOf scene) := by
  cases scene with
  | sequence body => rfl
  | question body =>
      show (body.transitions.map sieve.transition).flatMap Transition.actions = _
      rw [List.flatMap_map, actionsOf, Sieve.actions, List.filter_flatMap]
      rfl
  | choice body =>
      show (body.offers.map sieve.offer).flatMap Offer.actions = _
      rw [List.flatMap_map, actionsOf, Sieve.actions, List.filter_flatMap]
      rfl

theorem variables_sifted (actions : List Action) :
    (sieve.actions actions).filterMap variableOf? = actions.filterMap variableOf? := by
  unfold Sieve.actions
  rw [List.filterMap_filter]
  congr 1
  funext action
  split
  · rfl
  · rename_i held
    rw [sieve.action_unknown action (Bool.eq_false_iff.mpr held)]
    rfl

theorem assignedVariables_sifted :
    assignedVariables (sieve.story story) = assignedVariables story := by
  have actions : (story.scenes.map sieve.scene).flatMap actionsOf =
      sieve.actions (story.scenes.flatMap actionsOf) := by
    simp only [List.flatMap_map, actionsOf_sifted, Sieve.actions, List.filter_flatMap]
  show story.store.keys ++ ((story.scenes.map sieve.scene).flatMap actionsOf).filterMap _ = _
  rw [actions, variables_sifted]
  rfl

theorem templatesOf_sifted (scene : Scene) : templatesOf (sieve.scene scene) = templatesOf scene := by
  cases scene <;> rfl

theorem unsetVariables_sifted : unsetVariables (sieve.story story) = unsetVariables story := by
  unfold unsetVariables
  rw [assignedVariables_sifted]
  show (story.scenes.map sieve.scene).flatMap _ = _
  simp only [List.flatMap_map, templatesOf_sifted, Sieve.id_scene]

theorem longTexts_sifted (limit : Nat) :
    longTexts limit (sieve.story story) = longTexts limit story := by
  show (story.scenes.map sieve.scene).flatMap _ = _
  simp only [List.flatMap_map, templatesOf_sifted, Sieve.id_scene]
  rfl

/-- No check looks at what a sieve holds back. -/
theorem review_sifted (settings : Settings) : review settings (sieve.story story) = review settings story := by
  simp only [review, checkReferences, checkFlow, checkQuality, undeclaredStart_sifted,
    undeclaredTargets_sifted, repeatedIds_sifted, unreachable_sifted, deadEnds_sifted,
    unsetVariables_sifted, longTexts_sifted]

end

end Review

/-! ## What was removed once -/

namespace Sieve

theorem actions_actions (sieve : Sieve) (actions : List Action) :
    sieve.actions (sieve.actions actions) = sieve.actions actions := by
  unfold Sieve.actions
  rw [List.filter_filter]
  simp only [Bool.and_self]

theorem guards_guards (sieve : Sieve) (guards : List Guard) :
    sieve.guards (sieve.guards guards) = sieve.guards guards := by
  unfold Sieve.guards
  rw [List.filter_filter]
  simp only [Bool.and_self]

theorem transition_transition (sieve : Sieve) (transition : Transition) :
    sieve.transition (sieve.transition transition) = sieve.transition transition := by
  simp only [Sieve.transition, actions_actions, guards_guards]

theorem offer_offer (sieve : Sieve) (offer : Offer) :
    sieve.offer (sieve.offer offer) = sieve.offer offer := by
  simp only [Sieve.offer, actions_actions]

theorem scene_scene (sieve : Sieve) (scene : Scene) :
    sieve.scene (sieve.scene scene) = sieve.scene scene := by
  cases scene with
  | sequence body => simp only [Sieve.scene, Sieve.sequence, actions_actions]
  | question body =>
      simp only [Sieve.scene, Sieve.question, List.map_map, Function.comp_def, transition_transition]
  | choice body =>
      simp only [Sieve.scene, Sieve.choice, List.map_map, Function.comp_def, offer_offer]

/-- What passed a sieve passes it again. -/
theorem story_story (sieve : Sieve) (story : Story) :
    sieve.story (sieve.story story) = sieve.story story := by
  simp only [Sieve.story, List.map_map, Function.comp_def, scene_scene]

end Sieve

namespace Session

/-- What is noticed of a step of a session, but for actions of unknown kinds among those that offers are
shown with. -/
structure Glimpse where
  answer : Answer
  position : Position
  clock : Nat
  /-- Latest first. -/
  events : List Event
deriving DecidableEq, Repr

def glimpse (taken : State × Answer) : Glimpse where
  answer := taken.2
  position := taken.1.position
  clock := taken.1.clock
  events := taken.1.trace.map Sieve.known.event

/-- What is seen is what the sifted session shows. -/
theorem glimpse_eq (taken : State × Answer) :
    glimpse taken =
      let sifted := Sieve.known.outcome taken
      ⟨sifted.2, sifted.1.position, sifted.1.clock, sifted.1.trace⟩ := rfl

/-- Stories that are the same once all guards and actions of unknown kinds are removed, wherever those
stand and however many they are, are played and reviewed alike. A session opens on both in the same state,
or on neither for the same reason; every run shows the same, step by step, and so does every vigil; and
every review finds the same. The only exception are the offers that a terminal shows: it is handed each
with all the actions that its story gives it. -/
theorem unknown_kinds_inert {first second : Story}
    (same : Sieve.known.story first = Sieve.known.story second) (journal : Journal.Settings) :
    State.opening first = State.opening second ∧
    (∀ initial, State.opening first = .ok initial →
      (∀ bound steps,
        (initial.run ⟨first, journal⟩ bound steps).map (List.map glimpse) =
          (initial.run ⟨second, journal⟩ bound steps).map (List.map glimpse)) ∧
      ∀ turns,
        ((Vigil.opening initial).attend ⟨first, journal⟩ turns).sifted .known =
          ((Vigil.opening initial).attend ⟨second, journal⟩ turns).sifted .known) ∧
    ∀ settings, Review.review settings first = Review.review settings second := by
  have reads := Sieve.known.readsAs_story
  have opened : State.opening first = State.opening second := by
    rw [← State.opening_sifted (reads first), same, State.opening_sifted (reads second)]
  refine ⟨opened, fun initial here => ⟨?_, ?_⟩, ?_⟩
  · intro bound steps
    have sifted : ∀ story : Story,
        (initial.run ⟨story, journal⟩ bound steps).map (List.map Sieve.known.outcome) =
          (Sieve.known.state initial).run ⟨Sieve.known.story story, journal⟩ bound steps :=
      fun story =>
        (@State.run_sifted _ ⟨story, journal⟩ _ (reads story) bound initial steps).symm
    have alike : (initial.run ⟨first, journal⟩ bound steps).map (List.map Sieve.known.outcome) =
        (initial.run ⟨second, journal⟩ bound steps).map (List.map Sieve.known.outcome) := by
      rw [sifted, sifted, same]
    have shown := congrArg (Option.map (List.map fun taken : State × Answer =>
      Glimpse.mk taken.2 taken.1.position taken.1.clock taken.1.trace)) alike
    simpa only [Option.map_map, Function.comp_def, List.map_map, ← glimpse_eq] using shown
  · intro turns
    have sifted : ∀ story : Story, ((Vigil.opening initial).attend ⟨story, journal⟩ turns).sifted .known =
        ((Vigil.opening initial).sifted .known).attend ⟨Sieve.known.story story, journal⟩ turns :=
      fun story => (@Vigil.attend_sifted _ ⟨story, journal⟩ _ (reads story) _ turns).symm
    rw [sifted, sifted, same]
  · intro settings
    rw [← Review.review_sifted .known, same, Review.review_sifted]

/-- A choice whose option does something of a kind that is not known, and a question with a guard and an
action of such kinds. -/
def unfamiliar : Story where
  id := "unfamiliar"
  version := "1"
  store := .empty
  start := "way"
  scenes :=
    [.choice ⟨"way", "Where to?", [⟨"on", "On", [.unknown], "name"⟩]⟩,
      .question
        { id := "name"
          field := ⟨"name", "Name", none, none, none, true⟩
          transitions :=
            [⟨submitEvent, [.unknown, .minLength 2], [.set "name" none true, .unknown], "way"⟩] }]

theorem sample_unfamiliar :
    let lean := Sieve.known.story unfamiliar
    let steps := [Step.move (.command .start), .move (.command (.choose "on")),
      .move (.command (.submit "A")), .settle none]
    lean ≠ unfamiliar ∧
      (((State.initial .empty).run ⟨lean, .silent⟩ 9 steps).map (List.map glimpse)).isSome = true ∧
      ((State.initial .empty).run ⟨unfamiliar, .silent⟩ 9 steps).map (List.map glimpse) =
        ((State.initial .empty).run ⟨lean, .silent⟩ 9 steps).map (List.map glimpse) ∧
      Review.review .standard unfamiliar = Review.review .standard lean := by
  intro lean steps
  have same : Sieve.known.story unfamiliar = Sieve.known.story lean :=
    (Sieve.known.story_story unfamiliar).symm
  have opened : State.opening unfamiliar = .ok (.initial .empty) := by decide +kernel
  obtain ⟨-, played, reviewed⟩ := unknown_kinds_inert same .silent
  exact ⟨by decide +kernel, by decide +kernel, (played _ opened).1 9 steps, reviewed .standard⟩

/-- A terminal is handed the unknown actions of an offer, so not all calls stay as they are without them. -/
theorem unknown_action_shown :
    let start := fun story => (State.initial .empty).start ⟨story, .silent⟩
    State.opening unfamiliar = .ok (.initial .empty) ∧
      (start unfamiliar).1.calls =
        [.clear, .changed "way" (.waiting .choice),
          .showChoices "Where to?" [⟨"on", "On", [.unknown], "name"⟩]] ∧
      (start (Sieve.known.story unfamiliar)).1.calls =
        [.clear, .changed "way" (.waiting .choice),
          .showChoices "Where to?" [⟨"on", "On", [], "name"⟩]] ∧
      (start (Sieve.known.story unfamiliar)).1.calls ≠ (start unfamiliar).1.calls := by
  decide +kernel

end Session

end NarrativePlayer
