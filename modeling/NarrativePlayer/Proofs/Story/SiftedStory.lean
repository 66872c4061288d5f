import NarrativePlayer.Answer
import NarrativePlayer.Proofs.Story.Lookup

/-!
Contract: stories of which some guards and actions are sifted out.

A sieve holds back guards and actions, but none that does anything: only those of unknown kinds. Owns that
what passes judges answers and sets variables as all of it did, and that every id stands for the sifted
form of the scene that it stood for. One sieve holds nothing back; through it, two stories read as the
same if every id stands for the same scene in both.
-/

namespace NarrativePlayer

/-- Which guards and actions of a story pass. Those that do not have no effect. -/
structure Sieve where
  passesGuard : Guard → Bool
  passesAction : Action → Bool
  guard_unknown : ∀ guard, passesGuard guard = false → guard = .unknown
  action_unknown : ∀ action, passesAction action = false → action = .unknown

namespace Sieve

/-- Everything passes. -/
def all : Sieve where
  passesGuard := fun _ => true
  passesAction := fun _ => true
  guard_unknown := fun _ held => Bool.noConfusion held
  action_unknown := fun _ held => Bool.noConfusion held

/-- All that is of a known kind passes. -/
def known : Sieve where
  passesGuard := fun guard => guard ≠ .unknown
  passesAction := fun action => action ≠ .unknown
  guard_unknown := fun _ held => Decidable.not_not.mp (of_decide_eq_false held)
  action_unknown := fun _ held => Decidable.not_not.mp (of_decide_eq_false held)

variable (sieve : Sieve)

def guards (guards : List Guard) : List Guard :=
  guards.filter sieve.passesGuard

def actions (actions : List Action) : List Action :=
  actions.filter sieve.passesAction

def sequence (body : Sequence) : Sequence :=
  { body with actions := sieve.actions body.actions }

def transition (transition : Transition) : Transition :=
  { transition with
    guards := sieve.guards transition.guards, actions := sieve.actions transition.actions }

def question (body : Question) : Question :=
  { body with transitions := body.transitions.map sieve.transition }

def offer (offer : Offer) : Offer :=
  { offer with actions := sieve.actions offer.actions }

def choice (body : Choice) : Choice :=
  { body with offers := body.offers.map sieve.offer }

def scene : Scene → Scene
  | .sequence body => .sequence (sieve.sequence body)
  | .question body => .question (sieve.question body)
  | .choice body => .choice (sieve.choice body)

/-- The sifted story. -/
def story (story : Story) : Story :=
  { story with scenes := story.scenes.map sieve.scene }

/-! ## Guards and actions -/

theorem complaint?_guards (guards : List Guard) (answer : String) :
    complaint? (sieve.guards guards) answer = complaint? guards answer := by
  induction guards with
  | nil => rfl
  | cons guard rest inductionHypothesis =>
      unfold complaint? Sieve.guards at *
      rw [List.filter_cons]
      split
      · rw [List.findSome?_cons, List.findSome?_cons, inductionHypothesis]
      · rename_i held
        rw [sieve.guard_unknown guard (Bool.eq_false_iff.mpr held), inductionHypothesis]
        rfl

theorem applyActions_actions (submitted : Option String) (actions : List Action) (store : Table) :
    applyActions submitted (sieve.actions actions) store = applyActions submitted actions store := by
  induction actions generalizing store with
  | nil => rfl
  | cons action rest inductionHypothesis =>
      unfold applyActions Sieve.actions at *
      rw [List.filter_cons, List.foldl_cons, ← inductionHypothesis]
      split
      · rfl
      · rename_i held
        rw [sieve.action_unknown action (Bool.eq_false_iff.mpr held)]
        rfl

theorem assignments_actions (submitted : Option String) (actions : List Action) :
    assignments submitted (sieve.actions actions) = assignments submitted actions := by
  induction actions with
  | nil => rfl
  | cons action rest inductionHypothesis =>
      unfold assignments Sieve.actions at *
      rw [List.filter_cons]
      split
      · rw [List.filterMap_cons, List.filterMap_cons, inductionHypothesis]
      · rename_i held
        rw [sieve.action_unknown action (Bool.eq_false_iff.mpr held), inductionHypothesis]
        rfl

/-! ## Scenes -/

@[simp] theorem id_scene (scene : Scene) : (sieve.scene scene).id = scene.id := by
  cases scene <;> rfl

@[simp] theorem kind_scene (scene : Scene) : (sieve.scene scene).kind = scene.kind := by
  cases scene <;> rfl

@[simp] theorem isTerminal_scene (scene : Scene) :
    (sieve.scene scene).isTerminal = scene.isTerminal := by
  cases scene <;> rfl

@[simp] theorem successors_scene (scene : Scene) :
    (sieve.scene scene).successors = scene.successors := by
  cases scene with
  | sequence body => rfl
  | question body =>
      show (body.transitions.map sieve.transition).map Transition.target = _
      rw [List.map_map]
      rfl
  | choice body =>
      show (body.offers.map sieve.offer).map Offer.target = _
      rw [List.map_map]
      rfl

theorem submission?_question (body : Question) :
    (sieve.question body).submission? = body.submission?.map sieve.transition := by
  show (body.transitions.map sieve.transition).find? _ = _
  rw [List.find?_map]
  rfl

theorem offer?_choice (body : Choice) (id : String) :
    (sieve.choice body).offer? id = (body.offer? id).map sieve.offer := by
  show (body.offers.map sieve.offer).find? _ = _
  rw [List.find?_map]
  rfl

theorem asSequence_scene (scene : Scene) :
    (sieve.scene scene).asSequence = scene.asSequence.map sieve.sequence := by
  cases scene <;> rfl

theorem asQuestion_scene (scene : Scene) :
    (sieve.scene scene).asQuestion = scene.asQuestion.map sieve.question := by
  cases scene <;> rfl

theorem asChoice_scene (scene : Scene) :
    (sieve.scene scene).asChoice = scene.asChoice.map sieve.choice := by
  cases scene <;> rfl

theorem find?_story (story : Story) (id : String) :
    (sieve.story story).find? id = (story.find? id).map sieve.scene := by
  show (story.scenes.map sieve.scene).reverse.find? _ = _
  rw [← List.map_reverse, List.find?_map]
  simp only [Function.comp_def, id_scene]
  rfl

/-! ## The sieve that holds nothing back -/

theorem actions_all (actions : List Action) : all.actions actions = actions :=
  List.filter_eq_self.mpr fun _ _ => rfl

theorem guards_all (guards : List Guard) : all.guards guards = guards :=
  List.filter_eq_self.mpr fun _ _ => rfl

theorem offer_all (offer : Offer) : all.offer offer = offer := by
  simp only [Sieve.offer, actions_all]

theorem sequence_all (body : Sequence) : all.sequence body = body := by
  simp only [Sieve.sequence, actions_all]

theorem transition_all (transition : Transition) : all.transition transition = transition := by
  simp only [Sieve.transition, actions_all, guards_all]

theorem scene_all (scene : Scene) : all.scene scene = scene := by
  cases scene with
  | sequence body => simp only [Sieve.scene, sequence_all]
  | question body =>
      simp only [Sieve.scene, Sieve.question, List.map_congr_left fun other _ => transition_all other,
        List.map_id_fun', id]
  | choice body =>
      simp only [Sieve.scene, Sieve.choice, List.map_congr_left fun other _ => offer_all other,
        List.map_id_fun', id]

end Sieve

/-! ## Stories that read as others -/

/-- Through a sieve, a story reads as another: they begin in the same way, and every id stands in the
other for the sifted form of what it stands for in the one. -/
structure Story.ReadsAs (sieve : Sieve) (story lean : Story) : Prop where
  id : lean.id = story.id
  version : lean.version = story.version
  store : lean.store = story.store
  start : lean.start = story.start
  find? : ∀ id, lean.find? id = (story.find? id).map sieve.scene

theorem Sieve.readsAs_story (sieve : Sieve) (story : Story) : story.ReadsAs sieve (sieve.story story) :=
  ⟨rfl, rfl, rfl, rfl, sieve.find?_story story⟩

theorem Story.ReadsAs.find {sieve : Sieve} {story lean : Story} (reads : story.ReadsAs sieve lean)
    (id : String) : lean.find id = (story.find id).map sieve.scene := by
  have same := reads.find? id
  cases found : story.find? id with
  | none =>
      rw [found] at same
      rw [Story.find_of_none found, Story.find_of_none same]
      rfl
  | some scene =>
      rw [found] at same
      rw [Story.find_of_some found, Story.find_of_some same]
      rfl

/-- What is selected of the scene that an id stands for is sifted, if what is selected of scenes is. -/
theorem Story.ReadsAs.find_bind {sieve : Sieve} {story lean : Story} (reads : story.ReadsAs sieve lean)
    {α : Type} {select : Scene → Except Trouble α} {sift : α → α}
    (commutes : ∀ scene, select (sieve.scene scene) = (select scene).map sift) (id : String) :
    lean.find id >>= select = (story.find id >>= select).map sift := by
  rw [reads.find id]
  cases story.find id with
  | error trouble => rfl
  | ok scene => exact commutes scene

theorem Story.ReadsAs.declares {sieve : Sieve} {story lean : Story}
    (reads : story.ReadsAs sieve lean) (id : String) : lean.declares id = story.declares id := by
  rw [Bool.eq_iff_iff, ← Story.isSome_find?_iff_declares, ← Story.isSome_find?_iff_declares,
    reads.find? id, Option.isSome_map]

end NarrativePlayer
