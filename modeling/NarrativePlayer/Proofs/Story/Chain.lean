import Mathlib.Logic.Relation
import NarrativePlayer.Proofs.Story.Lookup

/-!
Contract: the chains of scenes that a story walks by itself.

A sequence that does not wait leads on to its next scene without any command. Owns the chain that begins
with an id, and the chains that visit no scene twice. A chain that goes on has as many declared ids as
one likes, so one that visits none of them twice is over after as many steps as there are scenes. All
chains are of this kind exactly if none leads back to where it began.
-/

namespace NarrativePlayer

/-- The scene that a sequence leads on to by itself, once it is performed. -/
def Sequence.onward? (sequence : Sequence) : Option String :=
  if sequence.terminal || sequence.awaits.isSome then none else sequence.next

namespace Story

/-- The id that an id leads on to by itself. -/
def onward? (story : Story) (id : String) : Option String :=
  match story.find? id with
  | some (.sequence body) => body.onward?
  | _ => none

theorem onward?_of_find? {story : Story} {id : String} {body : Sequence}
    (found : story.find? id = some (.sequence body)) : story.onward? id = body.onward? := by
  unfold onward?
  rw [found]

theorem declares_of_onward? {story : Story} {id target : String}
    (leads : story.onward? id = some target) : story.declares id = true := by
  unfold onward? at leads
  split at leads
  · rename_i found
    exact declares_of_find? found
  · cases leads

/-- The ids that are visited from an id on, with at most `more` behind it. -/
def chain (story : Story) : Nat → String → List String
  | 0, id => [id]
  | more + 1, id =>
      match story.onward? id with
      | some target => id :: chain story more target
      | none => [id]

/-- The chain from an id on visits none twice, as far as it can be without going in a circle. -/
def Straight (story : Story) (id : String) : Prop :=
  (story.chain story.scenes.length id).Nodup

instance (story : Story) (id : String) : Decidable (story.Straight id) :=
  inferInstanceAs (Decidable (List.Nodup _))

/-- The chain from an id on is over within a number of steps. -/
def EndsWithin (story : Story) : Nat → String → Prop
  | 0, id => story.onward? id = none
  | more + 1, id => ∀ target, story.onward? id = some target → EndsWithin story more target

/-- A chain that is not over has visited declared ids only. -/
theorem chain_of_not_endsWithin {story : Story} {more : Nat} {id : String}
    (goesOn : ¬ story.EndsWithin more id) :
    (story.chain more id).length = more + 1 ∧
      ∀ visited ∈ story.chain more id, story.declares visited = true := by
  induction more generalizing id with
  | zero =>
      obtain ⟨target, leads⟩ := Option.ne_none_iff_exists'.mp goesOn
      refine ⟨rfl, fun visited member => ?_⟩
      rw [List.mem_singleton.mp member]
      exact declares_of_onward? leads
  | succ more inductionHypothesis =>
      simp only [EndsWithin, Classical.not_forall] at goesOn
      obtain ⟨target, leads, further⟩ := goesOn
      obtain ⟨length, declared⟩ := inductionHypothesis further
      have unfolded : story.chain (more + 1) id = id :: story.chain more target := by
        rw [chain, leads]
      rw [unfolded]
      refine ⟨congrArg (· + 1) length, fun visited member => ?_⟩
      rcases List.mem_cons.mp member with isFirst | later
      · rw [isFirst]
        exact declares_of_onward? leads
      · exact declared visited later

theorem endsWithin_of_straight {story : Story} {id : String} (straight : story.Straight id) :
    story.EndsWithin story.scenes.length id := by
  apply Classical.byContradiction
  intro goesOn
  obtain ⟨length, declared⟩ := chain_of_not_endsWithin goesOn
  have amongScenes : story.chain story.scenes.length id ⊆ story.scenes.map Scene.id := by
    intro visited member
    obtain ⟨scene, there, same⟩ := List.any_eq_true.mp (declared visited member)
    rw [← of_decide_eq_true same]
    exact List.mem_map_of_mem there
  have fewer := List.Nodup.length_le_of_subset straight amongScenes
  rw [length, List.length_map] at fewer
  omega

/-- A chain that is over does not change any more. -/
theorem chain_prefix_of_endsWithin {story : Story} {enough : Nat} {id : String}
    (isOver : story.EndsWithin enough id) (more : Nat) :
    story.chain more id <+: story.chain enough id := by
  induction enough generalizing id more with
  | zero =>
      have stops : story.onward? id = none := isOver
      cases more with
      | zero => exact List.prefix_refl _
      | succ more => simp [chain, stops]
  | succ enough inductionHypothesis =>
      cases leads : story.onward? id with
      | none =>
          cases more with
          | zero => simp [chain, leads]
          | succ more => simp [chain, leads]
      | some target =>
          cases more with
          | zero => simp [chain, leads]
          | succ more =>
              have tail := inductionHypothesis (isOver target leads) more
              simpa [chain, leads] using tail

/-- It is enough to look at as many steps as there are scenes. -/
theorem straight_iff {story : Story} {id : String} :
    story.Straight id ↔ ∀ more, (story.chain more id).Nodup := by
  constructor
  · intro straight more
    have isOver := endsWithin_of_straight straight
    exact List.Nodup.sublist (chain_prefix_of_endsWithin isOver more).sublist straight
  · intro never
    exact never story.scenes.length

/-! ## Circles -/

/-- No scene leads back to itself by itself, at once or through others. -/
def Acyclic (story : Story) : Prop :=
  ∀ id, ¬ Relation.TransGen (fun source target => story.onward? source = some target) id id

theorem reflTransGen_of_mem_chain {story : Story} {more : Nat} {id visited : String}
    (member : visited ∈ story.chain more id) :
    Relation.ReflTransGen (fun source target => story.onward? source = some target) id visited := by
  induction more generalizing id with
  | zero =>
      rw [List.mem_singleton.mp member]
  | succ more inductionHypothesis =>
      rw [chain] at member
      split at member
      · rename_i target leads
        rcases List.mem_cons.mp member with isFirst | later
        · rw [isFirst]
        · exact .head leads (inductionHypothesis later)
      · rw [List.mem_singleton.mp member]

/-- A chain visits no scene twice unless it comes to one that leads back to itself. -/
theorem nodup_chain {story : Story} {id : String}
    (apart : ∀ visited,
      Relation.ReflTransGen (fun source target => story.onward? source = some target) id visited →
        ¬ Relation.TransGen (fun source target => story.onward? source = some target) visited visited)
    (more : Nat) : (story.chain more id).Nodup := by
  induction more generalizing id with
  | zero => exact List.pairwise_singleton _ id
  | succ more inductionHypothesis =>
      rw [chain]
      split
      · rename_i target leads
        refine List.nodup_cons.mpr ⟨fun again => ?_, inductionHypothesis fun visited reaches =>
          apart visited (.head leads reaches)⟩
        exact apart id .refl (.head' leads (reflTransGen_of_mem_chain again))
      · exact List.pairwise_singleton _ id

theorem Acyclic.nodup_chain {story : Story} (acyclic : story.Acyclic) (more : Nat) (id : String) :
    (story.chain more id).Nodup :=
  Story.nodup_chain (fun visited _ => acyclic visited) more

/-- What is led to is visited after the beginning. -/
theorem exists_chain_of_transGen {story : Story} {id visited : String}
    (leads : Relation.TransGen (fun source target => story.onward? source = some target) id visited) :
    ∃ more rest, story.chain more id = id :: rest ∧ visited ∈ rest := by
  induction leads using Relation.TransGen.head_induction_on with
  | single leads => exact ⟨1, [visited], by rw [chain, leads]; rfl, List.mem_singleton_self visited⟩
  | @head source target leads _ inductionHypothesis =>
      obtain ⟨more, rest, chained, member⟩ := inductionHypothesis
      refine ⟨more + 1, target :: rest, ?_, List.mem_cons_of_mem target member⟩
      simp only [chain, leads, chained]

/-- It is enough to look at the scenes. -/
theorem acyclic_iff {story : Story} :
    story.Acyclic ↔ ∀ scene ∈ story.scenes, story.Straight scene.id := by
  constructor
  · intro acyclic scene _
    exact acyclic.nodup_chain story.scenes.length scene.id
  · intro straight id circle
    obtain ⟨target, leads, -⟩ := Relation.TransGen.head'_iff.mp circle
    obtain ⟨scene, here, named⟩ := List.any_eq_true.mp (declares_of_onward? leads)
    have never := straight_iff.mp (straight scene here)
    rw [of_decide_eq_true named] at never
    obtain ⟨more, rest, chained, again⟩ := exists_chain_of_transGen circle
    have once := never more
    rw [chained] at once
    exact (List.nodup_cons.mp once).1 again

/-- Where the chain is over at some time, it leads in no circle. -/
theorem not_transGen_of_endsWithin {story : Story} {enough : Nat} {id : String}
    (isOver : story.EndsWithin enough id) :
    ¬ Relation.TransGen (fun source target => story.onward? source = some target) id id := by
  intro circle
  induction enough generalizing id with
  | zero =>
      obtain ⟨target, leads, -⟩ := Relation.TransGen.head'_iff.mp circle
      cases (show story.onward? id = none from isOver).symm.trans leads
  | succ enough inductionHypothesis =>
      obtain ⟨target, leads, back⟩ := Relation.TransGen.head'_iff.mp circle
      exact inductionHypothesis (isOver target leads) (.tail' back leads)

/-- Where a chain is over at some time, so is every later part of it. -/
theorem exists_endsWithin_of_reaches {story : Story} {enough : Nat} {id visited : String}
    (isOver : story.EndsWithin enough id)
    (reaches : Relation.ReflTransGen (fun source target => story.onward? source = some target) id visited) :
    ∃ rest, story.EndsWithin rest visited := by
  induction reaches with
  | refl => exact ⟨enough, isOver⟩
  | tail _ leads inductionHypothesis =>
      obtain ⟨rest, isOverThere⟩ := inductionHypothesis
      cases rest with
      | zero => cases (show story.onward? _ = none from isOverThere).symm.trans leads
      | succ rest => exact ⟨rest, isOverThere _ leads⟩

/-- The chains that visit no scene twice are those that are over at some time. -/
theorem straight_iff_endsWithin {story : Story} {id : String} :
    story.Straight id ↔ ∃ enough, story.EndsWithin enough id := by
  constructor
  · intro straight
    exact ⟨story.scenes.length, endsWithin_of_straight straight⟩
  · rintro ⟨enough, isOver⟩
    refine nodup_chain (fun visited reaches => ?_) story.scenes.length
    obtain ⟨rest, isOverThere⟩ := exists_endsWithin_of_reaches isOver reaches
    exact not_transGen_of_endsWithin isOverThere

/-- A chain that is not over leads on. -/
theorem exists_onward?_of_not_endsWithin {story : Story} {more : Nat} {id : String}
    (goesOn : ¬ story.EndsWithin more id) : ∃ target, story.onward? id = some target := by
  refine Option.ne_none_iff_exists'.mp fun stops => ?_
  cases more with
  | zero => exact goesOn stops
  | succ more =>
      refine goesOn fun target leads => ?_
      cases stops.symm.trans leads

instance (story : Story) : Decidable story.Acyclic :=
  decidable_of_iff _ acyclic_iff.symm

theorem Acyclic.straight {story : Story} (acyclic : story.Acyclic) (id : String) :
    story.Straight id :=
  acyclic.nodup_chain story.scenes.length id

example : Story.sample.Acyclic := by decide

example : Story.sample.chain 9 "greeting" = ["greeting", "asking", "name"] := by decide

end Story

end NarrativePlayer
