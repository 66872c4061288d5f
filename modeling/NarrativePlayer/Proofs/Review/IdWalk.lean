import Mathlib.Data.Finset.Card
import Mathlib.Data.Finset.Dedup
import NarrativePlayer.Proofs.Story.Lookup
import NarrativePlayer.Review.Reachability

/-!
Contract: the walk over the ids of a story.

Owns that the walk depends on a story only through the successors of ids, that the bound on its steps
never cuts it short, as every step takes an id off the queue and puts in only targets of scenes that were
never in it before, and that what it reaches leads to nothing else.
-/

namespace NarrativePlayer.Review

/-- Each element is kept once. The rest that is looked at next is shorter, but not the tail of the list. -/
theorem nodup_eraseDups (ids : List String) : ids.eraseDups.Nodup := by
  cases ids with
  | nil => exact List.nodup_nil
  | cons id rest =>
      rw [List.eraseDups_cons]
      refine List.nodup_cons.mpr ⟨fun member => ?_, nodup_eraseDups _⟩
      simpa using (List.mem_filter.mp (List.mem_eraseDups.mp member)).2
termination_by ids.length
decreasing_by
  exact Nat.lt_succ_of_le (List.length_filter_le _ _)

theorem walk_congr {first second : Story}
    (same : ∀ id, successorsOf first id = successorsOf second id) (bound : Nat)
    (queue reached : List String) :
    walk first bound queue reached = walk second bound queue reached := by
  induction bound generalizing queue reached with
  | zero => rfl
  | succ bound inductionHypothesis =>
      cases queue with
      | nil => rfl
      | cons id queue =>
          unfold walk
          rw [same id]
          exact inductionHypothesis _ _

/-! ## The bound of the walk -/

section

variable (story : Story)

/-- The targets of all scenes. -/
def targets : List String :=
  story.scenes.flatMap Scene.successors

variable {story}

theorem mem_targets_of_successor {id target : String} (leads : target ∈ successorsOf story id) :
    target ∈ targets story := by
  unfold successorsOf at leads
  split at leads
  · rename_i scene found
    exact List.mem_flatMap.mpr ⟨scene, Story.mem_scenes_of_find? found, leads⟩
  · cases leads

variable (story)

/-- The targets that have not been reached. -/
def unreached (reached : List String) : Finset String :=
  (targets story).toFinset \ reached.toFinset

variable {story}

/-- Targets that are newly reached are unreached no more. -/
theorem card_unreached_append {reached fresh : List String} (distinct : fresh.Nodup)
    (new : ∀ target ∈ fresh, target ∈ targets story ∧ target ∉ reached) :
    fresh.length + (unreached story (reached ++ fresh)).card = (unreached story reached).card := by
  have within : fresh.toFinset ⊆ unreached story reached := by
    intro target member
    simpa [unreached] using new target (List.mem_toFinset.mp member)
  have rest : unreached story (reached ++ fresh) = unreached story reached \ fresh.toFinset := by
    ext target
    simp only [unreached, List.toFinset_append, Finset.mem_sdiff, Finset.mem_union, not_or, and_assoc]
  rw [rest, ← List.toFinset_card_of_nodup distinct, Nat.add_comm]
  exact Finset.card_sdiff_add_card_eq_card within

/-- The targets of an id that are newly reached. -/
def fresh (story : Story) (reached : List String) (id : String) : List String :=
  ((successorsOf story id).filter fun target => !reached.contains target).eraseDups

theorem walk_cons (bound : Nat) (id : String) (queue reached : List String) :
    walk story (bound + 1) (id :: queue) reached =
      walk story bound (queue ++ fresh story reached id) (reached ++ fresh story reached id) :=
  rfl

theorem mem_fresh {reached : List String} {id target : String} :
    target ∈ fresh story reached id ↔ target ∈ successorsOf story id ∧ target ∉ reached := by
  simp [fresh]

/-- Whether a bound is enough for a walk: each step takes an id off the queue, and what it puts in is
reached from then on. -/
def Suffices (story : Story) (bound : Nat) (queue reached : List String) : Prop :=
  queue.length + (unreached story reached).card ≤ bound

theorem Suffices.eq_nil {queue reached : List String} (enough : Suffices story 0 queue reached) :
    queue = [] := by
  unfold Suffices at enough
  exact List.length_eq_zero_iff.mp (by omega)

theorem Suffices.step {bound : Nat} {id : String} {queue reached : List String}
    (enough : Suffices story (bound + 1) (id :: queue) reached) :
    Suffices story bound (queue ++ fresh story reached id) (reached ++ fresh story reached id) := by
  have new : ∀ target ∈ fresh story reached id, target ∈ targets story ∧ target ∉ reached := by
    intro target member
    obtain ⟨leads, unknown⟩ := mem_fresh.mp member
    exact ⟨mem_targets_of_successor leads, unknown⟩
  have distinct : (fresh story reached id).Nodup := nodup_eraseDups _
  have fewer := card_unreached_append distinct new
  unfold Suffices at enough ⊢
  rw [List.length_append]
  rw [List.length_cons] at enough
  omega

/-- A walk is over after as many steps as there are ids in its queue and targets that are not reached. -/
theorem walk_of_enough (extra : Nat) {bound : Nat} {queue reached : List String}
    (enough : Suffices story bound queue reached) :
    walk story (bound + extra) queue reached = walk story bound queue reached := by
  induction bound generalizing queue reached with
  | zero =>
      rw [enough.eq_nil]
      cases extra <;> rfl
  | succ bound inductionHypothesis =>
      cases queue with
      | nil =>
          rw [Nat.add_right_comm]
          rfl
      | cons id queue =>
          rw [Nat.add_right_comm, walk_cons, walk_cons]
          exact inductionHypothesis enough.step

variable (story) in
theorem suffices_walkBound : Suffices story (walkBound story) [story.start] [story.start] := by
  have atMost : (unreached story [story.start]).card ≤ (targets story).length :=
    (Finset.card_le_card Finset.sdiff_subset).trans (List.toFinset_card_le _)
  unfold Suffices walkBound
  unfold targets at atMost
  rw [List.length_singleton]
  omega

/-- What a story reaches does not depend on how many steps the walk over it is granted beyond its bound. -/
theorem walk_walkBound (extra : Nat) :
    walk story (walkBound story + extra) [story.start] [story.start] =
      walk story (walkBound story) [story.start] [story.start] :=
  walk_of_enough extra (suffices_walkBound story)

/-! ## What the walk reaches -/

theorem mem_walk_of_mem {bound : Nat} {queue reached : List String} {id : String}
    (member : id ∈ reached) : id ∈ walk story bound queue reached := by
  induction bound generalizing queue reached with
  | zero => exact member
  | succ bound inductionHypothesis =>
      cases queue with
      | nil => exact member
      | cons first queue =>
          rw [walk_cons]
          exact inductionHypothesis (List.mem_append_left _ member)

/-- If all ids but those of the queue lead only to what is reached, then in the end all ids do. -/
theorem walk_closed {bound : Nat} {queue reached : List String}
    (enough : Suffices story bound queue reached)
    (settled : ∀ id ∈ reached, id ∉ queue → ∀ target ∈ successorsOf story id, target ∈ reached) :
    ∀ id ∈ walk story bound queue reached, ∀ target ∈ successorsOf story id,
      target ∈ walk story bound queue reached := by
  induction bound generalizing queue reached with
  | zero =>
      rw [enough.eq_nil] at settled ⊢
      exact fun id member => settled id member List.not_mem_nil
  | succ bound inductionHypothesis =>
      cases queue with
      | nil => exact fun id member => settled id member List.not_mem_nil
      | cons first queue =>
          rw [walk_cons]
          refine inductionHypothesis enough.step ?_
          intro id member outside target leads
          rw [List.mem_append, not_or] at outside
          have old : id ∈ reached := (List.mem_append.mp member).resolve_right outside.2
          by_cases known : target ∈ reached
          · exact List.mem_append_left _ known
          · by_cases same : id = first
            · rw [same] at leads
              exact List.mem_append_right _ (mem_fresh.mpr ⟨leads, known⟩)
            · have notQueued : id ∉ first :: queue := by
                rw [List.mem_cons, not_or]
                exact ⟨same, outside.1⟩
              exact absurd (settled id old notQueued target leads) known

theorem start_mem_reachable (declared : story.declares story.start = true) :
    story.start ∈ reachable story := by
  unfold reachable
  rw [if_pos declared]
  exact mem_walk_of_mem (List.mem_singleton_self _)

/-- What can be reached leads only to what can be reached. -/
theorem reachable_closed {id target : String} (member : id ∈ reachable story)
    (leads : target ∈ successorsOf story id) : target ∈ reachable story := by
  unfold reachable at member ⊢
  split at member
  · rename_i declared
    rw [if_pos declared]
    refine walk_closed (suffices_walkBound story) ?_ id member target leads
    -- At first only the start is reached, and it is in the queue.
    exact fun other here outside => absurd here outside
  · cases member

end

/-- Stories that start alike and whose ids have the same successors reach the same ids in the same order,
whatever their bounds are. -/
theorem reachable_congr {first second : Story} (start : first.start = second.start)
    (declared : first.declares first.start = second.declares second.start)
    (same : ∀ id, successorsOf first id = successorsOf second id) :
    reachable first = reachable second := by
  have walks : walk first (walkBound first) [first.start] [first.start] =
      walk second (walkBound second) [second.start] [second.start] := by
    rw [← walk_walkBound (walkBound second), ← walk_walkBound (walkBound first), walk_congr same, start,
      Nat.add_comm]
  unfold reachable
  rw [declared, walks]

end NarrativePlayer.Review
