import Mathlib.Logic.Relation
import NarrativePlayer.Proofs.Review.Findings
import NarrativePlayer.Proofs.Session.ShadowedDeclarations

/-!
Contract: the check on reachability against the graph of a story.

Owns the walk without a bound, and that it comes to an end with what the bounded walk reaches; that this is
what paths lead to from a declared start, along the successors of the last declaration of every id; and
what a review reports as unreachable, in which order.

Does not own how many steps the walk takes, which is where its bound is justified.

Every step of a walk keeps that what is reached is connected, which gives one inclusion. The other is that
a set that has the start and is closed under successors has every path in it.
-/

namespace NarrativePlayer

namespace Story

/-- Where an id is declared first. -/
def firstPosition (story : Story) (id : String) : Nat :=
  (story.scenes.map Scene.id).idxOf id

/-- A successor of the last declaration of an id. -/
def LeadsOn (story : Story) (id target : String) : Prop :=
  ∃ scene, story.lastDeclared? id = some scene ∧ target ∈ scene.successors

/-- The start is declared, and a path leads from it to an id. -/
def Connected (story : Story) (id : String) : Prop :=
  story.declares story.start = true ∧ Relation.ReflTransGen story.LeadsOn story.start id

theorem leadsOn_iff {story : Story} {id target : String} :
    story.LeadsOn id target ↔ target ∈ Review.successorsOf story id := by
  unfold LeadsOn
  rw [successorsOf_eq_lastDeclared?]
  cases story.lastDeclared? id with
  | none => simp
  | some scene => simp

theorem declares_iff_mem {story : Story} {id : String} :
    story.declares id = true ↔ id ∈ story.scenes.map Scene.id := by
  simp [declares]

end Story

namespace Review

variable {story : Story}

/-! ## The walk without a bound -/

/-- A walk from the ids of a queue, given all ids that were reached, to the ids that are reached in the
end. -/
inductive Walks (story : Story) : List String → List String → List String → Prop
  | ends {reached : List String} : Walks story [] reached reached
  | step {id : String} {queue reached final : List String}
      (further : Walks story (queue ++ fresh story reached id) (reached ++ fresh story reached id) final) :
      Walks story (id :: queue) reached final

theorem walks_walk {bound : Nat} {queue reached : List String}
    (enough : Suffices story bound queue reached) :
    Walks story queue reached (walk story bound queue reached) := by
  induction bound generalizing queue reached with
  | zero =>
      rw [enough.eq_nil]
      exact .ends
  | succ bound inductionHypothesis =>
      cases queue with
      | nil => exact .ends
      | cons id queue =>
          rw [walk_cons]
          exact .step (inductionHypothesis enough.step)

theorem Walks.unique {queue reached first second : List String} (walks : Walks story queue reached first)
    (again : Walks story queue reached second) : second = first := by
  induction walks with
  | ends =>
      cases again with
      | ends => rfl
  | step _ inductionHypothesis =>
      cases again with
      | step further => exact inductionHypothesis further

variable (story) in
/-- The ids that a walk begins with. -/
def origin : List String :=
  if story.declares story.start then [story.start] else []

/-- Whatever the story, its walk comes to an end, and in one way. -/
theorem walks_origin_iff {reached : List String} :
    Walks story (origin story) (origin story) reached ↔ reached = reachable story := by
  have walks : Walks story (origin story) (origin story) (reachable story) := by
    unfold origin reachable
    split
    · exact walks_walk (suffices_walkBound story)
    · exact .ends
  refine ⟨fun again => walks.unique again, ?_⟩
  rintro rfl
  exact walks

/-! ## What is reached -/

/-- What is added at an id of the queue is one step further than the id. -/
theorem Walks.connected {queue reached final : List String} (walks : Walks story queue reached final)
    (queued : ∀ id ∈ queue, story.Connected id) (known : ∀ id ∈ reached, story.Connected id) :
    ∀ id ∈ final, story.Connected id := by
  induction walks with
  | ends => exact known
  | @step id queue reached final _ inductionHypothesis =>
      have new : ∀ target ∈ fresh story reached id, story.Connected target := by
        intro target member
        obtain ⟨declared, path⟩ := queued id List.mem_cons_self
        exact ⟨declared, path.tail (Story.leadsOn_iff.mpr (mem_fresh.mp member).1)⟩
      refine inductionHypothesis (fun target member => ?_) (fun target member => ?_)
      · exact (List.mem_append.mp member).elim
          (fun old => queued target (List.mem_cons_of_mem id old)) (new target)
      · exact (List.mem_append.mp member).elim (known target) (new target)

theorem connected_of_mem_origin {id : String} (member : id ∈ origin story) : story.Connected id := by
  unfold origin at member
  split at member
  · rename_i declared
    rw [List.mem_singleton.mp member]
    exact ⟨declared, .refl⟩
  · cases member

theorem mem_reachable_iff_connected {id : String} : id ∈ reachable story ↔ story.Connected id := by
  constructor
  · have begun : ∀ id ∈ origin story, story.Connected id := fun _ => connected_of_mem_origin
    exact (walks_origin_iff.mpr rfl).connected begun begun id
  · rintro ⟨declared, path⟩
    induction path with
    | refl => exact start_mem_reachable declared
    | tail _ leads inductionHypothesis =>
        exact reachable_closed inductionHypothesis (Story.leadsOn_iff.mp leads)

/-! ## What is reported -/

def Finding.isUnreachable : Finding → Bool
  | .unreachable _ _ => true
  | _ => false

theorem filter_isUnreachable_eq_nil {findings : List Finding}
    (other : ∀ finding ∈ findings, finding.topic ≠ .flow) : findings.filter Finding.isUnreachable = [] := by
  refine List.filter_eq_nil_iff.mpr fun finding member about => ?_
  cases finding with
  | unreachable id start => exact other _ member rfl
  | _ => cases about

/-- The check on the ways through a story reports what cannot be reached, and dead ends, which are told
apart from that. -/
theorem filter_isUnreachable_checkFlow {checks : FlowChecks} (asked : checks.reachability = true) :
    (checkFlow checks story).filter Finding.isUnreachable = unreachable story := by
  have ways : (unreachable story).filter Finding.isUnreachable = unreachable story := by
    refine List.filter_eq_self.mpr fun finding member => ?_
    obtain ⟨id, -, rfl⟩ := List.mem_map.mp member
    rfl
  have ends : (if checks.deadEnds then deadEnds story else []).filter Finding.isUnreachable = [] := by
    refine List.filter_eq_nil_iff.mpr fun finding member about => ?_
    obtain ⟨scene, -, said⟩ := of_mem_deadEnds (List.mem_ite_nil_right.mp member).2
    cases said <;> cases about
  unfold checkFlow
  rw [if_pos asked, List.filter_append, ways, ends, List.append_nil]

/-- No other check reports that an id cannot be reached. -/
theorem filter_isUnreachable_review {settings : Settings}
    (asked : settings.flow.enabled = true ∧ settings.flow.reachability = true) :
    (review settings story).filter Finding.isUnreachable = unreachable story := by
  have references : (if settings.references.enabled then checkReferences settings.references story
      else []).filter Finding.isUnreachable = [] := by
    refine filter_isUnreachable_eq_nil fun finding member isFlow => ?_
    cases isFlow.symm.trans (topic_of_mem_checkReferences (List.mem_ite_nil_right.mp member).2)
  have quality : (if settings.quality.enabled then checkQuality settings.quality story
      else []).filter Finding.isUnreachable = [] := by
    refine filter_isUnreachable_eq_nil fun finding member isFlow => ?_
    cases isFlow.symm.trans (topic_of_mem_checkQuality (List.mem_ite_nil_right.mp member).2)
  unfold review
  rw [List.filter_append, List.filter_append, references, quality, if_pos asked.1,
    filter_isUnreachable_checkFlow asked.2, List.nil_append, List.append_nil]

/-- What is kept of a list without repetitions stands in the order of the first occurrences. A list is
searched from its front, so the induction takes elements off the end. -/
theorem pairwise_idxOf_eraseDups (ids : List String) :
    ids.eraseDups.Pairwise fun first second => ids.idxOf first < ids.idxOf second := by
  induction ids using List.reverseRecOn with
  | nil => exact .nil
  | append_singleton ids last inductionHypothesis =>
      have before : ∀ id ∈ ids, (ids ++ [last]).idxOf id = ids.idxOf id := fun id member =>
        List.idxOf_append_of_mem member
      have kept : ids.eraseDups.Pairwise fun first second =>
          (ids ++ [last]).idxOf first < (ids ++ [last]).idxOf second := by
        refine inductionHypothesis.imp_of_mem fun first second less => ?_
        rwa [before _ (List.mem_eraseDups.mp first), before _ (List.mem_eraseDups.mp second)]
      rw [List.eraseDups_append]
      by_cases known : last ∈ ids
      · rw [show [last].removeAll ids = [] by simp [List.removeAll, known], List.eraseDups_nil,
          List.append_nil]
        exact kept
      · rw [show [last].removeAll ids = [last] by simp [List.removeAll, known],
          show [last].eraseDups = [last] by simp [List.eraseDups_cons]]
        refine List.pairwise_append.mpr ⟨kept, List.pairwise_singleton _ _, fun id member new isNew => ?_⟩
        have old : id ∈ ids := List.mem_eraseDups.mp member
        rw [List.mem_singleton.mp isNew, before id old, List.idxOf_append_of_notMem known,
          List.idxOf_cons_self]
        exact List.idxOf_lt_length_of_mem old

/-- The check on reachability finds what is not in the closure. Whatever the story, its walk comes to an
end, with the ids that are connected with the start. A review reports the declared ids that are not
connected with it, each of them once, in the order of their first declarations. -/
theorem unreachable_iff_unconnected (settings : Settings) (story : Story)
    (asked : settings.flow.enabled = true ∧ settings.flow.reachability = true) :
    (∀ reached, Walks story (origin story) (origin story) reached ↔ reached = reachable story) ∧
    (∀ id, id ∈ reachable story ↔ story.Connected id) ∧
    ∃ ids : List String, (review settings story).filter Finding.isUnreachable =
        ids.map (fun id => .unreachable id story.start) ∧
      (∀ id, id ∈ ids ↔ story.declares id = true ∧ ¬ story.Connected id) ∧
      ids.Pairwise fun first second => story.firstPosition first < story.firstPosition second := by
  refine ⟨fun reached => walks_origin_iff, fun id => mem_reachable_iff_connected, ?_⟩
  refine ⟨_, filter_isUnreachable_review asked, fun id => ?_, ?_⟩
  · rw [List.mem_filter, List.mem_eraseDups, ← Story.declares_iff_mem, ← mem_reachable_iff_connected]
    simp
  · exact (pairwise_idxOf_eraseDups _).filter _

end Review

/-- A story whose attic leads to the shed only in the declaration that is not the last, with a cellar that
is nowhere declared, and a shed that is declared twice. -/
def Story.overgrown : Story where
  id := "overgrown"
  version := "1"
  store := Table.empty
  start := "hall"
  scenes := [
    .sequence ⟨"shed", [], [], some "lawn", none, Table.empty, false⟩,
    .choice ⟨"hall", "Where to?",
      [⟨"stay", "Stay", [], "hall"⟩, ⟨"up", "Up", [], "attic"⟩, ⟨"down", "Down", [], "cellar"⟩]⟩,
    .sequence ⟨"attic", [], [], some "shed", none, Table.empty, false⟩,
    .sequence ⟨"lawn", [], [], some "shed", none, Table.empty, false⟩,
    .sequence ⟨"attic", [], [], some "hall", none, Table.empty, false⟩,
    .sequence ⟨"shed", [], [], none, none, Table.empty, true⟩]

namespace Review

theorem overgrown_shed_and_lawn :
    (Settings.standard.flow.enabled = true ∧ Settings.standard.flow.reachability = true) ∧
      (review .standard .overgrown).filter Finding.isUnreachable =
        [.unreachable "shed" "hall", .unreachable "lawn" "hall"] ∧
      Story.overgrown.Connected "attic" ∧ Story.overgrown.Connected "cellar" ∧
      ¬ Story.overgrown.Connected "shed" ∧ ¬ Story.overgrown.Connected "lawn" := by
  have asked : Settings.standard.flow.enabled = true ∧ Settings.standard.flow.reachability = true :=
    ⟨rfl, rfl⟩
  obtain ⟨-, connected, ids, reported, members, -⟩ :=
    unreachable_iff_unconnected .standard .overgrown asked
  have said : (review .standard .overgrown).filter Finding.isUnreachable =
      [.unreachable "shed" "hall", .unreachable "lawn" "hall"] := by decide
  have unconnected : ∀ id, Finding.unreachable id "hall" ∈
      (review .standard .overgrown).filter Finding.isUnreachable → ¬ Story.overgrown.Connected id := by
    intro id found
    rw [reported] at found
    obtain ⟨other, member, same⟩ := List.mem_map.mp found
    cases same
    exact ((members _).mp member).2
  refine ⟨asked, said, (connected _).mp (by decide), (connected _).mp (by decide), ?_, ?_⟩
  · exact unconnected "shed" (by rw [said]; decide)
  · exact unconnected "lawn" (by rw [said]; decide)

end Review

end NarrativePlayer
