import NarrativePlayer.Player.Basic
import NarrativePlayer.Proofs.Review.IdWalk
import NarrativePlayer.Proofs.Session.SiftedSession

/-!
Contract: declarations that are shadowed by later ones.

The last scene declared with an id is the one that matters. Owns that the search from the end, the index
of positions and the walk over ids all resolve an id to it, and that stories whose last declarations are
the same cannot be told apart by anything that is done to a session, nor by the numbers that a player
takes for options. Does not own what a review says of shadowed scenes: it reports them.
-/

namespace NarrativePlayer

namespace Story

/-- The last scene that is declared with an id. -/
def lastDeclared? (story : Story) (id : String) : Option Scene :=
  (story.scenes.filter fun scene => scene.id = id).getLast?

/-- Both stories begin in the same way, and the last declarations of every id are the same. The order of
the declarations, and what is shadowed by later ones, may differ. -/
structure Agrees (first second : Story) : Prop where
  id : first.id = second.id
  version : first.version = second.version
  store : first.store = second.store
  start : first.start = second.start
  lastDeclared? : ∀ id, first.lastDeclared? id = second.lastDeclared? id

theorem find?_eq_lastDeclared? (story : Story) (id : String) :
    story.find? id = story.lastDeclared? id := by
  unfold find? lastDeclared?
  rw [List.getLast?_eq_head?_reverse, ← List.filter_reverse, List.head?_filter]

theorem indexed_eq_lastDeclared? (story : Story) (id : String) :
    (story.position? id).bind (story.scenes[·]?) = story.lastDeclared? id := by
  rw [indexed_eq_find?, find?_eq_lastDeclared?]

theorem successorsOf_eq_lastDeclared? (story : Story) (id : String) :
    Review.successorsOf story id = ((story.lastDeclared? id).map Scene.successors).getD [] := by
  unfold Review.successorsOf
  rw [find?_eq_lastDeclared?]
  cases story.lastDeclared? id with
  | none => rfl
  | some scene => rfl

variable {first second : Story}

theorem Agrees.find? (agrees : first.Agrees second) (id : String) :
    first.find? id = second.find? id := by
  rw [find?_eq_lastDeclared?, find?_eq_lastDeclared?, agrees.lastDeclared?]

theorem Agrees.successorsOf (agrees : first.Agrees second) (id : String) :
    Review.successorsOf first id = Review.successorsOf second id := by
  rw [successorsOf_eq_lastDeclared?, successorsOf_eq_lastDeclared?, agrees.lastDeclared?]

/-- Through the sieve that holds nothing back, stories that agree read as each other. -/
theorem Agrees.readsAs (agrees : first.Agrees second) : first.ReadsAs .all second where
  id := agrees.id.symm
  version := agrees.version.symm
  store := agrees.store.symm
  start := agrees.start.symm
  find? id := by
    rw [← agrees.find? id]
    cases first.find? id with
    | none => rfl
    | some scene => rw [Option.map_some, Sieve.scene_all]

theorem Agrees.reachable (agrees : first.Agrees second) :
    Review.reachable first = Review.reachable second :=
  Review.reachable_congr agrees.start
    (by rw [agrees.readsAs.declares, agrees.start]) agrees.successorsOf

end Story

namespace Session

variable {first second : Story}

/-- Stories that agree cannot be told apart. A session opens on both in the same state, or on neither for
the same reason. From whatever state, every run comes to the same, step by step, with all calls of the
terminal and all answers, and so does every vigil. The numbers of options stand for the same options. And
the index, the search from the end and the walk all resolve every id of either to its last declaration. -/
theorem last_declaration_wins (agrees : first.Agrees second) (journal : Journal.Settings) :
    State.opening first = State.opening second ∧
    (∀ bound state steps,
      State.run ⟨first, journal⟩ bound state steps = State.run ⟨second, journal⟩ bound state steps) ∧
    (∀ vigil turns,
      Vigil.attend ⟨first, journal⟩ vigil turns = Vigil.attend ⟨second, journal⟩ vigil turns) ∧
    (∀ position line,
      Player.chosenOffer? first position line = Player.chosenOffer? second position line) ∧
    (∀ story ∈ [first, second], ∀ id,
      story.find? id = first.lastDeclared? id ∧
      (story.position? id).bind (story.scenes[·]?) = first.lastDeclared? id ∧
      Review.successorsOf story id = ((first.lastDeclared? id).map Scene.successors).getD []) ∧
    Review.reachable first = Review.reachable second := by
  have reads := agrees.readsAs
  have unsifted : (Sieve.all.outcome : State × Answer → State × Answer) = id :=
    funext Sieve.outcome_all
  refine ⟨(State.opening_sifted reads).symm, ?_, ?_, ?_, ?_, agrees.reachable⟩
  · intro bound state steps
    have sifted := @State.run_sifted _ ⟨first, journal⟩ _ reads bound state steps
    rw [Sieve.state_all, unsifted, List.map_id_fun, Option.map_id_fun] at sifted
    exact sifted.symm
  · intro vigil turns
    have sifted := @Vigil.attend_sifted _ ⟨first, journal⟩ _ reads vigil turns
    simp only [Vigil.sifted, Sieve.state_all] at sifted
    exact sifted.symm
  · intro position line
    unfold Player.chosenOffer?
    rw [funext agrees.find?]
  · intro story member id
    have last : first.lastDeclared? id = story.lastDeclared? id := by
      rcases List.mem_pair.mp member with rfl | rfl
      · rfl
      · exact agrees.lastDeclared? id
    rw [last]
    exact ⟨story.find?_eq_lastDeclared? id, story.indexed_eq_lastDeclared? id,
      story.successorsOf_eq_lastDeclared? id⟩

/-- A choice with a way to the end. -/
def forked : Story where
  id := "forked"
  version := "1"
  store := .empty
  start := "way"
  scenes :=
    [.choice ⟨"way", "Where to?", [⟨"on", "On", [.set "gone" (some "yes") false], "end"⟩]⟩,
      .sequence ⟨"end", [], [], none, none, .empty, true⟩]

/-- The same with a scene in front that is shadowed, and the others in another order. -/
def reforked : Story :=
  { forked with
    scenes := .sequence ⟨"way", [⟨"Lost.", 0, true, none⟩], [], none, none, .empty, false⟩ ::
      forked.scenes.reverse }

theorem reforked_agrees : forked.Agrees reforked where
  id := rfl
  version := rfl
  store := rfl
  start := rfl
  lastDeclared? id := by
    by_cases isWay : "way" = id
    · subst isWay
      rfl
    · by_cases isEnd : "end" = id
      · subst isEnd
        rfl
      · simp [Story.lastDeclared?, forked, reforked, Scene.id, isWay, isEnd]

theorem sample_shadowed :
    let staging : Staging := ⟨forked, .silent⟩
    let steps := [Step.move (.command .start), .move (.command (.choose "on")), .settle none]
    forked.scenes.length < reforked.scenes.length ∧
      ((State.initial .empty).run staging 9 steps).isSome = true ∧
      (State.initial .empty).run ⟨reforked, .silent⟩ 9 steps =
        (State.initial .empty).run staging 9 steps ∧
      Player.chosenOffer? reforked ⟨.waiting .choice, some "way", none, .empty, 0⟩ "1" = some "on" := by
  intro staging steps
  obtain ⟨-, runs, -, numbers, -, -⟩ := last_declaration_wins reforked_agrees .silent
  refine ⟨by decide, by decide +kernel, (runs 9 _ steps).symm, ?_⟩
  rw [← numbers]
  decide +kernel

end Session

end NarrativePlayer
