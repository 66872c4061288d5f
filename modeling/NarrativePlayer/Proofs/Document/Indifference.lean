import NarrativePlayer.Proofs.Document.RoundTrip
import NarrativePlayer.Proofs.Document.TaggedRearrangement

/-!
Contract: texts of which the same story is read.

The members of an object may stand in any order, and records may have members that nobody asks for. Owns
that every part of a story is read with a reader that respects its form, and that the text of a rearranged
document holds the same story. Does not own which values a text holds.
-/

namespace NarrativePlayer

open Document Json

namespace Document

variable {Source : Type} {medium : Medium Source} {admits : Nat → Source → Prop} {room : Nat}

/-! ## Parts by kind -/

/-- What is read from beside a tag, by the kind that the tag stands for. -/
theorem respects_tagged {Kind Carrier : Type} (retains : Retains medium admits (room - 1))
    {wanted : String} {judge : Tag → Except Fault Kind} {readContent : Kind → Value → Except Fault Carrier}
    {fieldsOf : Tag → List (String × Form)} (formsOf : Kind → List (String × Form))
    (declared : ∀ tag kind, judge tag = .ok kind → fieldsOf tag = formsOf kind)
    (respects : ∀ kind, Respects Medium.heldBack anyValue room (.record (formsOf kind)) (readContent kind)) :
    Respects medium admits room (.tagged fieldsOf) fun source =>
      (readTagged medium wanted judge source).bind fun found => readContent found.1 found.2 := by
  intro source other carrier rearranged reads
  dsimp only at reads ⊢
  cases tagged : readTagged medium wanted judge source with
  | error fault =>
      rw [tagged] at reads
      cases reads
  | ok found =>
      obtain ⟨held, again, heldRearranged⟩ :=
        rearranged.readTagged retains tagged fun tag judged => declared tag found.1 judged
      rw [tagged] at reads
      rw [again]
      exact respects found.1 heldRearranged reads

theorem respects_unknown {Carrier : Type} (unknown : Carrier) :
    Respects Medium.heldBack anyValue room (.record []) (readUnknown unknown) :=
  (respects_record overlooks_heldBack (by decide) .nil).map _

/-- What is read from beside the tag of an action, by whether the tag is known. -/
def readActionOf : Bool → Value → Except Fault Action
  | false => readUnknown .unknown
  | true => readSet

theorem readAction_eq (source : Source) :
    readAction medium source =
      (readTagged medium "internally tagged enum Action" (.ok ∘ Tag.isOnly "set") source).bind
        fun found => readActionOf found.1 found.2 := by
  unfold readAction
  split <;> rename_i tagged <;> rw [tagged] <;> rfl

theorem respects_action (retains : Retains medium admits (room - 1)) :
    Respects medium admits room (.tagged actionFields) (readAction medium) := by
  rw [funext readAction_eq]
  refine respects_tagged retains actionFieldsOf ?_ ?_
  · rintro tag kind ⟨⟩
    rfl
  · rintro (_ | _)
    · exact respects_unknown _
    · exact (respects_record overlooks_heldBack (by decide)
        (.cons ⟨rfl, respects_text⟩ <|
          .cons ⟨rfl, respects_optional respects_text⟩ <|
          .cons ⟨rfl, respects_optional (respects_name _)⟩ .nil)).map _

/-- What is read from beside the tag of a guard, by whether the tag is known. -/
def readGuardOf : Bool → Value → Except Fault Guard
  | false => readUnknown .unknown
  | true => readMinLength

theorem readGuard_eq (source : Source) :
    readGuard medium source =
      (readTagged medium "internally tagged enum Guard" (.ok ∘ Tag.isOnly "minLength") source).bind
        fun found => readGuardOf found.1 found.2 := by
  unfold readGuard
  split <;> rename_i tagged <;> rw [tagged] <;> rfl

theorem respects_guard (retains : Retains medium admits (room - 1)) :
    Respects medium admits room (.tagged guardFields) (readGuard medium) := by
  rw [funext readGuard_eq]
  refine respects_tagged retains guardFieldsOf ?_ ?_
  · rintro tag kind ⟨⟩
    rfl
  · rintro (_ | _)
    · exact respects_unknown _
    · exact (respects_record overlooks_heldBack (by decide) (.cons ⟨rfl, respects_count _⟩ .nil)).map _

/-! ## Parts of scenes -/

theorem respects_line (overlooks : Overlooks medium admits) :
    Respects medium admits room (.record lineFields) (readLine medium) :=
  (respects_record overlooks (by decide)
    (.cons ⟨rfl, respects_text⟩ <|
      .cons ⟨rfl, respects_pause⟩ <|
      .cons ⟨rfl, respects_flag⟩ <|
      .cons ⟨rfl, respects_optional (respects_count _)⟩ .nil)).map _

theorem respects_answerField (overlooks : Overlooks medium admits) :
    Respects medium admits room (.record answerFieldFields) (readAnswerField medium) :=
  (respects_record overlooks (by decide)
    (.cons ⟨rfl, respects_text⟩ <|
      .cons ⟨rfl, respects_text⟩ <|
      .cons ⟨rfl, respects_optional respects_text⟩ <|
      .cons ⟨rfl, respects_optional (respects_count _)⟩ <|
      .cons ⟨rfl, respects_optional (respects_count _)⟩ <|
      .cons ⟨rfl, respects_flag⟩ .nil)).map _

theorem respects_transition :
    Respects Medium.heldBack anyValue room (.record transitionFields) (readTransition Medium.heldBack) :=
  (respects_record overlooks_heldBack (by decide)
    (.cons ⟨rfl, respects_text⟩ <|
      .cons ⟨rfl, respects_list (respects_guard (retains_heldBack _))⟩ <|
      .cons ⟨rfl, respects_list (respects_action (retains_heldBack _))⟩ <|
      .cons ⟨rfl, respects_text⟩ .nil)).map _

theorem respects_offer :
    Respects Medium.heldBack anyValue room (.record offerFields) (readOffer Medium.heldBack) :=
  (respects_record overlooks_heldBack (by decide)
    (.cons ⟨rfl, respects_text⟩ <|
      .cons ⟨rfl, respects_text⟩ <|
      .cons ⟨rfl, respects_list (respects_action (retains_heldBack _))⟩ <|
      .cons ⟨rfl, respects_text⟩ .nil)).map _

theorem respects_sequence :
    Respects Medium.heldBack anyValue room (.record sequenceFields) (readSequence Medium.heldBack) :=
  (respects_record overlooks_heldBack (by decide)
    (.cons ⟨rfl, respects_text⟩ <|
      .cons ⟨rfl, respects_list (respects_line overlooks_heldBack)⟩ <|
      .cons ⟨rfl, respects_list (respects_action (retains_heldBack _))⟩ <|
      .cons ⟨rfl, respects_optional respects_text⟩ <|
      .cons ⟨rfl, respects_optional respects_text⟩ <|
      .cons ⟨rfl, respects_table⟩ <|
      .cons ⟨rfl, respects_flag⟩ .nil)).map _

theorem respects_question :
    Respects Medium.heldBack anyValue room (.record questionFields) (readQuestion Medium.heldBack) :=
  (respects_record overlooks_heldBack (by decide)
    (.cons ⟨rfl, respects_text⟩ <|
      .cons ⟨rfl, respects_answerField overlooks_heldBack⟩ <|
      .cons ⟨rfl, respects_list respects_transition⟩ .nil)).map _

theorem respects_choice :
    Respects Medium.heldBack anyValue room (.record choiceFields) (readChoice Medium.heldBack) :=
  (respects_record overlooks_heldBack (by decide)
    (.cons ⟨rfl, respects_text⟩ <|
      .cons ⟨rfl, respects_text⟩ <|
      .cons ⟨rfl, respects_list respects_offer⟩ .nil)).map _

/-! ## Scenes and stories -/

/-- What is read from beside the tag of a scene. -/
def readSceneOf : SceneKind → Value → Except Fault Scene
  | .sequence, content => (readSequence Medium.heldBack content).map .sequence
  | .question, content => (readQuestion Medium.heldBack content).map .question
  | .choice, content => (readChoice Medium.heldBack content).map .choice

theorem readScene_eq (source : Source) :
    readScene medium source =
      (readTagged medium "internally tagged enum StateDef" sceneKind source).bind
        fun found => readSceneOf found.1 found.2 := by
  unfold readScene
  split <;> rename_i tagged <;> rw [tagged] <;> rfl

theorem respects_scene (retains : Retains medium admits (room - 1)) :
    Respects medium admits room (.tagged sceneFields) (readScene medium) := by
  rw [funext readScene_eq]
  refine respects_tagged retains sceneFieldsOf ?_ ?_
  · intro tag kind judged
    rw [sceneFields, judged]
  · rintro (_ | _ | _)
    · exact respects_sequence.map _
    · exact respects_question.map _
    · exact respects_choice.map _

theorem respects_context (overlooks : Overlooks medium admits) :
    Respects medium admits room (.record contextFields) (readContext medium) :=
  (respects_record overlooks (by decide) (.cons ⟨rfl, respects_table⟩ .nil)).map _

/-- Scenes stand in a list in the story, and what stands in them is held back whole. -/
theorem respects_story :
    Respects Medium.text WellFormed nestingLimit (.record storyFields) (readStory Medium.text) :=
  (respects_record overlooks_text (by decide)
    (.cons ⟨rfl, respects_text⟩ <|
      .cons ⟨rfl, respects_text⟩ <|
      .cons ⟨rfl, respects_context overlooks_text⟩ <|
      .cons ⟨rfl, respects_text⟩ <|
      .cons ⟨rfl, respects_list (respects_scene retains_text)⟩ .nil)).map _

/-! ## Texts -/

/-- Whether a text holds a document, and nothing behind it but spaces. -/
def Holds (text : String) (draft : Draft) : Prop :=
  ∃ rest, Draft.ofText text.toList = (draft, some rest) ∧ (skipSpaces rest).isEmpty = true

theorem Holds.readStoryText_eq {text : String} {draft : Draft} (holds : Holds text draft) :
    readStoryText text = readStory Medium.text draft := by
  obtain ⟨rest, read, nothing⟩ := holds
  unfold readStoryText
  rw [read]
  dsimp only
  cases readStory Medium.text draft with
  | error fault => rfl
  | ok story => exact if_pos nothing

/-- The text of a plain value holds it. -/
theorem holds_text {value : Value} (plain : value.Plain room) : Holds value.text value.draft := by
  refine ⟨[], ?_, rfl⟩
  rw [Value.text, String.toList_ofList]
  exact plain.ofText_render

end Document

namespace Story

/-- Of the text of a rearranged document the same story is read: the members of all objects may stand in any
order, the type of a scene behind all that is understood by it, and records may have members of any names
that they do not declare. -/
theorem ofText_rearranged {text otherText : String} {draft other : Draft} {story : Story}
    (reads : ofText text = .ok story) (holds : Holds text draft) (rearranged : RearrangedStory draft other)
    (holdsOther : Holds otherText other) : ofText otherText = .ok story := by
  have wellShaped : readStory Medium.text draft = .ok story :=
    holds.readStoryText_eq ▸ readStoryText_of_ofText reads
  have same : readStoryText otherText = readStoryText text := by
    rw [holdsOther.readStoryText_eq, holds.readStoryText_eq, wellShaped]
    exact respects_story rearranged wellShaped
  rw [ofText_congr same, reads]

/-- A scene whose type comes first. -/
def frontal : Value :=
  .object [("type", .string "sequence"), ("id", .string "go"), ("terminal", .bool true)]

/-- The scene the other way round, with variables of its own. -/
def dorsal : Value :=
  .object [("vars", .array []), ("terminal", .bool true), ("id", .string "go"), ("type", .string "sequence")]

/-- The members of a story that begins with some variables, and has one scene. -/
def storyMembers (store scene : Value) : List (String × Value) :=
  [("id", .string "s"), ("version", .string "1"), ("context", .object [("vars", store)]),
    ("start", .string "go"), ("states", .array [scene])]

def orderly : Value :=
  .object (storyMembers (.object [("a", .string "1"), ("b", .string "2")]) frontal)

/-- The story the other way round, with a type of its own. -/
def disorderly : Value :=
  .object
    (storyMembers (.object [("b", .string "2"), ("a", .string "1")]) dorsal ++
      [("type", Value.null)]).reverse

/-- The story that both hold. -/
def ordered : Story where
  id := "s"
  version := "1"
  store := .ofList [("a", "1"), ("b", "2")]
  start := "go"
  scenes :=
    [.sequence
      { id := "go"
        lines := []
        actions := []
        next := none
        awaits := none
        events := .empty
        terminal := true }]

private theorem plain_storyMembers {store scene : Value} (plainStore : store.Plain 2)
    (plainScene : scene.Plain 2) : ∀ member ∈ storyMembers store scene, member.2.Plain 3 := by
  have context : (Value.object [("vars", store)]).Plain 3 :=
    .object (List.forall_mem_singleton.mpr plainStore)
  have states : (Value.array [scene]).Plain 3 := .array (List.forall_mem_singleton.mpr plainScene)
  simp [storyMembers, Value.Plain.string, context, states]

private theorem plain_orderly : orderly.Plain 4 := by
  refine .object (plain_storyMembers (.object ?_) (.object ?_)) <;>
    simp [Value.Plain.string, Value.Plain.bool]

private theorem plain_disorderly : disorderly.Plain 4 := by
  have nothing : (Value.array []).Plain 1 := .array fun _ member => nomatch member
  refine .object fun member among => ?_
  rcases List.mem_append.mp (List.mem_reverse.mp among) with declared | added
  · refine plain_storyMembers (.object ?_) (.object ?_) member declared <;>
      simp [Value.Plain.string, Value.Plain.bool, nothing]
  · cases List.mem_singleton.mp added
    exact .null 3

private theorem rearranged_frontal {room : Nat} (hasRoom : 1 < room) :
    Rearranged Medium.text WellFormed room (.tagged sceneFields) frontal.draft dorsal.draft := by
  refine .tagged (.named "sequence") ⟨_, List.mem_cons_self, rfl⟩ ?_
  refine .members
    [(some "type", .string (some "sequence"), .string (some "sequence")),
      (some "id", .string (some "go"), .string (some "go")), (some "terminal", .bool true, .bool true)]
    [(some "vars", .array [] true)] (List.reverse _) rfl rfl ?_ (by decide)
    (List.reverse_perm _) ?_ ?_
  · rfl
  · simp [Rearranged.same]
  · have undeclared : "vars" ∉ "type" :: sequenceFields.map Prod.fst := by decide
    have wellFormed : WellFormed (room - 1) (.array [] true) :=
      ⟨.array [], Draft.value?_array.mpr ⟨by omega, [], .nil, rfl⟩⟩
    exact List.forall_mem_singleton.mpr ⟨"vars", rfl, undeclared, wellFormed⟩

private theorem rearranged_store {room : Nat} :
    Rearranged Medium.text WellFormed room (.record contextFields)
      (Value.object [("vars", .object [("a", .string "1"), ("b", .string "2")])]).draft
      (Value.object [("vars", .object [("b", .string "2"), ("a", .string "1")])]).draft := by
  refine .members [(some "vars", _, _)] [] _ rfl rfl rfl (by decide) (.refl _) ?_
    (fun _ member => nomatch member)
  refine List.forall_mem_singleton.mpr (.members
    [(some "a", .string (some "1"), .string (some "1")), (some "b", .string (some "2"), .string (some "2"))]
    [] _ rfl rfl rfl (by decide) (.swap _ _ _) ?_ (fun _ member => nomatch member))
  simp [Rearranged.same]

theorem rearranged_disorderly : RearrangedStory orderly.draft disorderly.draft := by
  have scenes : Rearranged Medium.text WellFormed (nestingLimit - 1) (.list (.tagged sceneFields))
      (Value.array [frontal]).draft (Value.array [dorsal]).draft := by
    refine .items [(frontal.draft, dorsal.draft)] rfl rfl rfl ?_
    rintro (_ | _) pair ⟨⟩
    exact rearranged_frontal (by decide)
  refine .members
    [(some "id", .string (some "s"), .string (some "s")),
      (some "version", .string (some "1"), .string (some "1")),
      (some "context", (Value.object [("vars", .object [("a", .string "1"), ("b", .string "2")])]).draft,
        (Value.object [("vars", .object [("b", .string "2"), ("a", .string "1")])]).draft),
      (some "start", .string (some "go"), .string (some "go")),
      (some "states", (Value.array [frontal]).draft, (Value.array [dorsal]).draft)]
    [(some "type", .null)] (List.reverse _) rfl rfl ?_ (by decide)
    (List.reverse_perm _) ?_ ?_
  · rfl
  · simp only [List.forall_mem_cons]
    exact ⟨.same _ _ _, .same _ _ _, rearranged_store, .same _ _ _, scenes, fun _ member => nomatch member⟩
  · have undeclared : "type" ∉ storyFields.map Prod.fst := by decide
    exact List.forall_mem_singleton.mpr ⟨"type", rfl, undeclared, .null, rfl⟩

theorem sample_disorderly :
    ofText orderly.text = .ok ordered ∧ Holds orderly.text orderly.draft ∧
      RearrangedStory orderly.draft disorderly.draft ∧ Holds disorderly.text disorderly.draft ∧
      ofText disorderly.text = .ok ordered := by
  have reads : ofText orderly.text = .ok ordered := by decide +kernel
  have holds := holds_text plain_orderly
  have holdsOther := holds_text plain_disorderly
  exact ⟨reads, holds, rearranged_disorderly, holdsOther,
    ofText_rearranged reads holds rearranged_disorderly holdsOther⟩

end Story

end NarrativePlayer
