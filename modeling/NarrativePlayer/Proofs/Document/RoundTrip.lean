import NarrativePlayer.Document.StoryText
import NarrativePlayer.Proofs.Document.WrittenParts

/-!
Contract: stories that are read, written and read again.

A story that was read from any text is written as a text from which the same story is read. The entries
of its tables may be written in any order. So what was written once is written the same way from then on.
-/

namespace NarrativePlayer

open Decimal Document Json

namespace Document

variable {Source : Type} {medium : Medium Source} {present : Value → Source}

/-- Whether a value writes a story down, each of its tables in some order. -/
def WritesStory (story : Story) (value : Value) : Prop :=
  ∃ store scenes, store.Perm story.store.entries ∧ List.Forall₂ WritesScene story.scenes scenes ∧
    value = writeStoryOf story store scenes

theorem writesStory_writeStory (story : Story) : WritesStory story (writeStory story) := by
  refine ⟨_, _, .refl _, ?_, rfl⟩
  exact List.forall₂_map_right_iff.mpr (List.forall₂_same.mpr fun scene _ => writesScene_writeScene scene)

theorem Faithful.context (faithful : Faithful medium present) {table : Table}
    {entries : List (String × String)} (perm : entries.Perm table.entries) :
    Writes 6 present (readContext medium) (.object [("vars", writeEntries entries)]) table :=
  faithful.record (show ["vars"].Nodup by decide) (.given (faithful.table perm) .nothing) rfl

theorem Faithful.scenes (faithful : Faithful medium present) {scenes : List Scene} {values : List Value}
    (sound : ∀ scene ∈ scenes, scene.Sound) (each : List.Forall₂ WritesScene scenes values) :
    List.Forall₂ (Writes 5 present (readScene medium)) values scenes := by
  induction each with
  | nil => exact .nil
  | cons written _ inductionHypothesis =>
      obtain ⟨here, later⟩ := List.forall_mem_cons.mp sound
      exact .cons (faithful.scene here written) (inductionHypothesis later)

/-- What is written of a story opens at most seven containers in each other, far less than a text may. -/
theorem Faithful.story (faithful : Faithful medium present) {story : Story} (sound : story.Sound)
    {value : Value} (written : WritesStory story value) :
    Writes 7 present (readStory medium) value story := by
  obtain ⟨store, scenes, perm, each, rfl⟩ := written
  exact faithful.record (show ["id", "version", "context", "start", "states"].Nodup by decide)
    (.given (faithful.text story.id) <|
      .given (faithful.text story.version) <|
      .given (faithful.context perm) <|
      .given (faithful.text story.start) <|
      .given (faithful.list (faithful.scenes sound each)) .nothing) rfl

theorem readStoryText_of_writes {story : Story} (sound : story.Sound) {value : Value}
    (written : WritesStory story value) : readStoryText value.text = .ok story := by
  have writes := faithful_text.story sound written
  unfold readStoryText Value.text
  rw [String.toList_ofList, writes.plain.ofText_render]
  dsimp only
  rw [writes.reads]
  rfl

end Document

namespace Story

theorem readStoryText_of_ofText {text : String} {story : Story} (reads : ofText text = .ok story) :
    readStoryText text = .ok story := by
  unfold ofText at reads
  split at reads
  · cases reads
  · rename_i other shape
    split at reads
    · cases reads
    · split at reads
      · cases reads
      · cases reads
        exact shape

theorem sound_of_ofText {text : String} {story : Story} (reads : ofText text = .ok story) : story.Sound := by
  have shape := readStoryText_of_ofText reads
  unfold readStoryText at shape
  dsimp only at shape
  split at shape
  · cases shape
  · rename_i other wellShaped
    have sound : other.Sound := honest_text.soundStory trivial wellShaped
    split at shape
    · cases shape
    · split at shape
      · cases shape
        exact sound
      · cases shape

/-- A text that is read as a given story is as good as any other. -/
theorem ofText_congr {text other : String} (same : readStoryText other = readStoryText text) :
    ofText other = ofText text := by
  unfold ofText
  rw [same]

/-- Written and read again, a story is what it was, in whatever order the entries of its tables are
written; and so is its text from then on. -/
theorem text_round_trip {text : String} {story : Story} (reads : ofText text = .ok story) :
    ofText story.toText = .ok story ∧ (ofText story.toText).map toText = .ok story.toText ∧
      ∀ value, WritesStory story value → ofText value.text = .ok story := by
  have shape := readStoryText_of_ofText reads
  have again : ∀ value, WritesStory story value → ofText value.text = .ok story := by
    intro value written
    have same := readStoryText_of_writes (sound_of_ofText reads) written
    rw [ofText_congr (same.trans shape.symm), reads]
  have own : ofText story.toText = .ok story := again _ (writesStory_writeStory story)
  exact ⟨own, congrArg (Except.map toText) own, again⟩

/-- A text with records by position, a repeated key, kinds that are not known, and pauses of half a
millisecond and of more than 64 bits hold. -/
def scrawled : String :=
  "\x7b\"id\":\"s\",\"version\":\"1\",\"context\":[\x7b\"n\":\"1\",\"n\":\"2\"\x7d],\"start\":\"a\",\"states\":[" ++
    "[\"sequence\",\"a\",[[\"\",0.5],[\"\",1e30]]]," ++
    "[\"input\",\"b\",[\"f\",\"\"],[[\"e\",[[\"wave\"]],[[\"nod\"]],\"a\"]]]]\x7d"

def tidied : Story where
  id := "s"
  version := "1"
  store := .ofList [("n", "2")]
  start := "a"
  scenes :=
    [.sequence
        { id := "a"
          lines := [⟨"", 1, false, none⟩, ⟨"", greatestWord, false, none⟩]
          actions := []
          next := none
          awaits := none
          events := .empty
          terminal := false },
      .question
        { id := "b"
          field := ⟨"f", "", none, none, none, false⟩
          transitions := [⟨"e", [.unknown], [.unknown], "a"⟩] }]

theorem sample_scrawled :
    ofText scrawled = .ok tidied ∧ tidied.toText ≠ scrawled ∧ ofText tidied.toText = .ok tidied := by
  have reads : ofText scrawled = .ok tidied := by decide +kernel
  exact ⟨reads, by decide +kernel, (text_round_trip reads).1⟩

end Story

end NarrativePlayer
