import NarrativePlayer.Document.Parts
import NarrativePlayer.Proofs.Document.Origins

/-!
Contract: what holds of every story that was read.

A pause is a whole number of milliseconds that a double can hold, or the greatest number of 64 bits; read
again, it stays what it is. Counts stay below 2^64. Owns these bounds for every part of a story, whichever
way the part was given. That they suffice for writing and reading a story is not shown here.
-/

namespace NarrativePlayer

open Decimal Document

/-! ## Pauses -/

/-- Whether a pause stays what it is when it is written as a number and read again. -/
def Stable (delay : Nat) : Prop :=
  delay < wordBound ∧ pause (.integer (delay : Int)) = delay

theorem greatestWord_lt : greatestWord < wordBound :=
  Nat.sub_lt (twoTo_pos 64) Nat.one_pos

theorem pause_natural {delay : Nat} (positive : 0 < delay) :
    pause (.integer (delay : Int)) = min (Double.ofNat delay).ceiling greatestWord := by
  have above : ¬ (delay : Int) ≤ 0 := by omega
  rw [pause, if_neg above, Int.toNat_natCast]

theorem stable_of_short {delay : Nat} (short : Short delay) (within : delay ≤ greatestWord) :
    Stable delay := by
  refine ⟨Nat.lt_of_le_of_lt within greatestWord_lt, ?_⟩
  rcases Nat.eq_zero_or_pos delay with rfl | positive
  · rfl
  · rw [pause_natural positive, ofNat_of_short short, ceiling_whole, Nat.min_eq_left within]

/-- As a double the greatest number of 64 bits is one more, and is brought back to what it was. -/
theorem stable_greatestWord : Stable greatestWord := by
  refine ⟨greatestWord_lt, ?_⟩
  rw [pause_natural (by decide +kernel)]
  have above : greatestWord ≤ (Double.ofNat greatestWord).ceiling := by decide +kernel
  exact Nat.min_eq_right above

theorem pause_eq_min {number : Number} (sound : number.Sound) :
    ∃ whole, Short whole ∧ pause number = min whole greatestWord := by
  have nothing : Short 0 := ⟨0, 0, Nat.zero_le _, rfl⟩
  have none : 0 = min 0 greatestWord := (Nat.zero_min _).symm
  cases number with
  | integer value =>
      rw [pause]
      split
      · exact ⟨0, nothing, none⟩
      · exact ⟨_, short_ceiling (short_nearest _ 1), rfl⟩
  | double negative magnitude =>
      rw [pause]
      split
      · exact ⟨0, nothing, none⟩
      · exact ⟨_, short_ceiling sound, rfl⟩

/-- Every pause that is read is stable: the number rounded up is one that a double holds, unless 64 bits
do not reach that far. -/
theorem stable_pause {number : Number} (sound : number.Sound) : Stable (pause number) := by
  obtain ⟨whole, short, same⟩ := pause_eq_min sound
  rw [same]
  rcases Nat.le_total whole greatestWord with within | beyond
  · rw [Nat.min_eq_left within]
    exact stable_of_short short within
  · rw [Nat.min_eq_right beyond]
    exact stable_greatestWord

/-! ## Parts of a story -/

def Guard.Sound : Guard → Prop
  | .minLength least => least < wordBound
  | .unknown => True

structure Line.Sound (line : Line) : Prop where
  delay : Stable line.delay
  speed : ∀ speed, line.speed = some speed → speed < wordBound

structure AnswerField.Sound (field : AnswerField) : Prop where
  minLength : ∀ least, field.minLength = some least → least < wordBound
  maxLength : ∀ greatest, field.maxLength = some greatest → greatest < wordBound

def Transition.Sound (transition : Transition) : Prop :=
  ∀ guard ∈ transition.guards, guard.Sound

def Scene.Sound : Scene → Prop
  | .sequence body => ∀ line ∈ body.lines, line.Sound
  | .question body => body.field.Sound ∧ ∀ transition ∈ body.transitions, transition.Sound
  | .choice _ => True

def Story.Sound (story : Story) : Prop :=
  ∀ scene ∈ story.scenes, scene.Sound

namespace Document

section

variable {Source : Type} {medium : Medium Source} {sound : Source → Prop} {source : Source}

/-- The count of a field that may be absent. -/
theorem Honest.optionalCount_lt (honest : Honest medium sound) {name wanted : String} {held : Option Nat}
    (arose : Arose sound (.defaulted name (readOptional medium (readCount medium wanted)) none) held) :
    ∀ count, held = some count → count < wordBound := by
  rintro count rfl
  rcases arose with ⟨source, soundSource, reads⟩ | absent
  · exact honest.count_lt soundSource (of_readOptional reads)
  · cases absent

/-- The items of a list that may be absent. -/
theorem Honest.forall_listed (honest : Honest medium sound) {Carrier : Type} {name : String}
    {read : Source → Except Fault Carrier} {holds : Carrier → Prop} {carriers : List Carrier}
    (arose : Arose sound (.defaulted name (readList medium read) []) carriers)
    (each : ∀ {source carrier}, sound source → read source = .ok carrier → holds carrier) :
    ∀ carrier ∈ carriers, holds carrier := by
  rcases arose with ⟨source, soundSource, reads⟩ | absent
  · intro carrier among
    obtain ⟨origin, soundOrigin, reads⟩ := honest.of_readList soundSource reads carrier among
    exact each soundOrigin reads
  · cases absent
    exact fun _ among => absurd among List.not_mem_nil

theorem Honest.soundGuard (honest : Honest medium sound) (soundSource : sound source) {guard : Guard}
    (reads : readGuard medium source = .ok guard) : guard.Sound := by
  unfold readGuard at reads
  split at reads
  · cases reads
  · obtain ⟨-, -, rfl⟩ := of_map reads
    trivial
  · rename_i content tagged
    obtain ⟨⟨least, _⟩, record, rfl⟩ := of_map reads
    have soundContent : content.Sound := honest.of_readTagged soundSource tagged
    obtain ⟨arose, -⟩ := honest_heldBack.of_readRecord soundContent record
    rcases arose with ⟨value, soundValue, counts⟩ | absent
    · exact honest_heldBack.count_lt soundValue counts
    · cases absent

theorem Honest.soundLine (honest : Honest medium sound) (soundSource : sound source) {line : Line}
    (reads : readLine medium source = .ok line) : line.Sound := by
  obtain ⟨⟨text, delay, instant, speed, _⟩, record, rfl⟩ := of_map reads
  obtain ⟨-, delayArose, -, speedArose, -⟩ := honest.of_readRecord soundSource record
  refine ⟨?_, honest.optionalCount_lt speedArose⟩
  rcases delayArose with ⟨source, soundSource, reads⟩ | absent
  · obtain ⟨number, soundNumber, rfl⟩ := honest.pause_eq soundSource reads
    exact stable_pause soundNumber
  · cases absent
    exact ⟨twoTo_pos 64, rfl⟩

theorem Honest.soundField (honest : Honest medium sound) (soundSource : sound source) {field : AnswerField}
    (reads : readAnswerField medium source = .ok field) : field.Sound := by
  obtain ⟨⟨id, label, placeholder, minLength, maxLength, trim, _⟩, record, rfl⟩ := of_map reads
  obtain ⟨-, -, -, leastArose, greatestArose, -⟩ := honest.of_readRecord soundSource record
  exact ⟨honest.optionalCount_lt leastArose, honest.optionalCount_lt greatestArose⟩

theorem Honest.soundTransition (honest : Honest medium sound) (soundSource : sound source)
    {transition : Transition} (reads : readTransition medium source = .ok transition) :
    transition.Sound := by
  obtain ⟨⟨event, guards, actions, target, _⟩, record, rfl⟩ := of_map reads
  obtain ⟨-, guardsArose, -⟩ := honest.of_readRecord soundSource record
  exact honest.forall_listed guardsArose fun origin reads => honest.soundGuard origin reads

theorem Honest.soundScene (honest : Honest medium sound) (soundSource : sound source) {scene : Scene}
    (reads : readScene medium source = .ok scene) : scene.Sound := by
  have held := honest_heldBack
  unfold readScene at reads
  split at reads
  · cases reads
  · rename_i content tagged
    obtain ⟨body, made, rfl⟩ := of_map reads
    obtain ⟨⟨id, lines, actions, next, awaits, events, terminal, _⟩, record, rfl⟩ := of_map made
    obtain ⟨-, linesArose, -⟩ := held.of_readRecord (honest.of_readTagged soundSource tagged) record
    exact held.forall_listed linesArose fun origin reads => held.soundLine origin reads
  · rename_i content tagged
    obtain ⟨body, made, rfl⟩ := of_map reads
    obtain ⟨⟨id, field, transitions, _⟩, record, rfl⟩ := of_map made
    obtain ⟨-, fieldArose, transitionsArose, -⟩ :=
      held.of_readRecord (honest.of_readTagged soundSource tagged) record
    refine ⟨?_, held.forall_listed transitionsArose fun origin reads => held.soundTransition origin reads⟩
    rcases fieldArose with ⟨value, soundValue, reads⟩ | absent
    · exact held.soundField soundValue reads
    · cases absent
  · obtain ⟨body, -, rfl⟩ := of_map reads
    trivial

/-- Every story that is read is sound. -/
theorem Honest.soundStory (honest : Honest medium sound) (soundSource : sound source) {story : Story}
    (reads : readStory medium source = .ok story) : story.Sound := by
  obtain ⟨⟨id, version, store, start, scenes, _⟩, record, rfl⟩ := of_map reads
  obtain ⟨-, -, -, -, scenesArose, -⟩ := honest.of_readRecord soundSource record
  rcases scenesArose with ⟨source, soundScenes, reads⟩ | absent
  · intro scene among
    obtain ⟨origin, soundOrigin, reads⟩ := honest.of_readList soundScenes reads scene among
    exact honest.soundScene soundOrigin reads
  · cases absent

end

end Document

end NarrativePlayer
