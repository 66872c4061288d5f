import Mathlib.Algebra.Order.BigOperators.Group.List
import Mathlib.Algebra.Order.Ring.Nat
import NarrativePlayer.Answer
import NarrativePlayer.Proofs.Text.TrimmedText

/-!
Contract: which answers pass.

Owns when no guard has anything to say against an answer and which one speaks first, what a field keeps of
an answer and the length of its normal form, and that there is an answer that all guards let pass exactly if
none of them asks for more characters than the field lets through. Whether the field trims makes no
difference to that, as there are answers without blanks of any length.
-/

namespace NarrativePlayer

theorem complaint?_eq_none_iff {guards : List Guard} {answer : String} :
    complaint? guards answer = none ↔ ∀ least, .minLength least ∈ guards → least ≤ answer.length := by
  rw [complaint?, List.findSome?_eq_none_iff]
  constructor
  · intro silent least member
    have passed := silent _ member
    rw [Guard.complaint?] at passed
    by_contra short
    rw [if_pos (Nat.lt_of_not_le short)] at passed
    cases passed
  · intro long guard member
    cases guard with
    | minLength least => exact if_neg (Nat.not_lt.mpr (long least member))
    | unknown => rfl

/-- The first guard that an answer is too short for is the one that complains. -/
theorem complaint?_eq_some_iff {guards : List Guard} {answer message : String} :
    complaint? guards answer = some message ↔ ∃ earlier least later,
      guards = earlier ++ .minLength least :: later ∧ complaint? earlier answer = none ∧
        answer.length < least ∧ message = s!"Please enter at least {least} characters." := by
  simp only [complaint?, List.findSome?_eq_some_iff, List.findSome?_eq_none_iff]
  constructor
  · rintro ⟨earlier, guard, later, rfl, complains, silent⟩
    cases guard with
    | unknown => cases complains
    | minLength least =>
        rw [Guard.complaint?] at complains
        split at complains
        · rename_i short
          cases complains
          exact ⟨earlier, least, later, rfl, silent, short, rfl⟩
        · cases complains
  · rintro ⟨earlier, least, later, rfl, silent, short, rfl⟩
    exact ⟨earlier, .minLength least, later, rfl, if_pos short, silent⟩

/-! ## Normal forms -/

namespace AnswerField

/-- Whether a text is what a field keeps of an answer before it is cut: the answer without the blanks at its
ends if the field trims, and else the answer itself. -/
def Keeps (field : AnswerField) (raw kept : String) : Prop :=
  if field.trim = true then Text.IsTrimOf kept.toList raw.toList else kept = raw

/-- How many characters a field lets through of a text that has so many. -/
def lengthLeft (field : AnswerField) (length : Nat) : Nat :=
  match field.maxLength with
  | some most => min most length
  | none => length

theorem keeps_iff {field : AnswerField} {raw kept : String} :
    field.Keeps raw kept ↔ kept = if field.trim then Text.trim raw else raw := by
  unfold Keeps
  split
  · rw [Text.isTrimOf_iff, Text.trim, ← String.toList_inj, String.toList_ofList]
  · rfl

/-- A normal form is what an answer begins with once it is trimmed, as far as the field lets it through. -/
theorem normalize_cuts (field : AnswerField) {raw kept : String} (keeps : field.Keeps raw kept) :
    (field.normalize raw).toList <+: kept.toList ∧
      (field.normalize raw).length = field.lengthLeft kept.length := by
  rw [normalize, ← keeps_iff.mp keeps, lengthLeft]
  cases field.maxLength with
  | none => exact ⟨List.prefix_rfl, rfl⟩
  | some most =>
      refine ⟨?_, ?_⟩
      · simp only [String.toList_ofList]
        exact List.take_prefix most kept.toList
      · simp only [String.length_ofList, List.length_take, String.length_toList]

end AnswerField

theorem AnswerField.length_normalize_le {field : AnswerField} {most : Nat}
    (bounded : field.maxLength = some most) (raw : String) : (field.normalize raw).length ≤ most := by
  rw [normalize, bounded, String.length_ofList]
  exact List.length_take_le _ _

/-! ## Answers of every length -/

/-- An answer of so many characters, none of them blank. -/
def plainAnswer (count : Nat) : String :=
  String.ofList (List.replicate count 'x')

theorem length_plainAnswer (count : Nat) : (plainAnswer count).length = count := by
  rw [plainAnswer, String.length_ofList, List.length_replicate]

/-- Nothing is taken off a text without blanks. -/
theorem trim_of_unblank {text : String} (unblank : ∀ character ∈ text.toList, Text.isBlank character = false) :
    Text.trim text = text := by
  have itself : Text.IsTrimOf text.toList text.toList :=
    ⟨⟨[], [], by simp, by simp, by simp⟩,
      fun character isFirst => unblank character (List.mem_of_mem_head? isFirst),
      fun character isLast => unblank character (List.mem_of_getLast? isLast)⟩
  rw [Text.trim, ← itself.eq_trimCharacters, String.ofList_toList]

theorem trim_plainAnswer (count : Nat) : Text.trim (plainAnswer count) = plainAnswer count := by
  refine trim_of_unblank fun character member => ?_
  rw [plainAnswer, String.toList_ofList] at member
  rw [List.eq_of_mem_replicate member]
  decide

/-- An answer without blanks that is short enough is in normal form. -/
theorem AnswerField.normalize_plainAnswer {field : AnswerField} {count : Nat}
    (within : ∀ most ∈ field.maxLength, count ≤ most) :
    field.normalize (plainAnswer count) = plainAnswer count := by
  have kept : (if field.trim then Text.trim (plainAnswer count) else plainAnswer count) =
      plainAnswer count := by
    split
    · exact trim_plainAnswer count
    · rfl
  rw [normalize, kept]
  cases bounded : field.maxLength with
  | none => rfl
  | some most =>
      have short : (plainAnswer count).toList.length ≤ most := by
        rw [String.length_toList, length_plainAnswer]
        exact within most bounded
      simp only [List.take_of_length_le short, String.ofList_toList]

/-! ## Whether any answer passes -/

/-- Whether a field lets through as many characters as guards ask for. -/
def AnswerField.HasRoomFor (field : AnswerField) (guards : List Guard) : Prop :=
  ∀ least, .minLength least ∈ guards → ∀ most ∈ field.maxLength, least ≤ most

/-- The least length that a guard asks for. -/
def Guard.least : Guard → Nat
  | .minLength least => least
  | .unknown => 0

theorem AnswerField.exists_passing_iff {field : AnswerField} {guards : List Guard} :
    (∃ raw, complaint? guards (field.normalize raw) = none) ↔ field.HasRoomFor guards := by
  constructor
  · rintro ⟨raw, passes⟩ least member most bounded
    exact (complaint?_eq_none_iff.mp passes least member).trans (length_normalize_le bounded raw)
  · intro room
    cases bounded : field.maxLength with
    | some most =>
        refine ⟨plainAnswer most, complaint?_eq_none_iff.mpr fun least member => ?_⟩
        have within : ∀ other ∈ field.maxLength, most ≤ other := fun other same =>
          Nat.le_of_eq (Option.some.inj (bounded.symm.trans same))
        rw [normalize_plainAnswer within, length_plainAnswer]
        exact room least member most bounded
    | none =>
        -- Without a bound, as many characters as all guards together ask for are enough for each.
        refine ⟨plainAnswer (guards.map Guard.least).sum, complaint?_eq_none_iff.mpr fun least member => ?_⟩
        have within : ∀ other ∈ field.maxLength, (guards.map Guard.least).sum ≤ other := by
          rw [bounded]
          exact fun _ absent => nomatch absent
        rw [normalize_plainAnswer within, length_plainAnswer]
        exact List.le_sum_of_mem (List.mem_map.mpr ⟨.minLength least, member, rfl⟩)

end NarrativePlayer
