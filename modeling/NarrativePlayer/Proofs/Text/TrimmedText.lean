import Mathlib.Data.List.TakeWhile
import NarrativePlayer.Text.Blank

/-!
Contract: what trimming leaves of a text.

Owns the relation between a text and what it is without the blanks at its ends, which says nothing of how
these are looked for, and that trimming computes it: there is exactly one such rest of every text. Does not
own which characters are blank.
-/

namespace NarrativePlayer.Text

/-- Characters are the rest of others without the blanks at both ends: nothing but blanks stands around
them, and they neither begin nor end with a blank. -/
structure IsTrimOf (kept characters : List Char) : Prop where
  within : ∃ front back, characters = front ++ kept ++ back ∧
    (∀ character ∈ front, isBlank character = true) ∧ ∀ character ∈ back, isBlank character = true
  first : ∀ character ∈ kept.head?, isBlank character = false
  last : ∀ character ∈ kept.getLast?, isBlank character = false

/-- Blanks are skipped up to the first character that is none. -/
theorem dropWhile_isBlank_append {front rest : List Char}
    (blank : ∀ character ∈ front, isBlank character = true)
    (first : ∀ character ∈ rest.head?, isBlank character = false) :
    (front ++ rest).dropWhile isBlank = rest := by
  rw [List.dropWhile_append_of_pos blank]
  cases rest with
  | nil => rfl
  | cons character rest => exact List.dropWhile_cons_of_neg (by simp [first character rfl])

theorem head?_dropWhile_isBlank (characters : List Char) :
    ∀ character ∈ (characters.dropWhile isBlank).head?, isBlank character = false := by
  intro character isFirst
  have stopped := List.head?_dropWhile_not isBlank characters
  rwa [Option.mem_def.mp isFirst] at stopped

theorem isTrimOf_trimCharacters (characters : List Char) :
    IsTrimOf (trimCharacters characters) characters where
  within := by
    refine ⟨characters.takeWhile isBlank,
      ((characters.dropWhile isBlank).reverse.takeWhile isBlank).reverse, ?_,
      fun _ => List.mem_takeWhile_imp, fun _ member => List.mem_takeWhile_imp (List.mem_reverse.mp member)⟩
    rw [trimCharacters, List.append_assoc, ← List.reverse_append, List.takeWhile_append_dropWhile,
      List.reverse_reverse, List.takeWhile_append_dropWhile]
  first character isFirst := by
    -- What is left begins as it did before the blanks at its end were taken off.
    refine head?_dropWhile_isBlank characters character ?_
    obtain ⟨back, split⟩ := List.dropWhile_suffix isBlank (l := (characters.dropWhile isBlank).reverse)
    have parts : characters.dropWhile isBlank = trimCharacters characters ++ back.reverse := by
      rw [trimCharacters, ← List.reverse_append, split, List.reverse_reverse]
    rw [parts, List.head?_append, Option.mem_def.mp isFirst]
    rfl
  last character isLast := by
    rw [trimCharacters, List.getLast?_reverse] at isLast
    exact head?_dropWhile_isBlank _ character isLast

theorem IsTrimOf.eq_trimCharacters {kept characters : List Char} (trims : IsTrimOf kept characters) :
    kept = trimCharacters characters := by
  obtain ⟨front, back, rfl, frontBlank, backBlank⟩ := trims.within
  unfold trimCharacters
  cases kept with
  | nil =>
      have blank : ∀ character ∈ front ++ back, isBlank character = true := by
        intro character member
        exact (List.mem_append.mp member).elim (frontBlank character) (backBlank character)
      rw [List.append_nil, List.dropWhile_eq_nil_iff.mpr blank]
      rfl
  | cons character rest =>
      have endsWith : ∀ other ∈ (character :: rest).reverse.head?, isBlank other = false := by
        rw [List.head?_reverse]
        exact trims.last
      have backBlankReversed : ∀ other ∈ back.reverse, isBlank other = true :=
        fun other member => backBlank other (List.mem_reverse.mp member)
      have startsWith : ∀ other ∈ (character :: rest ++ back).head?, isBlank other = false := trims.first
      rw [List.append_assoc, dropWhile_isBlank_append frontBlank startsWith, List.reverse_append,
        dropWhile_isBlank_append backBlankReversed endsWith, List.reverse_reverse]

/-- Trimming gives the only rest of a text that has no blank at its ends. -/
theorem isTrimOf_iff {kept characters : List Char} :
    IsTrimOf kept characters ↔ kept = trimCharacters characters :=
  ⟨IsTrimOf.eq_trimCharacters, fun same => same ▸ isTrimOf_trimCharacters characters⟩

end NarrativePlayer.Text
