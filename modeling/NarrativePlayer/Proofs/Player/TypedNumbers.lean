import Mathlib.Data.List.Induction
import NarrativePlayer.Player.Basic
import NarrativePlayer.Proofs.Json.Values

/-!
Contract: the numbers that a reader can type.

Options stand on the screen behind their numbers, as these are always written. Owns which texts are read as
a number: those that write it in this way, with any zeros and a plus sign in front of it or not, up to 2^64.
Owns also which option of a choice a line picks. Does not own what is done with an option.
-/

namespace NarrativePlayer.Player

open Session

/-! ## Texts that write a number -/

/-- A text writes a number: as it stands on the screen, behind any zeros, behind a plus sign or not. -/
def WritesNumber (text : String) (number : Nat) : Prop :=
  ∃ sign zeros, (sign = [] ∨ sign = ['+']) ∧
    text.toList = sign ++ List.replicate zeros '0' ++ (toString number).toList

theorem toList_toString (number : Nat) : (toString number).toList = Nat.toDigits 10 number :=
  Nat.toList_repr

theorem plain_of_isDigit {digit : Char} (isDigit : Json.isDigit digit = true) :
    Text.isBlank digit = false ∧ digit ≠ '+' :=
  Json.of_isDigit (fun digit => Text.isBlank digit = false ∧ digit ≠ '+') (by decide) isDigit

/-- The number that characters write, if all of them are digits. -/
def valueOf (digits : List Char) : Nat :=
  Decimal.ofDigits (digits.map fun digit => digit.toNat - '0'.toNat)

theorem valueOf_concat (digits : List Char) (last : Char) :
    valueOf (digits ++ [last]) = valueOf digits * 10 + (last.toNat - '0'.toNat) := by
  simp [valueOf, Decimal.ofDigits, List.foldl_append]

theorem valueOf_zeros (zeros : Nat) (digits : List Char) :
    valueOf (List.replicate zeros '0' ++ digits) = valueOf digits := by
  induction zeros with
  | zero => rfl
  | succ zeros inductionHypothesis => exact inductionHypothesis

theorem valueOf_toDigits (number : Nat) : valueOf (Nat.toDigits 10 number) = number :=
  Json.ofDigits_numeralOf number

theorem digitChar_of_isDigit {digit : Char} (isDigit : Json.isDigit digit = true) :
    digit.toNat - '0'.toNat < 10 ∧ Nat.digitChar (digit.toNat - '0'.toNat) = digit :=
  Json.of_isDigit (fun digit => digit.toNat - '0'.toNat < 10 ∧
    Nat.digitChar (digit.toNat - '0'.toNat) = digit) (by decide) isDigit

/-- Digits are the number they write, behind zeros. A number grows at its end, where the induction takes
digits off. -/
theorem exists_zeros {digits : List Char} (some : digits ≠ [])
    (all : ∀ digit ∈ digits, Json.isDigit digit = true) :
    ∃ zeros, digits = List.replicate zeros '0' ++ Nat.toDigits 10 (valueOf digits) := by
  induction digits using List.reverseRecOn with
  | nil => exact absurd rfl some
  | append_singleton front last inductionHypothesis =>
      obtain ⟨below, isLast⟩ := digitChar_of_isDigit (all last (by simp))
      rw [valueOf_concat]
      by_cases alone : valueOf front = 0
      · -- Nothing but zeros stands in front of the last digit.
        refine ⟨front.length, ?_⟩
        rw [alone, Nat.zero_mul, Nat.zero_add, Nat.toDigits_of_lt_base below, isLast]
        refine congrArg (· ++ [last]) ?_
        cases front with
        | nil => rfl
        | cons first rest =>
            obtain ⟨zeros, same⟩ :=
              inductionHypothesis (by simp) fun digit member => all digit (List.mem_append_left _ member)
            rw [alone, show Nat.toDigits 10 0 = ['0'] from rfl, ← List.replicate_succ'] at same
            rw [same, List.length_replicate]
      · have more : front ≠ [] := by
          rintro rfl
          exact alone rfl
        obtain ⟨zeros, same⟩ :=
          inductionHypothesis more fun digit member => all digit (List.mem_append_left _ member)
        have digits : Nat.toDigits 10 (valueOf front * 10 + (last.toNat - '0'.toNat)) =
            Nat.toDigits 10 (valueOf front) ++ [last] := by
          rw [Nat.toDigits_of_base_le (by decide) (by omega)]
          have tens : (valueOf front * 10 + (last.toNat - '0'.toNat)) / 10 = valueOf front := by omega
          have ones : (valueOf front * 10 + (last.toNat - '0'.toNat)) % 10 = last.toNat - '0'.toNat := by
            omega
          rw [tens, ones, isLast]
        refine ⟨zeros, ?_⟩
        rw [digits, ← List.append_assoc, ← same]

theorem decimal?_eq_some_iff {digits : List Char} {number : Nat} :
    decimal? digits = some number ↔
      ∃ zeros, digits = List.replicate zeros '0' ++ Nat.toDigits 10 number := by
  have unfolded : decimal? digits = some number ↔
      (digits ≠ [] ∧ ∀ digit ∈ digits, Json.isDigit digit = true) ∧ valueOf digits = number := by
    unfold decimal? valueOf
    by_cases numeral : digits ≠ [] ∧ ∀ digit ∈ digits, Json.isDigit digit = true
    · simp [numeral]
    · have other : digits.isEmpty = true ∨ (!digits.all Json.isDigit) = true := by
        simp only [not_and_or, not_not] at numeral
        simpa using numeral
      rw [if_pos other]
      exact iff_of_false nofun fun writes => numeral writes.1
  rw [unfolded]
  constructor
  · rintro ⟨⟨some, all⟩, rfl⟩
    exact exists_zeros some all
  · rintro ⟨zeros, rfl⟩
    rw [valueOf_zeros, valueOf_toDigits]
    refine ⟨⟨by simp [Nat.toDigits_ne_nil], fun digit member => ?_⟩, rfl⟩
    rcases List.mem_append.mp member with zero | own
    · rw [List.eq_of_mem_replicate zero]
      rfl
    · exact Json.isDigit_of_mem_toDigits own

/-- What stands behind a plus sign, if there is one. -/
def unsigned : List Char → List Char
  | '+' :: rest => rest
  | all => all

theorem unsigned_of_ne {first : Char} (other : first ≠ '+') (rest : List Char) :
    unsigned (first :: rest) = first :: rest := by
  unfold unsigned
  split
  · rename_i same
    exact absurd (List.cons.inj same).1 other
  · rfl

/-- Digits stand behind a plus sign, or there is none and they are all. -/
theorem unsigned_eq_iff {characters : List Char} {number zeros : Nat} :
    unsigned characters = List.replicate zeros '0' ++ Nat.toDigits 10 number ↔
      ∃ sign, (sign = [] ∨ sign = ['+']) ∧
        characters = sign ++ List.replicate zeros '0' ++ Nat.toDigits 10 number := by
  obtain ⟨first, rest, digits, isDigit⟩ : ∃ first rest,
      List.replicate zeros '0' ++ Nat.toDigits 10 number = first :: rest ∧ Json.isDigit first = true := by
    cases zeros with
    | zero => exact Json.toDigits_eq_cons number
    | succ zeros => exact ⟨'0', _, rfl, rfl⟩
  have unsignedFirst : first ≠ '+' := (plain_of_isDigit isDigit).2
  simp only [List.append_assoc, digits]
  constructor
  · intro same
    match characters with
    | [] => cases same
    | other :: behind =>
        by_cases signed : other = '+'
        · subst signed
          exact ⟨['+'], .inr rfl, congrArg ('+' :: ·) same⟩
        · rw [unsigned_of_ne signed] at same
          exact ⟨[], .inl rfl, same⟩
  · rintro ⟨sign, rfl | rfl, rfl⟩
    · exact unsigned_of_ne unsignedFirst rest
    · rfl

theorem number?_eq_some_iff_decimal? {text : String} {number : Nat} :
    number? text = some number ↔
      decimal? (unsigned text.toList) = some number ∧ number < Decimal.wordBound := by
  unfold number?
  dsimp only
  split
  · rename_i other read
    change decimal? (unsigned text.toList) = some other at read
    rw [read]
    simp only [Option.ite_none_right_eq_some, Option.some.injEq]
    constructor
    · rintro ⟨below, rfl⟩
      exact ⟨rfl, below⟩
    · rintro ⟨rfl, below⟩
      exact ⟨below, rfl⟩
  · rename_i read
    change decimal? (unsigned text.toList) = none at read
    simp [read]

/-- A text is read as a number exactly if it writes it, and the number is not too large. -/
theorem number?_eq_some_iff {text : String} {number : Nat} :
    number? text = some number ↔ WritesNumber text number ∧ number < Decimal.wordBound := by
  unfold WritesNumber
  rw [number?_eq_some_iff_decimal?, decimal?_eq_some_iff, exists_comm]
  simp only [unsigned_eq_iff, toList_toString]

example : WritesNumber "+012" 12 := ⟨['+'], 1, .inr rfl, by decide⟩

/-! ## Options that a line picks -/

/-- A line picks an option of a choice: it writes the number that the option stands behind, and this is below
2^64. -/
def Picks (choice : Choice) (line : String) (offer : Offer) : Prop :=
  ∃ index, WritesNumber (Text.trim line) (index + 1) ∧ index + 1 < Decimal.wordBound ∧
    choice.offers[index]? = some offer

theorem chosenOffer?_of_listed {story : Story} {position : Position} {id line : String} {choice : Choice}
    {index : Nat} {offer : Offer} (current : position.current = some id)
    (found : story.find? id = some (.choice choice)) (typed : number? (Text.trim line) = some (index + 1))
    (listed : choice.offers[index]? = some offer) : chosenOffer? story position line = some offer.id := by
  unfold chosenOffer?
  rw [typed, current, Option.bind_some, found]
  simp [listed]

theorem chosenOffer?_of_unlisted {story : Story} {position : Position} {id line : String} {choice : Choice}
    (current : position.current = some id) (found : story.find? id = some (.choice choice))
    (unlisted : ∀ index, number? (Text.trim line) = some (index + 1) → choice.offers[index]? = none) :
    chosenOffer? story position line = none := by
  unfold chosenOffer?
  rw [current, Option.bind_some, found]
  generalize number? (Text.trim line) = typed at unlisted
  rcases typed with _ | _ | index
  · rfl
  · rfl
  · simp [unlisted index rfl]

theorem chosenOffer?_of_picks {story : Story} {position : Position} {id line : String} {choice : Choice}
    {offer : Offer} (current : position.current = some id) (found : story.find? id = some (.choice choice))
    (picks : Picks choice line offer) : chosenOffer? story position line = some offer.id := by
  obtain ⟨index, writes, below, listed⟩ := picks
  exact chosenOffer?_of_listed current found (number?_eq_some_iff.mpr ⟨writes, below⟩) listed

theorem chosenOffer?_of_unpicked {story : Story} {position : Position} {id line : String} {choice : Choice}
    (current : position.current = some id) (found : story.find? id = some (.choice choice))
    (unpicked : ∀ offer, ¬ Picks choice line offer) : chosenOffer? story position line = none := by
  refine chosenOffer?_of_unlisted current found fun index typed => ?_
  obtain ⟨writes, below⟩ := number?_eq_some_iff.mp typed
  exact Option.eq_none_iff_forall_ne_some.mpr fun offer listed =>
    unpicked offer ⟨index, writes, below, listed⟩

end NarrativePlayer.Player
