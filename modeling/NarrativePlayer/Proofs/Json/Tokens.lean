import NarrativePlayer.Json.Draft

/-!
Contract: strings and natural numbers that are written and read again.

Owns that a written string is read back with all its characters, those included that are escaped, and
that the digits of a natural number are read as a numeral that stands for it, provided that what follows
does not go on with the numeral. Does not own other numbers, which are read but never written.
-/

namespace NarrativePlayer.Json

open NarrativePlayer.Decimal

/-! ## Strings -/

/-- The piece that a written character is read as. Control characters without an escape of their own are
written as units. -/
def scrapOf (character : Char) : Scrap :=
  if character = '\n' ∨ character = '\r' ∨ character = '\t' ∨ character.toNat = 8 ∨ character.toNat = 12 then
    .character character
  else if character.toNat < 32 then .unit character.toNat
  else .character character

theorem hexUnit?_control : ∀ unit < 32,
    hexUnit? '0' '0' (hexDigit (unit / 16)) (hexDigit unit) = some unit := by
  decide

theorem eq_ofNat_of_toNat {character : Char} {code : Nat} (same : character.toNat = code) :
    character = Char.ofNat code := by
  rw [← same, Char.ofNat_toNat]

/-- A character that needs no escape is read as it stands. -/
theorem readScraps_printed (read : List Scrap) {character : Char} (notQuote : character ≠ '"')
    (notBackslash : character ≠ '\\') (printed : ¬ character.toNat < 32) (rest : List Char) :
    readScraps read (character :: rest) = readScraps (.character character :: read) rest := by
  rw [readScraps.eq_def]
  split
  · rename_i empty
    cases empty
  · rename_i same
    cases same
    exact absurd rfl notQuote
  · rename_i same
    cases same
    exact absurd rfl notBackslash
  · rename_i same
    cases same
    exact absurd rfl notBackslash
  · rename_i same
    cases same
    rw [if_neg (by simp [printed, notBackslash])]

theorem readScraps_escaped (read : List Scrap) (character : Char) (rest : List Char) :
    readScraps read (escaped character ++ rest) = readScraps (scrapOf character :: read) rest := by
  unfold escaped
  split
  · rename_i isQuote
    subst isQuote
    rfl
  split
  · rename_i isBackslash
    subst isBackslash
    rfl
  split
  · rename_i isFeed
    subst isFeed
    rfl
  split
  · rename_i isReturn
    subst isReturn
    rfl
  split
  · rename_i isTab
    subst isTab
    rfl
  split
  · rename_i isBackspace
    rw [eq_ofNat_of_toNat isBackspace]
    rfl
  split
  · rename_i isFormFeed
    rw [eq_ofNat_of_toNat isFormFeed]
    rfl
  rename_i notQuote notBackslash notFeed notReturn notTab notBackspace notFormFeed
  split
  · rename_i control
    have scrap : scrapOf character = .unit character.toNat := by
      unfold scrapOf
      rw [if_neg (by simp [*]), if_pos control]
    simp only [List.cons_append, List.nil_append, readScraps, scrap,
      hexUnit?_control character.toNat control]
  · rename_i printed
    have scrap : scrapOf character = .character character := by
      unfold scrapOf
      rw [if_neg printed, ite_self]
    rw [scrap, List.singleton_append, readScraps_printed read notQuote notBackslash printed]

theorem joinScraps_unit (read : List Char) {unit : Nat} (control : unit < 32) (rest : List Scrap) :
    joinScraps read (.unit unit :: rest) = joinScraps (Char.ofNat unit :: read) rest := by
  have notLeading : isLeading unit = false := by
    simp only [isLeading, Bool.and_eq_false_iff, decide_eq_false_iff_not]
    omega
  have notTrailing : isTrailing unit = false := by
    simp only [isTrailing, Bool.and_eq_false_iff, decide_eq_false_iff_not]
    omega
  cases rest with
  | nil => simp [joinScraps, notLeading, notTrailing]
  | cons next rest => cases next <;> simp [joinScraps, notLeading, notTrailing]

/-- The characters of written pieces. A unit among them stands for itself, as none is a surrogate. -/
theorem joinScraps_scraps (read : List Char) (characters : List Char) :
    joinScraps read (characters.map scrapOf) = some (read.reverse ++ characters) := by
  induction characters generalizing read with
  | nil => rw [List.map_nil, joinScraps, List.append_nil]
  | cons character rest inductionHypothesis =>
      have goesOn := inductionHypothesis (character :: read)
      rw [List.reverse_cons, List.append_assoc, List.singleton_append] at goesOn
      rw [List.map_cons, ← goesOn]
      have kinds : scrapOf character = .character character ∨
          scrapOf character = .unit character.toNat ∧ character.toNat < 32 := by
        unfold scrapOf
        split
        · exact .inl rfl
        · split
          · rename_i control
            exact .inr ⟨rfl, control⟩
          · exact .inl rfl
      rcases kinds with plain | ⟨unit, control⟩
      · rw [plain, joinScraps]
      · rw [unit, joinScraps_unit read control, Char.ofNat_toNat]

theorem readScraps_render (read : List Scrap) (characters rest : List Char) :
    readScraps read (characters.flatMap escaped ++ '"' :: rest) =
      some ((characters.map scrapOf).reverse ++ read, rest) := by
  induction characters generalizing read with
  | nil => rfl
  | cons character characters inductionHypothesis =>
      rw [List.flatMap_cons, List.append_assoc, readScraps_escaped, inductionHypothesis, List.map_cons,
        List.reverse_cons, List.append_assoc, List.singleton_append]

/-- A written string is read back, whatever its characters. -/
theorem readString_render (text : String) (rest : List Char) :
    readString (text.toList.flatMap escaped ++ '"' :: rest) = some (some text, rest) := by
  unfold readString
  rw [readScraps_render, List.append_nil]
  simp only [Option.map_some, List.reverse_reverse, joinScraps_scraps, List.reverse_nil, List.nil_append,
    String.ofList_toList]

/-! ## Natural numbers -/

/-- The numeral that a natural number is written as. -/
def numeralOf (number : Nat) : Numeral where
  negative := false
  whole := (Nat.toDigits 10 number).map fun digit => digit.toNat - '0'.toNat
  fraction := none
  exponent := none

/-- Whether a numeral ends where a text begins. -/
def EndsNumeral (text : List Char) : Prop :=
  ∀ next ∈ text.head?, isDigit next = false ∧ next ≠ '.' ∧ next ≠ 'e' ∧ next ≠ 'E'

theorem ofDigits_numeralOf (number : Nat) : ofDigits (numeralOf number).whole = number := by
  have read := Nat.ofDigitChars_toDigits (b := 10) (n := number) (by decide) (by decide)
  rw [Nat.ofDigitChars_eq_foldl] at read
  unfold ofDigits numeralOf
  rw [List.foldl_map]
  simpa only [Nat.mul_comm] using read

theorem number?_numeralOf {number : Nat} (bounded : number < wordBound) :
    (numeralOf number).number? = some (.integer number) := by
  unfold Numeral.number?
  rw [ofDigits_numeralOf]
  simp [numeralOf, bounded]

theorem isDigit_of_mem_toDigits {number : Nat} {digit : Char} (member : digit ∈ Nat.toDigits 10 number) :
    isDigit digit = true := by
  have within := Nat.isDigit_of_mem_toDigits (by decide) (by decide) member
  simp only [Char.isDigit, Bool.and_eq_true, decide_eq_true_eq] at within
  simp only [isDigit, Bool.and_eq_true, decide_eq_true_eq]
  exact within

/-- A positive number is not written with a zero in front. -/
theorem whole_numeralOf_of_pos (number : Nat) (positive : 0 < number) :
    ∃ less others, (numeralOf number).whole = (less + 1) :: others := by
  unfold numeralOf
  dsimp only
  induction number using Nat.strongRecOn with
  | ind number inductionHypothesis =>
      by_cases single : number < 10
      · have digits : ∀ digit < 10, (Nat.digitChar digit).toNat - '0'.toNat = digit := by decide
        refine ⟨number - 1, [], ?_⟩
        rw [Nat.toDigits_of_lt_base single, List.map_singleton, digits number single,
          Nat.sub_add_cancel positive]
      · have fewer : number / 10 < number := Nat.div_lt_self positive (by decide)
        obtain ⟨less, others, same⟩ := inductionHypothesis _ fewer (by omega)
        have digits : Nat.toDigits 10 number =
            Nat.toDigits 10 (number / 10) ++ [Nat.digitChar (number % 10)] :=
          Nat.toDigits_of_base_le (by decide) (by omega)
        rw [digits, List.map_append, same, List.cons_append]
        exact ⟨less, _, rfl⟩

theorem readDigits_toDigits (number : Nat) {rest : List Char} (ends : EndsNumeral rest) :
    readDigits (Nat.toDigits 10 number ++ rest) = ((numeralOf number).whole, rest) := by
  have digits : ∀ digit ∈ Nat.toDigits 10 number, isDigit digit = true :=
    fun _ member => isDigit_of_mem_toDigits member
  have stops : rest.takeWhile isDigit = [] ∧ rest.dropWhile isDigit = rest := by
    cases rest with
    | nil => exact ⟨rfl, rfl⟩
    | cons next rest =>
        have noDigit := (ends next rfl).1
        exact ⟨List.takeWhile_cons_of_neg (by simp [noDigit]), List.dropWhile_cons_of_neg (by simp [noDigit])⟩
  unfold readDigits
  rw [List.takeWhile_append_of_pos digits, List.dropWhile_append_of_pos digits, stops.1, stops.2,
    List.append_nil]
  rfl

theorem readWhole_toDigits (number : Nat) {rest : List Char} (ends : EndsNumeral rest) :
    readWhole (Nat.toDigits 10 number ++ rest) = some ((numeralOf number).whole, rest) := by
  unfold readWhole
  rw [readDigits_toDigits number ends]
  rcases Nat.eq_zero_or_pos number with rfl | positive
  · rfl
  · obtain ⟨less, others, same⟩ := whole_numeralOf_of_pos number positive
    rw [same]
    rfl

theorem readFraction_of_ends {text : List Char} (ends : EndsNumeral text) :
    readFraction text = some (none, text) := by
  unfold readFraction
  split
  · exact absurd rfl (ends _ rfl).2.1
  · rfl

theorem readExponent_of_ends {text : List Char} (ends : EndsNumeral text) :
    readExponent text = some (none, text) := by
  unfold readExponent
  split
  · exact absurd rfl (ends _ rfl).2.2.1
  · exact absurd rfl (ends _ rfl).2.2.2
  · rfl

theorem readNumeral_toDigits (number : Nat) {rest : List Char} (ends : EndsNumeral rest) :
    readNumeral (Nat.toDigits 10 number ++ rest) = some (numeralOf number, rest) := by
  have unsigned : ∀ others, Nat.toDigits 10 number ++ rest ≠ '-' :: others := by
    intro others same
    cases digits : Nat.toDigits 10 number with
    | nil => exact Nat.toDigits_ne_nil digits
    | cons digit _ =>
        rw [digits] at same
        have member : digit ∈ Nat.toDigits 10 number := digits ▸ List.mem_cons_self ..
        have isDigit := isDigit_of_mem_toDigits member
        cases same
        cases isDigit
  unfold readNumeral
  split
  rename_i negative text signed
  have positive : (false, Nat.toDigits 10 number ++ rest) = (negative, text) := by
    rw [← signed]
    split
    · rename_i same
      exact absurd same (unsigned _)
    · rfl
  cases positive
  simp only [readWhole_toDigits number ends, readFraction_of_ends ends, readExponent_of_ends ends,
    Option.bind_eq_bind, Option.bind_some, Option.pure_def]
  rfl

end NarrativePlayer.Json
