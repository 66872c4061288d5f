import Mathlib.Data.List.Basic
import Mathlib.Data.List.TakeWhile
import NarrativePlayer.Template

/-!
Contract: where the tokens of a template stand.

An occurrence is a part of the text, wherever it stands: which ones there are does not depend on any order
of reading. Owns that occurrences never overlap, that reading from the left meets all of them and nothing
else, and that filling in replaces all of them at once. What the variables hold is not owned here.
-/

namespace NarrativePlayer.Template

/-! ## Occurrences -/

/-- An ASCII letter or digit, or an underscore. -/
def InName (character : Char) : Prop :=
  ('A' ≤ character ∧ character ≤ 'Z') ∨ ('a' ≤ character ∧ character ≤ 'z') ∨
    ('0' ≤ character ∧ character ≤ '9') ∨ character = '_'

/-- One or more characters of names. -/
def IsName (name : List Char) : Prop :=
  name ≠ [] ∧ ∀ character ∈ name, InName character

/-- A name between braces. -/
def tokenOf (name : List Char) : List Char :=
  '\x7b' :: (name ++ ['\x7d'])

/-- From a position on, a text begins with a token. -/
structure Occurs (text : List Char) (position : Nat) (name : List Char) : Prop where
  isName : IsName name
  begins : tokenOf name <+: text.drop position

/-- The name of the token that a text begins with. -/
def leadingName? : List Char → Option (List Char)
  | [] => none
  | character :: rest =>
      let name := rest.takeWhile isNameCharacter
      if character = '\x7b' ∧ name ≠ [] ∧ (rest.dropWhile isNameCharacter).head? = some '\x7d' then
        some name
      else none

/-- The tokens of a text with the positions at which they stand. -/
def occurrences (text : List Char) : List (Nat × List Char) :=
  (List.range text.length).filterMap fun position =>
    (leadingName? (text.drop position)).map (position, ·)

/-- Whether the token that stands at a position reaches over another. -/
def covers (position : Nat) (occurrence : Nat × List Char) : Bool :=
  occurrence.1 ≤ position ∧ position < occurrence.1 + (tokenOf occurrence.2).length

def valueOf (store : Table) (name : List Char) : List Char :=
  ((store.find? (String.ofList name)).getD "").toList

/-- What becomes of the character at a position: where a token begins, the value of its variable; within a
token, nothing; elsewhere, it stays. -/
def partAt (store : Table) (text : List Char) (position : Nat) : List Char :=
  match (occurrences text).find? (covers position) with
  | some (beginning, name) => if beginning = position then valueOf store name else []
  | none => text[position]?.toList

/-! ## Names -/

theorem isNameCharacter_iff (character : Char) : isNameCharacter character = true ↔ InName character := by
  unfold isNameCharacter Char.isAlphanum Char.isAlpha Char.isUpper Char.isLower Char.isDigit
  simp only [InName, Bool.or_eq_true, Bool.and_eq_true, decide_eq_true_eq, Char.le_def]
  grind

theorem isNameCharacter_brace : isNameCharacter '\x7b' = false := by decide

theorem isNameCharacter_closing : isNameCharacter '\x7d' = false := by decide

theorem isName_iff (name : List Char) :
    IsName name ↔ name ≠ [] ∧ ∀ character ∈ name, isNameCharacter character = true := by
  simp only [IsName, isNameCharacter_iff]

@[simp] theorem length_tokenOf (name : List Char) : (tokenOf name).length = name.length + 2 := by
  simp [tokenOf]

/-- Behind its first character, a token holds no opening brace. -/
theorem ne_brace_of_mem_tail {name : List Char} (isName : IsName name) {character : Char}
    (member : character ∈ name ++ ['\x7d']) : character ≠ '\x7b' := by
  rintro rfl
  rcases List.mem_append.mp member with inName | closing
  · have counted := ((isName_iff name).mp isName).2 _ inName
    rw [isNameCharacter_brace] at counted
    cases counted
  · exact absurd (List.mem_singleton.mp closing) (by decide)

theorem leadingName?_eq_some_iff {text name : List Char} :
    leadingName? text = some name ↔ IsName name ∧ tokenOf name <+: text := by
  rw [isName_iff]
  constructor
  · intro leads
    cases text with
    | nil => cases leads
    | cons character rest =>
        obtain ⟨⟨rfl, named, closes⟩, same⟩ := Option.ite_none_right_eq_some.mp leads
        cases same
        refine ⟨⟨named, fun character member => List.mem_takeWhile_imp member⟩, ?_⟩
        obtain ⟨after, reached⟩ := List.head?_eq_some_iff.mp closes
        refine ⟨after, ?_⟩
        have whole := List.takeWhile_append_dropWhile (p := isNameCharacter) (l := rest)
        rw [reached] at whole
        simpa [tokenOf] using whole
  · rintro ⟨⟨named, inName⟩, after, rfl⟩
    have taken : (name ++ '\x7d' :: after).takeWhile isNameCharacter = name := by
      rw [List.takeWhile_append_of_pos inName, List.takeWhile_cons_of_neg (by decide), List.append_nil]
    have dropped : (name ++ '\x7d' :: after).dropWhile isNameCharacter = '\x7d' :: after := by
      rw [List.dropWhile_append_of_pos inName, List.dropWhile_cons_of_neg (by decide)]
    simp [tokenOf, leadingName?, taken, dropped, named]

/-! ## Positions -/

theorem mem_occurrences {text name : List Char} {position : Nat} :
    (position, name) ∈ occurrences text ↔ Occurs text position name := by
  constructor
  · intro member
    obtain ⟨other, -, leads⟩ := List.mem_filterMap.mp member
    obtain ⟨found, leads, same⟩ := Option.map_eq_some_iff.mp leads
    cases same
    obtain ⟨isName, begins⟩ := leadingName?_eq_some_iff.mp leads
    exact ⟨isName, begins⟩
  · rintro ⟨isName, begins⟩
    have inside : position < text.length := by
      have longer := begins.length_le
      rw [length_tokenOf, List.length_drop] at longer
      omega
    refine List.mem_filterMap.mpr ⟨position, List.mem_range.mpr inside, ?_⟩
    rw [leadingName?_eq_some_iff.mpr ⟨isName, begins⟩]
    rfl

theorem ascending_occurrences (text : List Char) :
    (occurrences text).Pairwise fun first second => first.1 < second.1 := by
  refine List.pairwise_filterMap.mpr (List.pairwise_lt_range.imp ?_)
  intro first second before left leads right leadsToo
  obtain ⟨-, -, rfl⟩ := Option.map_eq_some_iff.mp leads
  obtain ⟨-, -, rfl⟩ := Option.map_eq_some_iff.mp leadsToo
  exact before

/-- A token ends before the next one begins. -/
theorem Occurs.apart {text name another : List Char} {position other : Nat}
    (occurs : Occurs text position name) (occursToo : Occurs text other another)
    (before : position < other) : position + (tokenOf name).length ≤ other := by
  apply Classical.byContradiction
  intro within
  -- The later token would open its brace within the earlier one, behind the first character of it.
  obtain ⟨after, whole⟩ := occurs.begins
  obtain ⟨afterToo, begins⟩ := occursToo.begins
  have inside : other - position < (tokenOf name).length := by omega
  have opens : (tokenOf name)[other - position]? = some '\x7b' := by
    have sameText : (text.drop position)[other - position]? = (text.drop other)[0]? := by
      rw [List.getElem?_drop, List.getElem?_drop]
      congr 1
      omega
    rw [← whole, List.getElem?_append_left inside, ← begins] at sameText
    exact sameText
  obtain ⟨offset, later⟩ : ∃ offset, other - position = offset + 1 := ⟨other - position - 1, by omega⟩
  rw [later, tokenOf, List.getElem?_cons_succ] at opens
  exact ne_brace_of_mem_tail occurs.isName (List.mem_of_getElem? opens) rfl

theorem Occurs.unique {text name another : List Char} {position : Nat}
    (occurs : Occurs text position name) (occursToo : Occurs text position another) :
    name = another :=
  Option.some.inj ((leadingName?_eq_some_iff.mpr ⟨occurs.isName, occurs.begins⟩).symm.trans
    (leadingName?_eq_some_iff.mpr ⟨occursToo.isName, occursToo.begins⟩))

/-- An occurrence further behind. -/
def behind (distance : Nat) (occurrence : Nat × List Char) : Nat × List Char :=
  (distance + occurrence.1, occurrence.2)

theorem occurrences_cons (character : Char) (rest : List Char) :
    occurrences (character :: rest) =
      (leadingName? (character :: rest)).toList.map (0, ·) ++ (occurrences rest).map (behind 1) := by
  have later : (List.range rest.length).filterMap (fun position =>
      (leadingName? ((character :: rest).drop (position + 1))).map (position + 1, ·)) =
      (occurrences rest).map (behind 1) := by
    rw [occurrences, List.map_filterMap]
    refine List.filterMap_congr fun position _ => ?_
    simp [behind, Function.comp_def, Nat.add_comm]
  rw [occurrences, List.length_cons, List.range_succ_eq_map, List.filterMap_cons, List.filterMap_map,
    ← later]
  rw [List.drop_zero]
  cases leadingName? (character :: rest) <;> simp

theorem behind_behind (near far : Nat) :
    behind near ∘ behind far = behind (near + far) := by
  funext occurrence
  simp [behind, Nat.add_assoc]

/-- Where no brace is opened, no token begins. -/
theorem occurrences_append {front : List Char} (unopened : ∀ character ∈ front, character ≠ '\x7b')
    (rest : List Char) : occurrences (front ++ rest) = (occurrences rest).map (behind front.length) := by
  induction front with
  | nil =>
      have still : behind 0 = id := by
        funext occurrence
        simp [behind]
      simp [still]
  | cons character front inductionHypothesis =>
      have none : leadingName? (character :: (front ++ rest)) = none := by
        simp [leadingName?, unopened character List.mem_cons_self]
      rw [List.cons_append, occurrences_cons, none,
        inductionHypothesis fun other member => unopened other (List.mem_cons_of_mem _ member)]
      simp [behind_behind, Nat.add_comm]

theorem occurrences_tokenOf {name : List Char} (isName : IsName name) (rest : List Char) :
    occurrences (tokenOf name ++ rest) =
      (0, name) :: (occurrences rest).map (behind (tokenOf name).length) := by
  have leads : leadingName? (tokenOf name ++ rest) = some name :=
    leadingName?_eq_some_iff.mpr ⟨isName, List.prefix_append _ _⟩
  have opened : tokenOf name ++ rest = '\x7b' :: ((name ++ ['\x7d']) ++ rest) := by simp [tokenOf]
  have far : 1 + (name ++ ['\x7d']).length = (tokenOf name).length := by
    simp only [length_tokenOf, List.length_append, List.length_singleton]
    omega
  rw [opened] at leads ⊢
  rw [occurrences_cons, leads, occurrences_append fun _ => ne_brace_of_mem_tail isName, List.map_map,
    behind_behind, far]
  rfl

/-! ## Reading from the left -/

theorem scan_append_unopened {front : List Char} (unopened : ∀ character ∈ front, character ≠ '\x7b')
    (rest : List Char) : scan none (front ++ rest) = front.map .literal ++ scan none rest := by
  induction front with
  | nil => rfl
  | cons character front inductionHypothesis =>
      rw [List.cons_append, scan, if_neg (unopened character List.mem_cons_self),
        inductionHypothesis fun other member => unopened other (List.mem_cons_of_mem _ member)]
      rfl

theorem ne_brace_of_isNameCharacter {character : Char} (inName : isNameCharacter character = true) :
    character ≠ '\x7b' := by
  rintro rfl
  rw [isNameCharacter_brace] at inName
  cases inName

/-- Characters of names are kept in mind. -/
theorem scan_some_append {name : List Char} (inName : ∀ character ∈ name, isNameCharacter character = true)
    (read rest : List Char) :
    scan (some read) (name ++ rest) = scan (some (name.reverse ++ read)) rest := by
  induction name generalizing read with
  | nil => rfl
  | cons character name inductionHypothesis =>
      have here := inName character List.mem_cons_self
      rw [List.cons_append, scan, if_neg (ne_brace_of_isNameCharacter here)]
      simp only [here, if_true]
      rw [inductionHypothesis fun other member => inName other (List.mem_cons_of_mem _ member)]
      simp

/-- What was kept in mind makes no token, if neither the name goes on nor the brace is closed. -/
theorem scan_some_of_abandoned {read tail : List Char}
    (ends : ∀ character ∈ tail.head?, isNameCharacter character = false)
    (unclosed : read ≠ [] → tail.head? ≠ some '\x7d') :
    scan (some read) tail = abandoned (some read) ++ scan none tail := by
  cases tail with
  | nil => simp [scan, abandoned]
  | cons character rest =>
      have notInName : isNameCharacter character = false := ends character rfl
      by_cases opens : character = '\x7b'
      · simp [scan, opens, abandoned]
      · have noToken : ¬ (character = '\x7d' ∧ read ≠ []) := by
          rintro ⟨rfl, something⟩
          exact unclosed something rfl
        simp only [scan, if_neg opens, notInName, if_neg noToken, Bool.false_eq_true, if_false]

/-- A token is read as one. -/
theorem scan_tokenOf {name : List Char} (isName : IsName name) (rest : List Char) :
    scan none (tokenOf name ++ rest) = .token name :: scan none rest := by
  obtain ⟨named, inName⟩ := (isName_iff name).mp isName
  have opened : tokenOf name ++ rest = '\x7b' :: (name ++ '\x7d' :: rest) := by simp [tokenOf]
  rw [opened, scan, if_pos rfl, scan_some_append inName, List.append_nil, scan,
    if_neg (show ('\x7d' : Char) ≠ '\x7b' by decide)]
  simp [isNameCharacter_closing, named, abandoned]

/-- Where no token begins, a character is read as itself. -/
theorem scan_of_leadingName?_eq_none {character : Char} {rest : List Char}
    (none : leadingName? (character :: rest) = none) :
    scan .none (character :: rest) = .literal character :: scan .none rest := by
  by_cases opens : character = '\x7b'
  · subst opens
    -- Behind a stray brace, the characters of a name are kept in mind first and given back where it breaks off.
    have inName : ∀ other ∈ rest.takeWhile isNameCharacter, isNameCharacter other = true :=
      fun other member => List.mem_takeWhile_imp member
    have ends : ∀ other ∈ (rest.dropWhile isNameCharacter).head?, isNameCharacter other = false := by
      intro other first
      have stops := List.head?_dropWhile_not isNameCharacter rest
      rw [first] at stops
      simpa using stops
    have unclosed : rest.takeWhile isNameCharacter ≠ [] →
        (rest.dropWhile isNameCharacter).head? ≠ some '\x7d' := by
      intro named closes
      simp [leadingName?, named, closes] at none
    have whole := List.takeWhile_append_dropWhile (p := isNameCharacter) (l := rest)
    generalize rest.takeWhile isNameCharacter = name at *
    generalize rest.dropWhile isNameCharacter = tail at *
    subst whole
    rw [scan, if_pos rfl, scan_some_append inName, List.append_nil, scan_some_of_abandoned ends
      (fun something => unclosed (by simpa using something)),
      scan_append_unopened fun other member => ne_brace_of_isNameCharacter (inName other member)]
    simp [abandoned]
  · rw [scan, if_neg opens]

/-- A text is read token by token, and between tokens character by character. -/
theorem reading_induction {motive : List Char → Prop} (nil : motive [])
    (literal : ∀ character rest, leadingName? (character :: rest) = none → motive rest →
      motive (character :: rest))
    (token : ∀ name rest, IsName name → motive rest → motive (tokenOf name ++ rest))
    (text : List Char) : motive text := by
  generalize bound : text.length = length
  induction length using Nat.strongRecOn generalizing text with
  | ind length inductionHypothesis =>
      subst bound
      cases text with
      | nil => exact nil
      | cons character rest =>
          cases leads : leadingName? (character :: rest) with
          | none =>
              exact literal character rest leads (inductionHypothesis rest.length (by simp) rest rfl)
          | some name =>
              obtain ⟨isName, after, whole⟩ := leadingName?_eq_some_iff.mp leads
              have shorter : after.length < (character :: rest).length := by
                rw [← whole, List.length_append, length_tokenOf]
                omega
              rw [← whole]
              exact token name after isName (inductionHypothesis after.length shorter after rfl)

/-- The tokens that are read are those that occur. -/
theorem filterMap_name?_scan (text : List Char) :
    (scan none text).filterMap Piece.name? =
      (occurrences text).map fun occurrence => String.ofList occurrence.2 := by
  induction text using reading_induction with
  | nil => rfl
  | literal character rest none inductionHypothesis =>
      rw [scan_of_leadingName?_eq_none none, occurrences_cons, none, List.filterMap_cons_none rfl]
      simpa [behind, Function.comp_def] using inductionHypothesis
  | token name rest isName inductionHypothesis =>
      have named : (Piece.token name).name? = some (String.ofList name) := rfl
      rw [scan_tokenOf isName, occurrences_tokenOf isName, List.filterMap_cons_some named]
      simpa [behind, Function.comp_def] using inductionHypothesis

/-! ## Filling in -/

theorem covers_behind (distance position : Nat) :
    covers (distance + position) ∘ behind distance = covers position := by
  funext occurrence
  simp only [Function.comp_apply, covers, behind, Nat.add_le_add_iff_left, Nat.add_assoc,
    Nat.add_lt_add_iff_left]

/-- Behind a part of a text that no token reaches over, all goes on as without it. -/
theorem partAt_behind {store : Table} {front rest : List Char} {first : List (Nat × List Char)}
    (split : occurrences (front ++ rest) = first ++ (occurrences rest).map (behind front.length))
    (within : ∀ occurrence ∈ first, occurrence.1 + (tokenOf occurrence.2).length ≤ front.length)
    (position : Nat) :
    partAt store (front ++ rest) (front.length + position) = partAt store rest position := by
  have passed : first.find? (covers (front.length + position)) = none := by
    refine List.find?_eq_none.mpr fun occurrence member => ?_
    have before := within occurrence member
    simp only [covers, decide_eq_true_eq]
    omega
  have later : (occurrences (front ++ rest)).find? (covers (front.length + position)) =
      ((occurrences rest).find? (covers position)).map (behind front.length) := by
    rw [split, List.find?_append, passed, Option.none_or, List.find?_map, covers_behind]
  have same : (front ++ rest)[front.length + position]? = rest[position]? := by
    rw [List.getElem?_append_right (Nat.le_add_right _ _), Nat.add_sub_cancel_left]
  rw [partAt, partAt, later, same]
  cases (occurrences rest).find? (covers position) <;> simp [behind]

/-- Filling in is done at every position at once. -/
theorem fill_scan (store : Table) (text : List Char) :
    (scan none text).flatMap (Piece.fill store) =
      (List.range text.length).flatMap (partAt store text) := by
  -- In both cases something is read from the front that no later token reaches into, so that the positions
  -- behind it come to what they come to in the rest alone.
  induction text using reading_induction with
  | nil => rfl
  | literal character rest none inductionHypothesis =>
      have split : occurrences ([character] ++ rest) =
          [] ++ (occurrences rest).map (behind [character].length) := by
        rw [List.singleton_append, occurrences_cons, none]
        rfl
      have nothing : (occurrences (character :: rest)).find? (covers 0) = .none := by
        rw [occurrences_cons, none]
        refine List.find?_eq_none.mpr fun occurrence member => ?_
        obtain ⟨later, -, rfl⟩ := List.mem_map.mp member
        simp [covers, behind]
      have here : partAt store (character :: rest) 0 = [character] := by
        rw [partAt, nothing]
        rfl
      have later : ∀ position, partAt store (character :: rest) (position + 1) = partAt store rest position := by
        intro position
        have shifted : partAt store ([character] ++ rest) ([character].length + position) = _ :=
          partAt_behind split (by simp) position
        rwa [List.length_singleton, Nat.add_comm] at shifted
      rw [scan_of_leadingName?_eq_none none, List.flatMap_cons, inductionHypothesis, List.length_cons,
        List.range_succ_eq_map, List.flatMap_cons, List.flatMap_map, here]
      simp only [later]
      rfl
  | token name rest isName inductionHypothesis =>
      have split := occurrences_tokenOf isName rest
      have here : partAt store (tokenOf name ++ rest) 0 = valueOf store name := by
        rw [partAt, split, List.find?_cons_of_pos (by simp [covers])]
        simp
      have inside : ∀ position < name.length + 1, partAt store (tokenOf name ++ rest) (position + 1) = [] := by
        intro position within
        rw [partAt, split, List.find?_cons_of_pos (by simp [covers]; omega)]
        simp
      have later : ∀ position, partAt store (tokenOf name ++ rest) ((tokenOf name).length + position) =
          partAt store rest position :=
        partAt_behind (show _ = [(0, name)] ++ _ from split) (by simp)
      have token : (List.range (tokenOf name).length).flatMap (partAt store (tokenOf name ++ rest)) =
          valueOf store name := by
        rw [length_tokenOf, List.range_succ_eq_map, List.flatMap_cons, List.flatMap_map, here,
          List.flatMap_eq_nil_iff.mpr fun position member => inside position (List.mem_range.mp member),
          List.append_nil]
      rw [scan_tokenOf isName, List.flatMap_cons, inductionHypothesis, List.length_append, List.range_add,
        List.flatMap_append, token, List.flatMap_map]
      simp only [later]
      rfl

/-- An opening brace is read anew, whatever was kept in mind. -/
theorem scan_append_brace (name : Option (List Char)) (front rest : List Char) :
    scan name (front ++ '\x7b' :: rest) = scan name front ++ scan none ('\x7b' :: rest) := by
  induction front generalizing name with
  | nil => simp [scan, abandoned]
  | cons character front inductionHypothesis =>
      by_cases opens : character = '\x7b'
      · simp [scan, opens, inductionHypothesis]
      · cases name with
        | none => simp only [scan, if_neg opens, inductionHypothesis, List.cons_append]
        | some read =>
            by_cases inName : isNameCharacter character = true
            · simp only [scan, if_neg opens, if_pos inName, inductionHypothesis, List.cons_append]
            · by_cases closes : character = '\x7d' ∧ read ≠ []
              · simp only [scan, if_neg opens, if_neg inName, if_pos closes, inductionHypothesis,
                  List.cons_append]
              · simp only [scan, if_neg opens, if_neg inName, if_neg closes, inductionHypothesis,
                  List.cons_append, List.append_assoc]

theorem pieces_append_token (before name after : String) (isName : IsName name.toList) :
    pieces (before ++ String.ofList (tokenOf name.toList) ++ after) =
      pieces before ++ .token name.toList :: pieces after := by
  have opened : (before ++ String.ofList (tokenOf name.toList) ++ after).toList =
      before.toList ++ '\x7b' :: (name.toList ++ '\x7d' :: after.toList) := by
    simp [tokenOf]
  have token : '\x7b' :: (name.toList ++ '\x7d' :: after.toList) = tokenOf name.toList ++ after.toList := by
    simp [tokenOf]
  rw [pieces, opened, scan_append_brace, token, scan_tokenOf isName]
  rfl

/-- Whatever stands around a token, stray braces included, it is replaced by the value of its variable. -/
theorem fill_append_token (before name after : String) (isName : IsName name.toList) (store : Table) :
    fill (before ++ String.ofList (tokenOf name.toList) ++ after) store =
      fill before store ++ (store.find? name).getD "" ++ fill after store := by
  rw [fill, pieces_append_token before name after isName, fill, fill]
  apply String.toList_injective
  simp [Piece.fill]

theorem fill_congr {template : String} {store other : Table}
    (agree : ∀ name ∈ tokens template, store.find? name = other.find? name) :
    fill template store = fill template other := by
  have pieceByPiece : ∀ piece ∈ pieces template, piece.fill store = piece.fill other := by
    intro piece member
    cases piece with
    | literal character => rfl
    | token name =>
        have named : String.ofList name ∈ tokens template :=
          List.mem_filterMap.mpr ⟨.token name, member, rfl⟩
        simp only [Piece.fill, agree _ named]
  simp only [fill, List.flatMap_congr pieceByPiece]

/-- The tokens of a template are the parts of it that are a brace, letters, digits or underscores, and a
closing brace. No two of them overlap, and their names are listed in the order of their positions. Filling
in replaces all of them at once and keeps every other character, so a token is replaced by its value
whatever stands around it, and no value is looked at again. So only the variables that are named count. -/
theorem fill_replaces_occurrences (template : String) (store : Table) :
    (∀ position name, (position, name) ∈ occurrences template.toList ↔
      Occurs template.toList position name) ∧
    (occurrences template.toList).Pairwise (fun first second => first.1 < second.1) ∧
    (∀ position other name another, Occurs template.toList position name →
      Occurs template.toList other another →
        (position = other → name = another) ∧
        (position < other → position + (tokenOf name).length ≤ other)) ∧
    tokens template = (occurrences template.toList).map (fun occurrence => String.ofList occurrence.2) ∧
    (fill template store).toList =
      (List.range template.toList.length).flatMap (partAt store template.toList) ∧
    (∀ before name after : String, IsName name.toList →
      template = before ++ String.ofList (tokenOf name.toList) ++ after →
        fill template store = fill before store ++ (store.find? name).getD "" ++ fill after store) ∧
    ∀ other : Table, (∀ name ∈ tokens template, store.find? name = other.find? name) →
      fill template store = fill template other := by
  refine ⟨fun position name => mem_occurrences, ascending_occurrences _, ?_, filterMap_name?_scan _, ?_,
    ?_, fun other agree => fill_congr agree⟩
  · intro position other name another occurs occursToo
    refine ⟨?_, occurs.apart occursToo⟩
    rintro rfl
    exact occurs.unique occursToo
  · rw [fill, String.toList_ofList]
    exact fill_scan store template.toList
  · rintro before name after isName rfl
    exact fill_append_token before name after isName store

/-- The inner of two opening braces belongs to the token, and a value with braces is not looked at again. -/
theorem nested_braces_filled :
    let store := Table.ofList [("b", "\x7bb\x7d")]
    IsName "b".toList ∧ tokens "\x7ba\x7bb\x7d\x7d" = ["b"] ∧
      fill "\x7ba\x7bb\x7d\x7d" store = "\x7ba\x7bb\x7d\x7d" ∧
      fill "\x7ba\x7bb\x7d\x7d" .empty = "\x7ba\x7d" := by
  intro store
  have isName : IsName "b".toList :=
    (isName_iff _).mpr ⟨by decide, List.forall_mem_singleton.mpr (by decide)⟩
  have expanded : ∀ given : Table, fill "\x7ba\x7bb\x7d\x7d" given =
      fill "\x7ba" given ++ (given.find? "b").getD "" ++ fill "\x7d" given := by
    intro given
    obtain ⟨-, -, -, -, -, around, -⟩ := fill_replaces_occurrences "\x7ba\x7bb\x7d\x7d" given
    exact around "\x7ba" "b" "\x7d" isName (by decide)
  refine ⟨isName, by decide, ?_, ?_⟩
  · rw [expanded]
    decide
  · rw [expanded]
    decide

end NarrativePlayer.Template
