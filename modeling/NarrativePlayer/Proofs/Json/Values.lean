import NarrativePlayer.Proofs.Json.Tokens

/-!
Contract: values that are written and read again.

A plain value has only natural numbers below 2^64, and says how many containers it opens in each other.
Owns that the text of a plain value is read as the draft of the value, that the bound which the reader
gives itself is enough for that, and that the draft amounts to the value where there is room for it.
-/

namespace NarrativePlayer.Json

open NarrativePlayer.Decimal

mutual

/-- The draft that the text of a value is read as. -/
def Value.draft : Value → Draft
  | .null => .null
  | .bool value => .bool value
  | .number (.integer value) => .numeral (numeralOf value.toNat)
  | .number (.double _ _) => .broken
  | .string value => .string (some value)
  | .array items => .array (itemDrafts items) true
  | .object members => .object (memberDrafts members) true

def itemDrafts : List Value → List Draft
  | [] => []
  | item :: rest => item.draft :: itemDrafts rest

def memberDrafts : List (String × Value) → List (Option String × Draft)
  | [] => []
  | (key, value) :: rest => (some key, value.draft) :: memberDrafts rest

end

theorem itemDrafts_eq (items : List Value) : itemDrafts items = items.map Value.draft := by
  induction items with
  | nil => rfl
  | cons item rest inductionHypothesis => rw [itemDrafts, inductionHypothesis, List.map_cons]

theorem memberDrafts_eq (members : List (String × Value)) :
    memberDrafts members = members.map fun member => (some member.1, member.2.draft) := by
  induction members with
  | nil => rfl
  | cons member rest inductionHypothesis => rw [memberDrafts, inductionHypothesis, List.map_cons]

/-- Whether a value has only natural numbers below 2^64, and opens at most so many containers in each
other. -/
inductive Value.Plain : Nat → Value → Prop
  | null (room : Nat) : Plain room .null
  | bool (room : Nat) (value : Bool) : Plain room (.bool value)
  | natural (room : Nat) {number : Nat} (bounded : number < wordBound) : Plain room (.natural number)
  | string (room : Nat) (value : String) : Plain room (.string value)
  | array {room : Nat} {items : List Value} (plain : ∀ item ∈ items, Plain room item) :
      Plain (room + 1) (.array items)
  | object {room : Nat} {members : List (String × Value)}
      (plain : ∀ member ∈ members, Plain room member.2) : Plain (room + 1) (.object members)

/-! ## What the text of a value begins with -/

theorem skipSpaces_cons (first : Char) (solid : isSpace first = false) (rest : List Char) :
    skipSpaces (first :: rest) = first :: rest :=
  List.dropWhile_cons_of_neg (by simp [solid])

/-- What holds of ten characters from zero on holds of every digit. -/
theorem of_isDigit (property : Char → Prop) (each : ∀ place < 10, property (Char.ofNat (48 + place)))
    {digit : Char} (isDigit : Json.isDigit digit = true) : property digit := by
  simp only [Json.isDigit, Bool.and_eq_true, decide_eq_true_eq] at isDigit
  have least : 48 ≤ digit.toNat := isDigit.1
  have greatest : digit.toNat ≤ 57 := isDigit.2
  have here := each (digit.toNat - 48) (by omega)
  rwa [Nat.add_sub_cancel' least, Char.ofNat_toNat] at here

/-- A digit is no space, and neither begins nor ends anything but a number. -/
theorem digit_alone {digit : Char} (isDigit : Json.isDigit digit = true) :
    isSpace digit = false ∧ digit ≠ '"' ∧ digit ≠ '[' ∧ digit ≠ ']' ∧ digit ≠ '\x7b' ∧ digit ≠ 'n' ∧
      digit ≠ 't' ∧ digit ≠ 'f' :=
  of_isDigit (fun digit => isSpace digit = false ∧ digit ≠ '"' ∧ digit ≠ '[' ∧ digit ≠ ']' ∧
    digit ≠ '\x7b' ∧ digit ≠ 'n' ∧ digit ≠ 't' ∧ digit ≠ 'f') (by decide) isDigit

theorem toDigits_eq_cons (number : Nat) :
    ∃ digit others, Nat.toDigits 10 number = digit :: others ∧ Json.isDigit digit = true := by
  cases same : Nat.toDigits 10 number with
  | nil => exact absurd same Nat.toDigits_ne_nil
  | cons digit others =>
      have member : digit ∈ Nat.toDigits 10 number := same ▸ List.mem_cons_self ..
      exact ⟨digit, others, rfl, isDigit_of_mem_toDigits member⟩

theorem render_natural (number : Nat) : (Value.natural number).render = Nat.toDigits 10 number :=
  Nat.toList_repr

/-- The first character of a plain value is no space, and does not close anything. -/
theorem Value.Plain.render_eq {room : Nat} {value : Value} (plain : value.Plain room) :
    ∃ first rest, value.render = first :: rest ∧ isSpace first = false ∧ first ≠ ']' := by
  cases plain with
  | null => exact ⟨'n', _, rfl, rfl, by decide⟩
  | bool _ value => cases value <;> exact ⟨_, _, rfl, rfl, by decide⟩
  | string => exact ⟨'"', _, rfl, rfl, by decide⟩
  | array => exact ⟨'[', _, rfl, rfl, by decide⟩
  | object => exact ⟨'\x7b', _, rfl, rfl, by decide⟩
  | natural _ bounded =>
      rename_i number
      obtain ⟨digit, others, same, isDigit⟩ := toDigits_eq_cons number
      obtain ⟨solid, -, -, notClosing, -⟩ := digit_alone isDigit
      exact ⟨digit, others, (render_natural number).trans same, solid, notClosing⟩

theorem renderItems_eq_cons {room : Nat} {item : Value} (plain : item.Plain room) (others : List Value) :
    ∃ first rest, renderItems (item :: others) = first :: rest ∧ isSpace first = false ∧
      first ≠ ']' := by
  obtain ⟨first, rest, text, alone⟩ := plain.render_eq
  cases others with
  | nil => exact ⟨first, _, by rw [renderItems, text, List.cons_append], alone⟩
  | cons next others => exact ⟨first, _, by rw [renderItems, text, List.cons_append], alone⟩

theorem renderMembers_eq_cons (member : String × Value) (others : List (String × Value)) :
    ∃ rest, renderMembers (member :: others) = '"' :: rest := by
  cases others with
  | nil => exact ⟨_, rfl⟩
  | cons next others => exact ⟨_, rfl⟩

theorem readValue_digit (bound : Nat) {digit : Char} (isDigit : Json.isDigit digit = true)
    (others : List Char) :
    readValue (bound + 1) (digit :: others) =
      match readNumeral (digit :: others) with
      | some (value, rest) => (.numeral value, some rest)
      | none => (.broken, none) := by
  obtain ⟨solid, notQuote, notBracket, -, notBrace, notN, notT, notF⟩ := digit_alone isDigit
  rw [readValue, skipSpaces_cons digit solid]
  split
  · rename_i same
    exact absurd (List.cons.inj same).1 notQuote
  · rename_i same
    exact absurd (List.cons.inj same).1 notBracket
  · rename_i same
    exact absurd (List.cons.inj same).1 notBrace
  · rename_i same
    exact absurd (List.cons.inj same).1 notN
  · rename_i same
    exact absurd (List.cons.inj same).1 notT
  · rename_i same
    exact absurd (List.cons.inj same).1 notF
  · rfl

theorem readValue_bracket (bound : Nat) (text : List Char) :
    readValue (bound + 1) ('[' :: text) =
      match skipSpaces text with
      | ']' :: rest => (.array [] true, some rest)
      | rest => (.array (readItems bound rest).1 (readItems bound rest).2.isSome, (readItems bound rest).2) :=
  rfl

theorem readValue_brace (bound : Nat) (text : List Char) :
    readValue (bound + 1) ('\x7b' :: text) =
      match skipSpaces text with
      | '\x7d' :: rest => (.object [] true, some rest)
      | rest =>
          (.object (readMembers bound rest).1 (readMembers bound rest).2.isSome, (readMembers bound rest).2) :=
  rfl

/-! ## Reading -/

/-- Whether the text of a value is read as the draft of the value, whatever follows it. Every second call
of the reader takes a character. -/
def Value.ReadsBack (value : Value) : Prop :=
  ∀ bound rest, 2 * value.render.length ≤ bound + 1 → EndsNumeral rest →
    readValue bound (value.render ++ rest) = (value.draft, some rest)

theorem endsNumeral_cons (next : Char) (rest : List Char)
    (other : isDigit next = false ∧ next ≠ '.' ∧ next ≠ 'e' ∧ next ≠ 'E') : EndsNumeral (next :: rest) := by
  rintro first ⟨⟩
  exact other

theorem readItems_render {items : List Value} (notEmpty : items ≠ [])
    (each : ∀ item ∈ items, item.ReadsBack) {bound : Nat}
    (enough : 2 * (renderItems items).length ≤ bound) (rest : List Char) :
    readItems bound (renderItems items ++ rest) = (itemDrafts items, some rest) := by
  induction items generalizing bound with
  | nil => exact absurd rfl notEmpty
  | cons item others inductionHypothesis =>
      have first : item.ReadsBack := each item (List.mem_cons_self ..)
      cases others with
      | nil =>
          rw [renderItems, List.length_append, List.length_singleton] at enough
          obtain ⟨bound, rfl⟩ : ∃ fewer, bound = fewer + 1 := ⟨bound - 1, by omega⟩
          have ends := endsNumeral_cons ']' rest (by decide)
          rw [renderItems, List.append_assoc, List.singleton_append, readItems,
            first bound _ (by omega) ends]
          rfl
      | cons next others =>
          rw [renderItems, List.length_append, List.length_cons] at enough
          obtain ⟨bound, rfl⟩ : ∃ fewer, bound = fewer + 1 := ⟨bound - 1, by omega⟩
          have ends := endsNumeral_cons ',' (renderItems (next :: others) ++ rest) (by decide)
          have later := fun other member => each other (List.mem_cons_of_mem item member)
          have more : readItems bound (renderItems (next :: others) ++ rest) = _ :=
            inductionHypothesis (List.cons_ne_nil next others) later (by omega)
          rw [renderItems, List.append_assoc, List.cons_append, readItems,
            first bound _ (by omega) ends]
          simp only [skipSpaces_cons ',' rfl, more]
          rfl

theorem readMembers_render {members : List (String × Value)} (notEmpty : members ≠ [])
    (each : ∀ member ∈ members, member.2.ReadsBack) {bound : Nat}
    (enough : 2 * (renderMembers members).length ≤ bound) (rest : List Char) :
    readMembers bound (renderMembers members ++ rest) = (memberDrafts members, some rest) := by
  induction members generalizing bound with
  | nil => exact absurd rfl notEmpty
  | cons member others inductionHypothesis =>
      obtain ⟨key, value⟩ := member
      have first : value.ReadsBack := each (key, value) (List.mem_cons_self ..)
      cases others with
      | nil =>
          simp only [renderMembers, renderString, List.length_append, List.length_cons] at enough
          obtain ⟨bound, rfl⟩ : ∃ fewer, bound = fewer + 1 := ⟨bound - 1, by omega⟩
          have ends := endsNumeral_cons '\x7d' rest (by decide)
          simp only [renderMembers, renderString, List.append_assoc, List.cons_append, List.nil_append,
            readMembers, skipSpaces_cons '"' rfl, readString_render, skipSpaces_cons ':' rfl,
            first bound _ (by omega) ends, skipSpaces_cons '\x7d' rfl]
          rfl
      | cons next others =>
          simp only [renderMembers, renderString, List.length_append, List.length_cons] at enough
          obtain ⟨bound, rfl⟩ : ∃ fewer, bound = fewer + 1 := ⟨bound - 1, by omega⟩
          have ends := endsNumeral_cons ',' (renderMembers (next :: others) ++ rest) (by decide)
          have later := fun other member => each other (List.mem_cons_of_mem (key, value) member)
          have more : readMembers bound (renderMembers (next :: others) ++ rest) = _ :=
            inductionHypothesis (List.cons_ne_nil next others) later (by omega)
          simp only [renderMembers, renderString, List.append_assoc, List.cons_append, List.nil_append,
            readMembers, skipSpaces_cons '"' rfl, readString_render, skipSpaces_cons ':' rfl,
            first bound _ (by omega) ends, skipSpaces_cons ',' rfl, more]
          rfl

theorem readsBack_of_cons {first : Char} {others : List Char} {value : Value}
    (text : value.render = first :: others)
    (reads : ∀ bound rest, 2 * value.render.length ≤ bound + 2 → EndsNumeral rest →
      readValue (bound + 1) (value.render ++ rest) = (value.draft, some rest)) :
    value.ReadsBack := by
  intro bound rest enough ends
  have positive : 1 ≤ value.render.length := by
    rw [text, List.length_cons]
    exact Nat.le_add_left 1 _
  obtain ⟨bound, rfl⟩ : ∃ fewer, bound = fewer + 1 := ⟨bound - 1, by omega⟩
  exact reads bound rest enough ends

/-- Behind the opening of an array that is not empty something follows that does not close it. -/
theorem readsBack_array {room : Nat} {items : List Value} (plain : ∀ item ∈ items, item.Plain room)
    (each : ∀ item ∈ items, item.ReadsBack) : (Value.array items).ReadsBack := by
  refine readsBack_of_cons rfl fun bound rest enough _ => ?_
  cases items with
  | nil => rfl
  | cons item others =>
      rw [Value.render, List.length_cons] at enough
      have items : readItems bound (renderItems (item :: others) ++ rest) = _ :=
        readItems_render (List.cons_ne_nil _ _) each (by omega) rest
      obtain ⟨first, behind, text, solid, notClosing⟩ :=
        renderItems_eq_cons (plain item (List.mem_cons_self ..)) others
      rw [text, List.cons_append] at items
      rw [Value.render, text, List.cons_append, List.cons_append, readValue_bracket,
        skipSpaces_cons first solid]
      split
      · rename_i same
        exact absurd (List.cons.inj same).1 notClosing
      · rw [items]
        rfl

theorem readsBack_object {members : List (String × Value)}
    (each : ∀ member ∈ members, member.2.ReadsBack) : (Value.object members).ReadsBack := by
  refine readsBack_of_cons rfl fun bound rest enough _ => ?_
  cases members with
  | nil => rfl
  | cons member others =>
      rw [Value.render, List.length_cons] at enough
      have members : readMembers bound (renderMembers (member :: others) ++ rest) = _ :=
        readMembers_render (List.cons_ne_nil _ _) each (by omega) rest
      obtain ⟨behind, text⟩ := renderMembers_eq_cons member others
      rw [text, List.cons_append] at members
      rw [Value.render, text, List.cons_append, List.cons_append, readValue_brace,
        skipSpaces_cons '"' rfl]
      split
      · rename_i same
        exact absurd (List.cons.inj same).1 (by decide)
      · rw [members]
        rfl

/-- A plain value is read back. -/
theorem Value.Plain.readsBack {room : Nat} {value : Value} (plain : value.Plain room) :
    value.ReadsBack := by
  induction plain with
  | null room => exact readsBack_of_cons rfl fun bound rest _ _ => rfl
  | bool room value =>
      cases value with
      | false => exact readsBack_of_cons rfl fun bound rest _ _ => rfl
      | true => exact readsBack_of_cons rfl fun bound rest _ _ => rfl
  | natural room bounded =>
      rename_i number
      obtain ⟨digit, others, same, isDigit⟩ := toDigits_eq_cons number
      refine readsBack_of_cons ((render_natural number).trans same) fun bound rest _ ends => ?_
      have numeral := readNumeral_toDigits number ends
      rw [render_natural]
      rw [same, List.cons_append] at numeral ⊢
      rw [readValue_digit bound isDigit, numeral]
      rfl
  | string room value =>
      refine readsBack_of_cons rfl fun bound rest _ _ => ?_
      simp only [Value.render, renderString, List.cons_append, List.append_assoc, List.nil_append, readValue,
        skipSpaces_cons '"' rfl, readString_render]
      rfl
  | array plain inductionHypothesis => exact readsBack_array plain inductionHypothesis
  | object _ inductionHypothesis => exact readsBack_object inductionHypothesis

/-- The text of a plain value holds the draft of the value, and nothing else. -/
theorem Value.Plain.ofText_render {room : Nat} {value : Value} (plain : value.Plain room) :
    Draft.ofText value.render = (value.draft, some []) := by
  have read := plain.readsBack (2 * value.render.length + 2) [] (by omega) (by rintro next ⟨⟩)
  rwa [List.append_nil] at read

/-! ## What drafts amount to -/

theorem Value.Plain.weaken {room more : Nat} {value : Value} (plain : value.Plain room)
    (order : room ≤ more) : value.Plain more := by
  induction plain generalizing more with
  | null room => exact .null more
  | bool room value => exact .bool more value
  | natural room bounded => exact .natural more bounded
  | string room value => exact .string more value
  | array plain inductionHypothesis =>
      obtain ⟨more, rfl⟩ : ∃ fewer, more = fewer + 1 := ⟨more - 1, by omega⟩
      exact .array fun item member => inductionHypothesis item member (by omega)
  | object plain inductionHypothesis =>
      obtain ⟨more, rfl⟩ : ∃ fewer, more = fewer + 1 := ⟨more - 1, by omega⟩
      exact .object fun item member => inductionHypothesis item member (by omega)

theorem itemValues?_drafts {room : Nat} {items : List Value}
    (each : ∀ item ∈ items, item.draft.value? room = some item) :
    Draft.itemValues? room (itemDrafts items) = some items := by
  induction items with
  | nil => rfl
  | cons item others inductionHypothesis =>
      obtain ⟨here, later⟩ := List.forall_mem_cons.mp each
      rw [itemDrafts, Draft.itemValues?, here, inductionHypothesis later]
      rfl

theorem memberValues?_drafts {room : Nat} {members : List (String × Value)}
    (each : ∀ member ∈ members, member.2.draft.value? room = some member.2) :
    Draft.memberValues? room (memberDrafts members) = some members := by
  induction members with
  | nil => rfl
  | cons member others inductionHypothesis =>
      obtain ⟨here, later⟩ := List.forall_mem_cons.mp each
      rw [memberDrafts, Draft.memberValues?, here, inductionHypothesis later]
      rfl

/-- The draft of a plain value amounts to the value. -/
theorem Value.Plain.value?_draft {room : Nat} {value : Value} (plain : value.Plain room) :
    value.draft.value? room = some value := by
  induction plain with
  | null room => rfl
  | bool room value => rfl
  | natural room bounded =>
      rename_i number
      show ((numeralOf number).number?).map Value.number = _
      rw [number?_numeralOf bounded]
      rfl
  | string room value => rfl
  | array _ inductionHypothesis =>
      rw [Value.draft, Draft.value?, if_neg (by simp), Nat.add_sub_cancel,
        itemValues?_drafts inductionHypothesis]
      rfl
  | object _ inductionHypothesis =>
      rw [Value.draft, Draft.value?, if_neg (by simp), Nat.add_sub_cancel,
        memberValues?_drafts inductionHypothesis]
      rfl

end NarrativePlayer.Json
