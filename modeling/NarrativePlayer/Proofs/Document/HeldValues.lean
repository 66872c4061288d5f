import Mathlib.Data.List.Perm.Basic
import NarrativePlayer.Proofs.Document.Forms

/-!
Contract: rearranged values that are passed over or held back.

A draft that is held back becomes a value, and so does each of its rearrangements. Owns that the values
are rearrangements of each other, and that a draft that was read to its end stays so. What is asked of a
medium for that is stated once, and holds of texts and of held values.
-/

namespace NarrativePlayer.Document

open NarrativePlayer.Json

/-- Whether a member is held back as a member of its name. -/
def HeldAs {Source : Type} (hold : Source → Option Value) (member : Option String × Source)
    (held : String × Value) : Prop :=
  member.1 = some held.1 ∧ hold member.2 = some held.2

/-- Values are held back one after the other, the first before all others. -/
theorem heldItems_cons {Source : Type} {hold : Source → Option Value} {item : Source} {rest : List Source}
    {values : List Value} {later : Option (List Value)}
    (each : ∀ {others}, later = some others ↔
      List.Forall₂ (fun item value => hold item = some value) rest others) :
    (match hold item with
      | none => none
      | some value => later.map (value :: ·)) = some values ↔
      List.Forall₂ (fun item value => hold item = some value) (item :: rest) values := by
  rw [List.forall₂_cons_left_iff]
  cases hold item with
  | none => simp
  | some value =>
      simp only [Option.map_eq_some_iff, each]
      constructor
      · rintro ⟨others, each, rfl⟩
        exact ⟨value, others, rfl, each, rfl⟩
      · rintro ⟨_, others, ⟨⟩, each, rfl⟩
        exact ⟨others, each, rfl⟩

end NarrativePlayer.Document

namespace NarrativePlayer.Json

open NarrativePlayer.Document

namespace Draft

theorem itemValues?_iff {room : Nat} {items : List Draft} {values : List Value} :
    itemValues? room items = some values ↔
      List.Forall₂ (fun item value => item.value? room = some value) items values := by
  induction items generalizing values with
  | nil => simp [itemValues?, eq_comm]
  | cons item rest inductionHypothesis => exact heldItems_cons inductionHypothesis

theorem memberValues?_iff {room : Nat} {members : List (Option String × Draft)}
    {values : List (String × Value)} :
    memberValues? room members = some values ↔ List.Forall₂ (HeldAs (value? room)) members values := by
  induction members generalizing values with
  | nil => simp [memberValues?, eq_comm]
  | cons member rest inductionHypothesis =>
      obtain ⟨key, draft⟩ := member
      rw [List.forall₂_cons_left_iff]
      cases key with
      | none => simp [memberValues?, HeldAs]
      | some key =>
          rw [memberValues?]
          cases amount : draft.value? room with
          | none => simp [HeldAs, amount]
          | some value =>
              simp only [Option.map_eq_some_iff, inductionHypothesis]
              constructor
              · rintro ⟨others, each, rfl⟩
                exact ⟨_, others, ⟨rfl, amount⟩, each, rfl⟩
              · rintro ⟨held, others, ⟨sameKey, sameValue⟩, each, rfl⟩
                refine ⟨others, each, ?_⟩
                rw [Option.some.inj sameKey, Option.some.inj (amount.symm.trans sameValue)]

theorem value?_array {room : Nat} {items : List Draft} {value : Value} :
    (array items true).value? room = some value ↔ room ≠ 0 ∧
      ∃ values, List.Forall₂ (fun item value => item.value? (room - 1) = some value) items values ∧
        value = .array values := by
  rw [Draft.value?]
  simp only [or_false, Bool.true_eq_false]
  split
  · rename_i noRoom
    simp [noRoom]
  · rename_i hasRoom
    simp only [Option.map_eq_some_iff, itemValues?_iff, ne_eq, hasRoom, not_false_eq_true, true_and]
    exact exists_congr fun values => and_congr_right fun _ => eq_comm

theorem value?_object {room : Nat} {members : List (Option String × Draft)} {value : Value} :
    (object members true).value? room = some value ↔ room ≠ 0 ∧
      ∃ values, List.Forall₂ (HeldAs (value? (room - 1))) members values ∧ value = .object values := by
  rw [Draft.value?]
  simp only [or_false, Bool.true_eq_false]
  split
  · rename_i noRoom
    simp [noRoom]
  · rename_i hasRoom
    simp only [Option.map_eq_some_iff, memberValues?_iff, ne_eq, hasRoom, not_false_eq_true, true_and]
    exact exists_congr fun values => and_congr_right fun _ => eq_comm

/-! ## What a draft shows -/

theorem eq_array_of_shape {draft : Draft} {items : List Draft} {closed : Bool}
    (shape : draftShape draft = .sequence items closed) : draft = .array items closed := by
  cases draft with
  | array items closed => cases shape; rfl
  | numeral value =>
      rw [draftShape] at shape
      split at shape <;> cases shape
  | string value => cases value <;> cases shape
  | _ => cases shape

theorem eq_object_of_shape {draft : Draft} {members : List (Option String × Draft)} {closed : Bool}
    (shape : draftShape draft = .map members closed) : draft = .object members closed := by
  cases draft with
  | object members closed => cases shape; rfl
  | numeral value =>
      rw [draftShape] at shape
      split at shape <;> cases shape
  | string value => cases value <;> cases shape
  | _ => cases shape

/-- The value of a draft without parts shows the same. -/
theorem valueShape_of_scalar {room : Nat} {draft : Draft} {value : Value} {scalar : Scalar}
    (shape : draftShape draft = .scalar scalar) (amounts : draft.value? room = some value) :
    valueShape value = .scalar scalar := by
  cases draft with
  | null => cases amounts; cases shape; rfl
  | bool flag => cases amounts; cases shape; rfl
  | numeral numeral =>
      obtain ⟨number, stands, rfl⟩ := Option.map_eq_some_iff.mp amounts
      rw [draftShape, stands] at shape
      cases shape
      rfl
  | string text =>
      obtain ⟨text, rfl, rfl⟩ := Option.map_eq_some_iff.mp amounts
      cases shape
      rfl
  | _ => cases shape

theorem tag?_of_value? {room : Nat} {draft : Draft} {value : Value} {tag : Tag}
    (amounts : draft.value? room = some value) (tagged : (draftShape draft).tag? = some tag) :
    (valueShape value).tag? = some tag := by
  cases shape : draftShape draft with
  | scalar scalar =>
      rw [valueShape_of_scalar shape amounts]
      rw [shape] at tagged
      exact tagged
  | _ => simp [shape, Shape.tag?] at tagged

/-! ## Wholeness -/

theorem areWhole_iff {items : List Draft} : areWhole items = true ↔ ∀ item ∈ items, item.isWhole = true := by
  induction items with
  | nil => simp [areWhole]
  | cons item rest inductionHypothesis => simp [areWhole, inductionHypothesis]

theorem haveWhole_iff {members : List (Option String × Draft)} :
    haveWhole members = true ↔ ∀ member ∈ members, member.2.isWhole = true := by
  induction members with
  | nil => simp [haveWhole]
  | cons member rest inductionHypothesis => simp [haveWhole, inductionHypothesis]

mutual

theorem isWhole_of_value? {room : Nat} : ∀ {draft : Draft} {value : Value},
    draft.value? room = some value → draft.isWhole = true
  | .broken, _, amounts => nomatch amounts
  | .null, _, _ => rfl
  | .bool _, _, _ => rfl
  | .numeral _, _, _ => rfl
  | .string _, _, _ => rfl
  | .array items closed, _, amounts => by
      rw [Draft.value?] at amounts
      split at amounts
      · cases amounts
      · rename_i room
        obtain ⟨values, each, -⟩ := Option.map_eq_some_iff.mp amounts
        rw [not_or, Bool.not_eq_false] at room
        rw [isWhole, room.2, areWhole_of_values? each]
        rfl
  | .object members closed, _, amounts => by
      rw [Draft.value?] at amounts
      split at amounts
      · cases amounts
      · rename_i room
        obtain ⟨values, each, -⟩ := Option.map_eq_some_iff.mp amounts
        rw [not_or, Bool.not_eq_false] at room
        rw [isWhole, room.2, haveWhole_of_values? each]
        rfl

theorem areWhole_of_values? {room : Nat} : ∀ {items : List Draft} {values : List Value},
    itemValues? room items = some values → areWhole items = true
  | [], _, _ => rfl
  | item :: rest, _, amounts => by
      rw [itemValues?] at amounts
      split at amounts
      · cases amounts
      · rename_i value first
        obtain ⟨values, each, -⟩ := Option.map_eq_some_iff.mp amounts
        rw [areWhole, isWhole_of_value? first, areWhole_of_values? each]
        rfl

theorem haveWhole_of_values? {room : Nat} :
    ∀ {members : List (Option String × Draft)} {values : List (String × Value)},
    memberValues? room members = some values → haveWhole members = true
  | [], _, _ => rfl
  | (none, _) :: _, _, amounts => nomatch amounts
  | (some key, draft) :: rest, _, amounts => by
      rw [memberValues?] at amounts
      split at amounts
      · cases amounts
      · rename_i value first
        obtain ⟨values, each, -⟩ := Option.map_eq_some_iff.mp amounts
        rw [haveWhole, isWhole_of_value? first, haveWhole_of_values? each]
        rfl

end

end Draft

end NarrativePlayer.Json

namespace NarrativePlayer.Document

open NarrativePlayer.Json

/-- Any held value may be added, whatever room there is: it was read before. -/
def anyValue (_ : Nat) (_ : Value) : Prop := True

/-- Whether one held value is a rearrangement of another. -/
def RearrangedValue (room : Nat) (form : Form) (value other : Value) : Prop :=
  Rearranged Medium.heldBack anyValue room form value other

/-! ## Values of rearrangements -/

section

variable {Source : Type} {hold : Source → Option Value} {room : Nat} (form : Form)

/-- The values of paired items, if the pairs are held back as rearrangements. -/
private theorem exists_itemValues (formAt : Nat → Form) {pairs : List (Source × Source)}
    {values : List Value}
    (each : List.Forall₂ (fun item value => hold item = some value) (pairs.map Prod.fst) values)
    (parts : ∀ index pair, pairs[index]? = some pair → ∀ value, hold pair.1 = some value →
      ∃ other, hold pair.2 = some other ∧ RearrangedValue room (formAt index) value other) :
    ∃ held : List (Value × Value), values = held.map Prod.fst ∧
      List.Forall₂ (fun item value => hold item = some value) (pairs.map Prod.snd) (held.map Prod.snd) ∧
      ∀ index pair, held[index]? = some pair → RearrangedValue room (formAt index) pair.1 pair.2 := by
  induction pairs generalizing values formAt with
  | nil =>
      cases each
      exact ⟨[], rfl, .nil, fun _ _ here => nomatch here⟩
  | cons pair rest inductionHypothesis =>
      cases each with
      | @cons _ value _ others first each =>
          obtain ⟨other, holds, rearranged⟩ := parts 0 pair rfl value first
          obtain ⟨held, rfl, eachOther, rearrangedRest⟩ :=
            inductionHypothesis (fun index => formAt (index + 1)) each
              fun index pair here => parts (index + 1) pair here
          refine ⟨(value, other) :: held, rfl, .cons holds eachOther, fun index pair here => ?_⟩
          cases index with
          | zero =>
              cases here
              exact rearranged
          | succ index => exact rearrangedRest index pair here

/-- If items are held back, so are their rearrangements, as a rearrangement. -/
theorem exists_heldItems {pairs : List (Source × Source)} {values : List Value}
    (untagged : form.isTagged = false)
    (each : List.Forall₂ (fun item value => hold item = some value) (pairs.map Prod.fst) values)
    (parts : ∀ index pair, pairs[index]? = some pair → ∀ value, hold pair.1 = some value →
      ∃ other, hold pair.2 = some other ∧ RearrangedValue (room - 1) (form.item index) value other) :
    ∃ others, List.Forall₂ (fun item value => hold item = some value) (pairs.map Prod.snd) others ∧
      RearrangedValue room form (.array values) (.array others) := by
  obtain ⟨held, rfl, eachOther, rearranged⟩ := exists_itemValues form.item each parts
  exact ⟨_, eachOther, .items held untagged rfl rfl rearranged⟩

/-- The values of members that are kept, if they are held back as rearrangements. -/
private theorem exists_memberValues (formOf : Option String → Form)
    {kept : List (Option String × Source × Source)} {values : List (String × Value)}
    (each : List.Forall₂ (HeldAs hold) (kept.map fun entry => (entry.1, entry.2.1)) values)
    (parts : ∀ entry ∈ kept, ∀ value, hold entry.2.1 = some value →
      ∃ other, hold entry.2.2 = some other ∧ RearrangedValue room (formOf entry.1) value other) :
    ∃ held : List (String × Value × Value), values = held.map (fun entry => (entry.1, entry.2.1)) ∧
      kept.map Prod.fst = held.map (fun entry => some entry.1) ∧
      List.Forall₂ (HeldAs hold) (kept.map fun entry => (entry.1, entry.2.2))
        (held.map fun entry => (entry.1, entry.2.2)) ∧
      ∀ entry ∈ held, RearrangedValue room (formOf (some entry.1)) entry.2.1 entry.2.2 := by
  induction kept generalizing values with
  | nil =>
      cases each
      exact ⟨[], rfl, rfl, .nil, fun _ member => nomatch member⟩
  | cons entry rest inductionHypothesis =>
      obtain ⟨key, source, otherSource⟩ := entry
      cases each with
      | @cons _ value _ others first each =>
          obtain ⟨key, value⟩ := value
          obtain ⟨rfl, holds⟩ := first
          rw [List.forall_mem_cons] at parts
          obtain ⟨other, holdsOther, rearranged⟩ := parts.1 value holds
          obtain ⟨held, rfl, keys, eachOther, rearrangedRest⟩ := inductionHypothesis each parts.2
          refine ⟨(key, value, other) :: held, rfl, ?_, .cons ⟨rfl, holdsOther⟩ eachOther, ?_⟩
          · rw [List.map_cons, List.map_cons, keys]
          · exact List.forall_mem_cons.mpr ⟨rearranged, rearrangedRest⟩

/-- The values of members that are added. -/
private theorem exists_addedValues {added : List (Option String × Source)}
    (strange : ∀ entry ∈ added, ∃ name, entry.1 = some name ∧ form.AdmitsName name ∧
      ∃ value, hold entry.2 = some value) :
    ∃ values : List (String × Value), List.Forall₂ (HeldAs hold) added values ∧
      ∀ entry ∈ values, form.AdmitsName entry.1 := by
  induction added with
  | nil => exact ⟨[], .nil, fun _ member => nomatch member⟩
  | cons entry rest inductionHypothesis =>
      rw [List.forall_mem_cons] at strange
      obtain ⟨⟨name, key, admitted, value, holds⟩, strangeRest⟩ := strange
      obtain ⟨values, each, admittedRest⟩ := inductionHypothesis strangeRest
      exact ⟨(name, value) :: values, .cons ⟨key, holds⟩ each,
        List.forall_mem_cons.mpr ⟨admitted, admittedRest⟩⟩

/-- If members are held back, so are their rearrangements in another order and with others added to them,
as a rearrangement. -/
theorem exists_heldMembers {kept : List (Option String × Source × Source)}
    {added members : List (Option String × Source)} {values : List (String × Value)}
    (untagged : form.isTagged = false) (distinct : (kept.filterMap Prod.fst).Nodup)
    (order : members.Perm (kept.map (fun entry => (entry.1, entry.2.2)) ++ added))
    (each : List.Forall₂ (HeldAs hold) (kept.map fun entry => (entry.1, entry.2.1)) values)
    (parts : ∀ entry ∈ kept, ∀ value, hold entry.2.1 = some value →
      ∃ other, hold entry.2.2 = some other ∧ RearrangedValue (room - 1) (form.member entry.1) value other)
    (strange : ∀ entry ∈ added, ∃ name, entry.1 = some name ∧ form.AdmitsName name ∧
      ∃ value, hold entry.2 = some value) :
    ∃ others, List.Forall₂ (HeldAs hold) members others ∧
      RearrangedValue room form (.object values) (.object others) := by
  obtain ⟨held, rfl, keys, eachOther, rearranged⟩ :=
    exists_memberValues form.member each parts
  obtain ⟨addedValues, eachAdded, admitted⟩ := exists_addedValues form strange
  obtain ⟨ordered, eachOrdered, orderValues⟩ :=
    List.perm_comp_forall₂ order (List.rel_append eachOther eachAdded)
  refine ⟨ordered, eachOrdered, ?_⟩
  have sameKeys : kept.filterMap Prod.fst = held.map Prod.fst := by
    show kept.filterMap (id ∘ Prod.fst) = _
    rw [← List.filterMap_map, keys]
    simp
  refine .members (held.map fun entry => (some entry.1, entry.2))
    (addedValues.map fun entry => (some entry.1, entry.2)) _ untagged ?_ rfl ?_ ?_ ?_ ?_
  · simp [Medium.heldBack, valueShape]
  · simpa [List.filterMap_map, ← sameKeys] using distinct
  · simpa [Function.comp_def] using orderValues.map fun member => (some member.1, member.2)
  · intro entry member
    obtain ⟨entry, among, rfl⟩ := List.mem_map.mp member
    exact rearranged entry among
  · intro entry member
    obtain ⟨entry, among, rfl⟩ := List.mem_map.mp member
    exact ⟨entry.1, rfl, admitted entry among, trivial⟩

end

private theorem exists_of_mem {Left Right : Type} {related : Left → Right → Prop} {lefts : List Left}
    {rights : List Right} (each : List.Forall₂ related lefts rights) {left : Left} (member : left ∈ lefts) :
    ∃ right ∈ rights, related left right := by
  induction each with
  | nil => cases member
  | cons first _ inductionHypothesis =>
      rcases List.mem_cons.mp member with rfl | later
      · exact ⟨_, List.mem_cons_self, first⟩
      · obtain ⟨right, among, holds⟩ := inductionHypothesis later
        exact ⟨right, List.mem_cons_of_mem _ among, holds⟩

theorem HasTag.of_value? {room : Nat} {draft : Draft} {value : Value} {tag : Tag}
    (hasTag : HasTag Medium.text draft tag) (amounts : draft.value? room = some value) :
    HasTag Medium.heldBack value tag := by
  unfold HasTag at hasTag
  split at hasTag
  · rename_i members closed shape
    obtain ⟨part, member, tagged⟩ := hasTag
    cases Draft.eq_object_of_shape shape
    cases closed with
    | false => simp [Draft.value?] at amounts
    | true =>
        obtain ⟨-, values, each, rfl⟩ := Draft.value?_object.mp amounts
        obtain ⟨⟨key, held⟩, among, sameKey, amountsPart⟩ := exists_of_mem each member
        cases sameKey
        exact ⟨held, List.mem_map.mpr ⟨_, among, rfl⟩, Draft.tag?_of_value? amountsPart tagged⟩
  · rename_i first rest closed shape
    cases Draft.eq_array_of_shape shape
    cases closed with
    | false => simp [Draft.value?] at amounts
    | true =>
        obtain ⟨-, values, each, rfl⟩ := Draft.value?_array.mp amounts
        cases each with
        | cons amountsFirst each => exact Draft.tag?_of_value? amountsFirst hasTag
  · exact hasTag.elim

/-- If a draft has a value, so has each of its rearrangements, and the values are rearrangements too. -/
theorem Rearranged.value? {room : Nat} {form : Form} {draft other : Draft}
    (rearranged : Rearranged Medium.text WellFormed room form draft other) :
    ∀ value, draft.value? room = some value →
      ∃ held, other.value? room = some held ∧ RearrangedValue room form value held := by
  induction rearranged with
  | same => exact fun value amounts => ⟨value, amounts, .same _ _ _⟩
  | items pairs untagged before after parts inductionHypothesis =>
      intro value amounts
      cases Draft.eq_array_of_shape before
      cases Draft.eq_array_of_shape after
      obtain ⟨hasRoom, values, each, rfl⟩ := Draft.value?_array.mp amounts
      obtain ⟨others, eachOther, rearranged⟩ := exists_heldItems _ untagged each inductionHypothesis
      exact ⟨_, Draft.value?_array.mpr ⟨hasRoom, _, eachOther, rfl⟩, rearranged⟩
  | members kept added members untagged before after distinct order parts strange inductionHypothesis =>
      intro value amounts
      cases Draft.eq_object_of_shape before
      cases Draft.eq_object_of_shape after
      obtain ⟨hasRoom, values, each, rfl⟩ := Draft.value?_object.mp amounts
      obtain ⟨others, eachOther, rearranged⟩ :=
        exists_heldMembers _ untagged distinct order each inductionHypothesis strange
      exact ⟨_, Draft.value?_object.mpr ⟨hasRoom, _, eachOther, rfl⟩, rearranged⟩
  | tagged tag hasTag asRecord inductionHypothesis =>
      intro value amounts
      obtain ⟨held, amountsOther, rearranged⟩ := inductionHypothesis value amounts
      exact ⟨held, amountsOther, .tagged tag (hasTag.of_value? amounts) rearranged⟩

/-- A draft that was read to its end stays so. -/
theorem Rearranged.isWhole {room : Nat} {form : Form} {draft other : Draft}
    (rearranged : Rearranged Medium.text WellFormed room form draft other)
    (whole : draft.isWhole = true) : other.isWhole = true := by
  induction rearranged with
  | same => exact whole
  | items pairs untagged before after parts inductionHypothesis =>
      cases Draft.eq_array_of_shape before
      cases Draft.eq_array_of_shape after
      rw [Draft.isWhole, Bool.true_and, Draft.areWhole_iff, List.forall_mem_map] at whole ⊢
      intro pair member
      obtain ⟨index, here⟩ := List.mem_iff_getElem?.mp member
      exact inductionHypothesis index pair here (whole pair member)
  | members kept added members untagged before after distinct order parts strange inductionHypothesis =>
      cases Draft.eq_object_of_shape before
      cases Draft.eq_object_of_shape after
      rw [Draft.isWhole, Bool.true_and, Draft.haveWhole_iff] at whole ⊢
      rw [List.forall_mem_map] at whole
      intro member among
      rcases List.mem_append.mp (order.mem_iff.mp among) with isKept | isAdded
      · obtain ⟨entry, here, rfl⟩ := List.mem_map.mp isKept
        exact inductionHypothesis entry here (whole entry here)
      · obtain ⟨name, -, -, value, amounts⟩ := strange member isAdded
        exact Draft.isWhole_of_value? amounts
  | tagged tag hasTag asRecord inductionHypothesis => exact inductionHypothesis whole

/-! ## Media in which rearrangements do not matter -/

section

variable {Source : Type} (medium : Medium Source) (admits : Nat → Source → Prop)

/-- Whether what nobody asks for may be rearranged, and what may be added may stand. -/
structure Overlooks : Prop where
  passes : ∀ {room form source other}, Rearranged medium admits room form source other →
    medium.passes source = true → medium.passes other = true
  passesAdded : ∀ {room source}, admits room source → medium.passes source = true

/-- Whether what is held back, where so much may be nested in it, may be rearranged. -/
structure Retains (room : Nat) : Prop where
  holds : ∀ {form source other value}, Rearranged medium admits room form source other →
    medium.hold? source = some value →
      ∃ held, medium.hold? other = some held ∧ RearrangedValue room form value held
  holdsAdded : ∀ {source}, admits room source → ∃ value, medium.hold? source = some value

end

theorem overlooks_text : Overlooks Medium.text WellFormed where
  passes := Rearranged.isWhole
  passesAdded added := by
    obtain ⟨value, amounts⟩ := added
    exact Draft.isWhole_of_value? amounts

theorem overlooks_heldBack : Overlooks Medium.heldBack anyValue where
  passes _ _ := rfl
  passesAdded _ := rfl

theorem retains_text : Retains Medium.text WellFormed (nestingLimit - taggedDepth) where
  holds rearranged held := rearranged.value? _ held
  holdsAdded added := added

theorem retains_heldBack (room : Nat) : Retains Medium.heldBack anyValue room where
  holds rearranged held := ⟨_, rfl, Option.some.inj held ▸ rearranged⟩
  holdsAdded _ := ⟨_, rfl⟩

end NarrativePlayer.Document
