import NarrativePlayer.Document.Tagged
import NarrativePlayer.Proofs.Document.PresentedValues

/-!
Contract: records and tagged values that are written and read again.

Members spell the contents of a record if they stand in the order of its fields, each under the name of
its field, and only such are left out as come to the same when they are absent. Owns that an object writes
down what its members spell, and that a value under a tag is found again whole. What the parts of a
document spell is next door.
-/

namespace NarrativePlayer.Document

open NarrativePlayer.Json

variable {Source : Type} {medium : Medium Source} {present : Value → Source} {room : Nat}

/-- Whether members spell the contents of fields. -/
inductive Spells (room : Nat) (present : Value → Source) :
    (fields : List (Field Source)) → Contents fields → List (String × Value) → Prop
  | nothing : Spells room present [] () []
  | given {field : Field Source} {fields : List (Field Source)} {contents : Contents fields}
      {members : List (String × Value)} {value : Value} {carrier : field.Carrier}
      (writes : Writes room present field.read value carrier)
      (rest : Spells room present fields contents members) :
      Spells room present (field :: fields) (carrier, contents) ((field.name, value) :: members)
  | leftOut {field : Field Source} {fields : List (Field Source)} {contents : Contents fields}
      {members : List (String × Value)} {carrier : field.Carrier} (absent : field.absent = some carrier)
      (rest : Spells room present fields contents members) :
      Spells room present (field :: fields) (carrier, contents) members

/-- An optional field is spelled by its value, or left out. -/
theorem Faithful.optionalField (faithful : Faithful medium present) {fields : List (Field Source)}
    {contents : Contents fields} {members : List (String × Value)} {Carrier : Type} {name : String}
    {read : Source → Except Fault Carrier} {write : Carrier → Value} {held : Option Carrier}
    (notNull : ∀ carrier, write carrier ≠ .null)
    (writes : ∀ carrier, held = some carrier → Writes room present read (write carrier) carrier)
    (rest : Spells room present fields contents members) :
    Spells room present (.defaulted name (readOptional medium read) none :: fields) (held, contents)
      (optionalMember name (held.map write) ++ members) := by
  cases held with
  | none => exact .leftOut rfl rest
  | some carrier => exact .given (faithful.optional (notNull carrier) (writes carrier rfl)) rest

theorem Faithful.lastOptionalField (faithful : Faithful medium present) {Carrier : Type} {name : String}
    {read : Source → Except Fault Carrier} {write : Carrier → Value} {held : Option Carrier}
    (notNull : ∀ carrier, write carrier ≠ .null)
    (writes : ∀ carrier, held = some carrier → Writes room present read (write carrier) carrier) :
    Spells room present [.defaulted name (readOptional medium read) none] (held, ())
      (optionalMember name (held.map write)) := by
  cases held with
  | none => exact .leftOut rfl .nothing
  | some carrier => exact .given (faithful.optional (notNull carrier) (writes carrier rfl)) .nothing

theorem Spells.mem_names {fields : List (Field Source)} {contents : Contents fields}
    {members : List (String × Value)} (spells : Spells room present fields contents members) :
    ∀ member ∈ members, member.1 ∈ fields.map Field.name := by
  induction spells with
  | nothing => exact fun member among => absurd among List.not_mem_nil
  | given writes rest inductionHypothesis =>
      intro member among
      rcases List.mem_cons.mp among with rfl | later
      · exact List.mem_cons_self ..
      · exact List.mem_cons_of_mem _ (inductionHypothesis member later)
  | leftOut absent rest inductionHypothesis =>
      exact fun member among => List.mem_cons_of_mem _ (inductionHypothesis member among)

theorem Spells.plain {fields : List (Field Source)} {contents : Contents fields}
    {members : List (String × Value)} (spells : Spells room present fields contents members) :
    (Value.object members).Plain (room + 1) := by
  refine .object ?_
  induction spells with
  | nothing => exact fun member among => absurd among List.not_mem_nil
  | given writes rest inductionHypothesis =>
      exact List.forall_mem_cons.mpr ⟨writes.plain, inductionHypothesis⟩
  | leftOut absent rest inductionHypothesis => exact inductionHypothesis

/-- The sources of members. -/
def presented (present : Value → Source) (members : List (String × Value)) :
    List (Option String × Source) :=
  members.map fun member => (some member.1, present member.2)

/-! ## Slots -/

section

variable {field : Field Source} {fields : List (Field Source)}

/-- A slot in front of others. -/
def Slots.behind (slot : Option field.Carrier) (slots : Slots fields) : Slots (field :: fields) :=
  (slot, slots)

theorem put?_behind_of_ne {key : String} (other : field.name ≠ key) (source : Source)
    (slot : Option field.Carrier) (slots : Slots fields) :
    put? key source (field :: fields) (slots.behind slot) =
      (put? key source fields slots).map fun outcome => outcome.map (Slots.behind slot) := by
  unfold Slots.behind
  rw [put?, if_neg other]
  cases put? key source fields slots <;> rfl

theorem put?_behind_none {source : Source} {carrier : field.Carrier}
    (reads : field.read source = .ok carrier) (slots : Slots fields) :
    put? field.name source (field :: fields) (slots.behind none) =
      some (.ok (slots.behind (some carrier))) := by
  unfold Slots.behind
  rw [put?, if_pos rfl, reads]
  rfl

theorem complete_behind {slot : Option field.Carrier} {carrier : field.Carrier} {slots : Slots fields}
    {contents : Contents fields} (holds : (slot <|> field.absent) = some carrier)
    (completed : complete fields slots = .ok contents) :
    complete (field :: fields) (slots.behind slot) = .ok (carrier, contents) := by
  unfold Slots.behind
  rw [complete, holds, completed]
  rfl

theorem putEach_cons (medium : Medium Source) (key : String) (source : Source)
    (rest : List (Option String × Source)) (slots : Slots fields) :
    putEach medium fields ((some key, source) :: rest) slots =
      match put? key source fields slots with
      | some (.ok filled) => putEach medium fields rest filled
      | some (.error fault) => .error fault
      | none => if medium.passes source then putEach medium fields rest slots else .error .malformed :=
  rfl

/-- Members of other names go past a field. -/
theorem putEach_behind (medium : Medium Source) (slot : Option field.Carrier)
    {members : List (String × Value)} (others : ∀ member ∈ members, field.name ≠ member.1)
    (slots : Slots fields) :
    putEach medium (field :: fields) (presented present members) (slots.behind slot) =
      (putEach medium fields (presented present members) slots).map (Slots.behind slot) := by
  induction members generalizing slots with
  | nil => rfl
  | cons member rest inductionHypothesis =>
      have other := others member (List.mem_cons_self ..)
      have later := inductionHypothesis fun other among => others other (List.mem_cons_of_mem _ among)
      unfold presented at *
      rw [List.map_cons, putEach_cons, putEach_cons, put?_behind_of_ne other]
      cases put? member.1 (present member.2) fields slots with
      | none =>
          dsimp only [Option.map_none]
          split
          · exact later slots
          · rfl
      | some outcome =>
          cases outcome with
          | error fault => rfl
          | ok filled => exact later filled

end

theorem Spells.putEach {fields : List (Field Source)} {contents : Contents fields}
    {members : List (String × Value)} (spells : Spells room present fields contents members)
    (medium : Medium Source) (distinct : (fields.map Field.name).Nodup) :
    ∃ slots, putEach medium fields (presented present members) (vacant fields) = .ok slots ∧
      complete fields slots = .ok contents := by
  induction spells with
  | nothing => exact ⟨(), rfl, rfl⟩
  | given writes rest inductionHypothesis =>
      rename_i field fields contents members value carrier
      rw [List.map_cons, List.nodup_cons] at distinct
      obtain ⟨slots, filled, completed⟩ := inductionHypothesis distinct.2
      have others : ∀ member ∈ members, field.name ≠ member.1 :=
        fun member among same => distinct.1 (same ▸ rest.mem_names member among)
      -- What comes later has other names, and so leaves the slot in front as it is.
      refine ⟨slots.behind (some carrier), ?_, complete_behind rfl completed⟩
      show Document.putEach medium _ ((some field.name, present value) :: presented present members)
        ((vacant fields).behind none) = _
      rw [putEach_cons, put?_behind_none writes.reads]
      dsimp only
      rw [putEach_behind medium _ others, filled]
      rfl
  | leftOut absent rest inductionHypothesis =>
      rename_i field fields contents members carrier
      rw [List.map_cons, List.nodup_cons] at distinct
      obtain ⟨slots, filled, completed⟩ := inductionHypothesis distinct.2
      have others : ∀ member ∈ members, field.name ≠ member.1 :=
        fun member among same => distinct.1 (same ▸ rest.mem_names member among)
      refine ⟨slots.behind none, ?_, complete_behind absent completed⟩
      show Document.putEach medium _ (presented present members) ((vacant fields).behind none) = _
      rw [putEach_behind medium _ others, filled]
      rfl

/-- An object writes down the record that its members spell, and whatever is made of it. -/
theorem Faithful.record (faithful : Faithful medium present) {fields : List (Field Source)}
    {contents : Contents fields} {members : List (String × Value)} {Carrier : Type}
    {make : Contents fields → Carrier} {whole : Carrier} {wanted : String}
    (distinct : (fields.map Field.name).Nodup) (spells : Spells room present fields contents members)
    (made : make contents = whole) :
    Writes (room + 1) present (fun source => (readRecord medium wanted fields source).map make)
      (.object members) whole := by
  obtain ⟨slots, filled, completed⟩ := spells.putEach medium distinct
  refine ⟨spells.plain, ?_⟩
  unfold readRecord
  rw [faithful.shape spells.plain, shownAs, ← presented]
  dsimp only
  rw [filled]
  dsimp only
  rw [if_pos rfl, completed, ← made]
  rfl

/-! ## Tagged values -/

theorem holdMembers_presented (faithful : Faithful medium present) {Kind : Type}
    (judge : Tag → Except Fault Kind) (kind : Option Kind) (kept : List (String × Value))
    {members : List (String × Value)} (untagged : ∀ member ∈ members, member.1 ≠ tagKey)
    (plain : ∀ member ∈ members, member.2.Plain heldRoom) :
    holdMembers medium judge kind kept (presented present members) =
      .ok (kind, kept.reverse ++ members) := by
  induction members generalizing kept with
  | nil =>
      rw [List.append_nil]
      rfl
  | cons member rest inductionHypothesis =>
      have later := inductionHypothesis ((member.1, member.2) :: kept)
        (fun other among => untagged other (List.mem_cons_of_mem _ among))
        (fun other among => plain other (List.mem_cons_of_mem _ among))
      unfold presented at *
      rw [List.map_cons, holdMembers, if_neg (untagged member (List.mem_cons_self ..)),
        faithful.hold? (plain member (List.mem_cons_self ..))]
      dsimp only
      rw [later, List.reverse_cons, List.append_assoc]
      rfl

/-- Whether a value writes a thing down beside a tag. -/
def Beside {Carrier : Type} (room : Nat) (name : String) (read : Value → Except Fault Carrier)
    (value : Value) (carrier : Carrier) : Prop :=
  ∃ members, value = .object ((tagKey, .string name) :: members) ∧
    (∀ member ∈ members, member.1 ≠ tagKey) ∧ Writes (room + 1) id read (.object members) carrier

/-- A record that has no field of the tag's name may stand beside a tag. -/
theorem Spells.beside {fields : List (Field Value)} {contents : Contents fields}
    {members : List (String × Value)} {Carrier : Type} {make : Contents fields → Carrier} {whole : Carrier}
    {wanted name : String} (untagged : tagKey ∉ fields.map Field.name)
    (distinct : (fields.map Field.name).Nodup) (spells : Spells room id fields contents members)
    (made : make contents = whole) :
    Beside room name (fun source => (readRecord Medium.heldBack wanted fields source).map make)
      (.object ((tagKey, .string name) :: members)) whole := by
  refine ⟨members, rfl, ?_, faithful_heldBack.record distinct spells made⟩
  rintro member among same
  exact untagged (same ▸ spells.mem_names member among)

/-- A value whose tag comes first is found under its tag, whole. -/
theorem Faithful.tagged (faithful : Faithful medium present) {Kind Carrier : Type}
    (judge : Tag → Except Fault Kind) {name : String} {kind : Kind}
    {read : Value → Except Fault Carrier} {value : Value} {carrier : Carrier}
    (judged : judge (.named name) = .ok kind) (within : room ≤ heldRoom)
    (beside : Beside room name read value carrier) :
    value.Plain (room + 1) ∧ ∃ content,
      (∀ wanted, readTagged medium wanted judge (present value) = .ok (kind, content)) ∧
        read content = .ok carrier := by
  obtain ⟨members, rfl, untagged, plain, reads⟩ := beside
  cases plain with
  | object plain =>
      have whole : (Value.object ((tagKey, .string name) :: members)).Plain (room + 1) :=
        .object (List.forall_mem_cons.mpr ⟨.string room name, plain⟩)
      refine ⟨whole, .object members, fun wanted => ?_, reads⟩
      have tag : readKind medium judge (present (.string name)) = .ok kind := by
        unfold readKind readTag
        rw [faithful.shape (.string 0 name)]
        exact judged
      have held := holdMembers_presented faithful judge (some kind) [] untagged
        fun member among => (plain member among).weaken within
      unfold readTagged
      rw [faithful.shape whole, shownAs, List.map_cons]
      dsimp only
      rw [holdMembers, if_pos rfl, tag]
      dsimp only [Option.isSome_none]
      rw [if_neg Bool.false_ne_true, ← presented, held]
      rfl

end NarrativePlayer.Document
