import NarrativePlayer.Document.Record

/-!
Contract: what a record takes from a map, name by name.

A map is read member by member, and each member looks for its slot. Owns the other view of it: each field
looks for the members of its name, of which there may be one at most. In this view neither the order of the
members nor those of undeclared names come up, except that the latter have to pass.
-/

namespace NarrativePlayer.Document

variable {Source : Type}

/-- The members of a name. -/
def named (name : String) (members : List (Option String × Source)) : List (Option String × Source) :=
  members.filter fun member => member.1 = some name

theorem named_cons_self (name : String) (source : Source) (members : List (Option String × Source)) :
    named name ((some name, source) :: members) = (some name, source) :: named name members :=
  List.filter_cons_of_pos (by simp)

theorem named_cons_of_ne {name key : String} (other : name ≠ key) (source : Source)
    (members : List (Option String × Source)) :
    named name ((some key, source) :: members) = named name members :=
  List.filter_cons_of_neg (by simpa using fun same => other same.symm)

/-- What comes into the slot of a field: what it holds already, or what a member of its name gives. -/
def Field.Takes (field : Field Source) (members : List (Option String × Source))
    (slot filled : Option field.Carrier) : Prop :=
  match named field.name members with
  | [] => filled = slot
  | [member] => slot = none ∧ ∃ value, field.read member.2 = .ok value ∧ filled = some value
  | _ => False

/-- What comes into the slots of all fields. -/
def AllTake (members : List (Option String × Source)) :
    (fields : List (Field Source)) → Slots fields → Slots fields → Prop
  | [], _, _ => True
  | field :: fields, (slot, slots), (first, rest) =>
      field.Takes members slot first ∧ AllTake members fields slots rest

theorem Field.takes_nil {field : Field Source} {slot filled : Option field.Carrier} :
    field.Takes [] slot filled ↔ filled = slot :=
  Iff.rfl

theorem Field.takes_cons_of_ne {field : Field Source} {key : String} (other : field.name ≠ key)
    {source : Source} {members : List (Option String × Source)} {slot filled : Option field.Carrier} :
    field.Takes ((some key, source) :: members) slot filled ↔ field.Takes members slot filled := by
  unfold Takes
  rw [named_cons_of_ne other]

/-- A member of its name is taken by a field whose slot is free, and takes the slot. -/
theorem Field.takes_cons_self (field : Field Source) {source : Source}
    {members : List (Option String × Source)} {slot filled : Option field.Carrier} :
    field.Takes ((some field.name, source) :: members) slot filled ↔
      slot = none ∧ ∃ value, field.read source = .ok value ∧ field.Takes members (some value) filled := by
  unfold Takes
  rw [named_cons_self]
  cases named field.name members with
  | nil => rfl
  | cons member rest => cases rest <;> simp

theorem allTake_nil {fields : List (Field Source)} {slots filled : Slots fields} :
    AllTake [] fields slots filled ↔ filled = slots := by
  induction fields with
  | nil => exact ⟨fun _ => rfl, fun _ => trivial⟩
  | cons field fields inductionHypothesis =>
      obtain ⟨slot, slots⟩ := slots
      obtain ⟨first, rest⟩ := filled
      simp only [AllTake, Field.takes_nil, inductionHypothesis]
      exact Prod.mk.injEq first rest slot slots ▸ Iff.rfl

/-- A member of a name that no field has is taken by none. -/
theorem allTake_cons_of_undeclared {key : String} {source : Source}
    {members : List (Option String × Source)} {fields : List (Field Source)} {slots filled : Slots fields}
    (undeclared : key ∉ fields.map Field.name) :
    AllTake ((some key, source) :: members) fields slots filled ↔ AllTake members fields slots filled := by
  induction fields with
  | nil => rfl
  | cons field fields inductionHypothesis =>
      rw [List.map_cons, List.mem_cons, not_or] at undeclared
      obtain ⟨slot, slots⟩ := slots
      obtain ⟨first, rest⟩ := filled
      simp only [AllTake, Field.takes_cons_of_ne (Ne.symm undeclared.1), inductionHypothesis undeclared.2]

/-! ## One member -/

theorem put?_of_undeclared {key : String} {source : Source} {fields : List (Field Source)}
    {slots : Slots fields} (undeclared : key ∉ fields.map Field.name) :
    put? key source fields slots = none := by
  induction fields with
  | nil => rfl
  | cons field fields inductionHypothesis =>
      rw [List.map_cons, List.mem_cons, not_or] at undeclared
      obtain ⟨slot, slots⟩ := slots
      rw [put?, if_neg (Ne.symm undeclared.1), inductionHypothesis undeclared.2]

private theorem exists_ok_iff {Carrier : Type} {value : Carrier} {property : Carrier → Prop} :
    (∃ put, (Except.ok value : Except Fault Carrier) = .ok put ∧ property put) ↔ property value := by
  constructor
  · rintro ⟨put, ⟨⟩, holds⟩
    exact holds
  · exact fun holds => ⟨value, rfl, holds⟩

/-- A member of a declared name is put into its slot exactly if its field takes it. -/
theorem exists_put?_iff {key : String} {source : Source} {members : List (Option String × Source)}
    {fields : List (Field Source)} (distinct : (fields.map Field.name).Nodup)
    (declared : key ∈ fields.map Field.name) {slots filled : Slots fields} :
    (∃ put, put? key source fields slots = some (.ok put) ∧ AllTake members fields put filled) ↔
      AllTake ((some key, source) :: members) fields slots filled := by
  -- Names differ, so a member that a field takes is of no concern to those behind it.
  induction fields with
  | nil => cases declared
  | cons field fields inductionHypothesis =>
      rw [List.map_cons, List.nodup_cons] at distinct
      obtain ⟨slot, slots⟩ := slots
      obtain ⟨first, rest⟩ := filled
      rw [put?]
      by_cases own : field.name = key
      · subst own
        rw [if_pos rfl]
        simp only [AllTake, Field.takes_cons_self, allTake_cons_of_undeclared distinct.1]
        cases slot with
        | some taken => simp
        | none =>
            cases field.read source with
            | error fault => simp [Except.map]
            | ok value =>
                simp only [Except.map, Option.some.injEq, Except.ok.injEq, exists_eq_left',
                  Option.isSome_none, Bool.false_eq_true, if_false, true_and]
                exact exists_ok_iff
      · have behind : key ∈ fields.map Field.name := by
          rw [List.map_cons, List.mem_cons] at declared
          exact declared.resolve_left (Ne.symm own)
        rw [if_neg own]
        simp only [AllTake, Field.takes_cons_of_ne own, ← inductionHypothesis distinct.2 behind]
        cases put? key source fields slots with
        | none => simp
        | some outcome =>
            cases outcome with
            | error fault => simp [Except.map]
            | ok put =>
                simp only [Except.map, Option.some.injEq, Except.ok.injEq, exists_eq_left']
                exact exists_ok_iff

theorem put?_ne_none {key : String} {source : Source} {fields : List (Field Source)} {slots : Slots fields}
    (declared : key ∈ fields.map Field.name) : put? key source fields slots ≠ none := by
  induction fields with
  | nil => cases declared
  | cons field fields inductionHypothesis =>
      obtain ⟨slot, slots⟩ := slots
      rw [put?]
      by_cases own : field.name = key
      · rw [if_pos own]
        split <;> simp
      · rw [List.map_cons, List.mem_cons] at declared
        have put : put? key source fields slots ≠ none :=
          inductionHypothesis (declared.resolve_left (Ne.symm own))
        rw [if_neg own]
        split
        · rename_i nothing
          exact absurd nothing put
        · simp

/-! ## All members -/

/-- Whether a member may stand in a map: its key is text, and if no field has that name, it passes. -/
def MayStand (medium : Medium Source) (names : List String) (member : Option String × Source) : Prop :=
  ∃ key, member.1 = some key ∧ (key ∉ names → medium.passes member.2 = true)

/-- Members come into their slots exactly if all of them may stand and all fields take what they give. -/
theorem putEach_iff {medium : Medium Source} {fields : List (Field Source)}
    (distinct : (fields.map Field.name).Nodup) {members : List (Option String × Source)}
    {slots filled : Slots fields} :
    putEach medium fields members slots = .ok filled ↔
      (∀ member ∈ members, MayStand medium (fields.map Field.name) member) ∧
        AllTake members fields slots filled := by
  induction members generalizing slots with
  | nil => simp [putEach, allTake_nil, eq_comm]
  | cons member rest inductionHypothesis =>
      obtain ⟨key, source⟩ := member
      rw [List.forall_mem_cons]
      cases key with
      | none => simp [putEach, MayStand]
      | some key =>
          rw [putEach]
          by_cases declared : key ∈ fields.map Field.name
          · have stands : MayStand medium (fields.map Field.name) (some key, source) :=
              ⟨key, rfl, fun undeclared => absurd declared undeclared⟩
            rw [← exists_put?_iff distinct declared]
            cases outcome : put? key source fields slots with
            | none => exact absurd outcome (put?_ne_none declared)
            | some given =>
                cases given with
                | error fault => simp
                | ok put => simp [inductionHypothesis, stands]
          · have stands : MayStand medium (fields.map Field.name) (some key, source) ↔
                medium.passes source = true := by
              constructor
              · rintro ⟨_, ⟨⟩, passes⟩
                exact passes declared
              · exact fun passes => ⟨key, rfl, fun _ => passes⟩
            rw [put?_of_undeclared declared, allTake_cons_of_undeclared declared, stands]
            cases medium.passes source with
            | true => simp [inductionHypothesis]
            | false => simp

end NarrativePlayer.Document
