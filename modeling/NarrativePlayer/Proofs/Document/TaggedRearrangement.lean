import NarrativePlayer.Proofs.Document.RearrangedReading

/-!
Contract: rearrangements of tagged values.

The tag is found wherever it stands, and all that stands beside it is held back. Owns that a rearrangement
has the same tag, and that what is held back of it is a rearrangement of what was held back before, in the
form of the record that the tag stands for.
-/

namespace NarrativePlayer.Document

open NarrativePlayer.Json

variable {Source Kind : Type} {medium : Medium Source} {judge : Tag → Except Fault Kind}

/-! ## What is held back -/

/-- The members beside the tag. -/
def beside (members : List (Option String × Source)) : List (Option String × Source) :=
  members.filter fun member => member.1 ≠ some tagKey

theorem beside_cons_tag (source : Source) (members : List (Option String × Source)) :
    beside ((some tagKey, source) :: members) = beside members :=
  List.filter_cons_of_neg (by simp)

theorem beside_cons_of_ne {key : Option String} (other : key ≠ some tagKey) (source : Source)
    (members : List (Option String × Source)) :
    beside ((key, source) :: members) = (key, source) :: beside members :=
  List.filter_cons_of_pos (by simpa using other)

/-- The tag of a map as a field of it. -/
abbrev tagField (medium : Medium Source) (judge : Tag → Except Fault Kind) : Field Source :=
  ⟨tagKey, Kind, readKind medium judge, none⟩

/-- A tagged map is gone through exactly if the tag is taken as a field is, and all else can be held. -/
theorem holdMembers_iff {members : List (Option String × Source)} {kind found : Option Kind}
    {kept held : List (String × Value)} :
    holdMembers medium judge kind kept members = .ok (found, held) ↔
      (tagField medium judge).Takes members kind found ∧
        ∃ values, List.Forall₂ (HeldAs medium.hold?) (beside members) values ∧
          held = kept.reverse ++ values := by
  induction members generalizing kind kept with
  | nil =>
      rw [holdMembers, Field.takes_nil]
      simp [beside, eq_comm]
  | cons member rest inductionHypothesis =>
      obtain ⟨key | key, source⟩ := member
      · simp [holdMembers, beside_cons_of_ne, List.forall₂_cons_left_iff, HeldAs]
      · rw [holdMembers]
        by_cases isTag : key = tagKey
        · subst isTag
          rw [if_pos rfl, beside_cons_tag, (tagField medium judge).takes_cons_self]
          cases kind with
          | some before => simp
          | none =>
              cases judged : readKind medium judge source with
              | error fault => simp [judged]
              | ok given => simp [judged, inductionHypothesis]
        · have other : (tagField medium judge).name ≠ key := Ne.symm isTag
          rw [if_neg isTag, Field.takes_cons_of_ne other, beside_cons_of_ne (by simpa using isTag)]
          simp only [List.forall₂_cons_left_iff]
          cases holds : medium.hold? source with
          | none => simp [HeldAs, holds]
          | some value =>
              simp only [inductionHypothesis]
              refine and_congr_right fun _ => ⟨?_, ?_⟩
              · rintro ⟨values, each, rfl⟩
                exact ⟨_, ⟨(key, value), values, ⟨rfl, holds⟩, each, rfl⟩, by simp⟩
              · rintro ⟨_, ⟨⟨_, _⟩, values, ⟨⟨⟩, same⟩, each, rfl⟩, rfl⟩
                cases holds.symm.trans same
                exact ⟨values, each, by simp⟩

theorem holdItems?_iff {items : List Source} {values : List Value} :
    holdItems? medium items = some values ↔
      List.Forall₂ (fun item value => medium.hold? item = some value) items values := by
  induction items generalizing values with
  | nil => simp [holdItems?, eq_comm]
  | cons item rest inductionHypothesis => exact heldItems_cons inductionHypothesis

/-! ## What is read -/

section

variable {wanted : String} {source : Source} {kind : Kind} {content : Value}

theorem readTagged_of_map {members : List (Option String × Source)}
    (shape : medium.shape source = .map members true) :
    readTagged medium wanted judge source = .ok (kind, content) ↔
      (tagField medium judge).Takes members none (some kind) ∧
        ∃ values, List.Forall₂ (HeldAs medium.hold?) (beside members) values ∧ content = .object values := by
  simp only [readTagged, shape]
  constructor
  · intro reads
    split at reads
    · cases reads
    · rename_i found held gone
      cases found with
      | none => cases reads
      | some kind =>
          cases reads
          obtain ⟨takes, values, each, same⟩ := holdMembers_iff.mp gone
          exact ⟨takes, values, each, congrArg Value.object same⟩
  · rintro ⟨takes, values, each, rfl⟩
    have holds : holdMembers medium judge none [] members = .ok (some kind, values) :=
      holdMembers_iff.mpr ⟨takes, values, each, rfl⟩
    rw [holds]
    rfl

theorem readTagged_of_sequence {first : Source} {rest : List Source}
    (shape : medium.shape source = .sequence (first :: rest) true) :
    readTagged medium wanted judge source = .ok (kind, content) ↔
      readKind medium judge first = .ok kind ∧
        ∃ values, List.Forall₂ (fun item value => medium.hold? item = some value) rest values ∧
          content = .array values := by
  simp only [readTagged, shape, ← holdItems?_iff]
  cases readKind medium judge first with
  | error fault => simp
  | ok given =>
      cases holdItems? medium rest with
      | none => simp
      | some values => simp [eq_comm]

/-- A kind is that of the tag which the value amounts to. -/
theorem tag_of_readKind (reads : readKind medium judge source = .ok kind) :
    ∃ tag, (medium.shape source).tag? = some tag ∧ judge tag = .ok kind := by
  unfold readKind at reads
  split at reads
  · cases reads
  · rename_i tag found
    refine ⟨tag, ?_, reads⟩
    unfold readTag at found
    split at found
    · rename_i shape
      cases found
      rw [shape]
      rfl
    · rename_i shape
      split at found
      · rename_i counts
        cases found
        rw [shape]
        exact if_pos counts.2
      · cases found
    · cases found

theorem judge_of_tag? {tag : Tag} (reads : readKind medium judge source = .ok kind)
    (tagged : (medium.shape source).tag? = some tag) : judge tag = .ok kind := by
  obtain ⟨other, same, judged⟩ := tag_of_readKind reads
  cases same.symm.trans tagged
  exact judged

/-- The tag of a value is the one by which it is judged. -/
theorem judge_of_hasTag {tag : Tag} {members : List (Option String × Source)} {closed : Bool}
    (shape : medium.shape source = .map members closed) (hasTag : HasTag medium source tag)
    (takes : (tagField medium judge).Takes members none (some kind)) : judge tag = .ok kind := by
  simp only [HasTag, shape] at hasTag
  obtain ⟨value, among, tagged⟩ := hasTag
  have chosen : (some tagKey, value) ∈ named tagKey members :=
    List.mem_filter.mpr ⟨among, decide_eq_true rfl⟩
  unfold Field.Takes at takes
  split at takes
  · cases takes
  · rename_i member only
    obtain ⟨-, given, reads, ⟨⟩⟩ := takes
    rw [only, List.mem_singleton] at chosen
    cases chosen
    exact judge_of_tag? reads tagged
  · exact takes.elim

end

/-! ## Rearrangements -/

variable {admits : Nat → Source → Prop} {room : Nat}

theorem respects_kind {form : Form} : Respects medium admits room form (readKind medium judge) := by
  refine respects_of_scalar fun {source kind} reads => ?_
  obtain ⟨tag, tagged, -⟩ := tag_of_readKind reads
  cases shape : medium.shape source with
  | scalar value => exact ⟨value, rfl⟩
  | _ => simp [shape, Shape.tag?] at tagged

theorem Form.member_cons_tag {forms : List (String × Form)} {key : Option String}
    (other : key ≠ some tagKey) :
    (Form.record ((tagKey, .free) :: forms)).member key = (Form.record forms).member key := by
  cases key with
  | none => rfl
  | some name =>
      have differs : tagKey ≠ name := fun same => other (congrArg some same.symm)
      simp [member, differs]

/-- The tag counts as declared. -/
theorem ne_tagKey_of_strange {forms : List (String × Form)} {added : List (Option String × Source)}
    (strange : ∀ entry ∈ added, ∃ name, entry.1 = some name ∧
      (Form.record ((tagKey, .free) :: forms)).AdmitsName name ∧ admits room entry.2) :
    ∀ entry ∈ added, entry.1 ≠ some tagKey := by
  intro entry isAdded same
  obtain ⟨name, key, undeclared, -⟩ := strange entry isAdded
  cases key.symm.trans same
  exact undeclared List.mem_cons_self

/-- What stands beside the tag of a map is held back of its rearrangement, as a rearrangement. -/
theorem exists_heldBeside (retains : Retains medium admits (room - 1)) {forms : List (String × Form)}
    {kept : List (Option String × Source × Source)} {added members : List (Option String × Source)}
    {values : List (String × Value)} (distinct : (kept.filterMap Prod.fst).Nodup)
    (order : members.Perm (kept.map (fun entry => (entry.1, entry.2.2)) ++ added))
    (each : List.Forall₂ (HeldAs medium.hold?) (beside (kept.map fun entry => (entry.1, entry.2.1))) values)
    (parts : ∀ entry ∈ kept, Rearranged medium admits (room - 1)
      ((Form.record ((tagKey, .free) :: forms)).member entry.1) entry.2.1 entry.2.2)
    (strange : ∀ entry ∈ added, ∃ name, entry.1 = some name ∧
      (Form.record ((tagKey, .free) :: forms)).AdmitsName name ∧ admits (room - 1) entry.2) :
    ∃ others, List.Forall₂ (HeldAs medium.hold?) (beside members) others ∧
      RearrangedValue room (.record forms) (.object values) (.object others) := by
  have addedBeside : added.filter (fun member => member.1 ≠ some tagKey) = added :=
    List.filter_eq_self.mpr fun entry isAdded => decide_eq_true (ne_tagKey_of_strange strange entry isAdded)
  have orderBeside := order.filter fun member => member.1 ≠ some tagKey
  rw [List.filter_append, addedBeside, List.filter_map] at orderBeside
  rw [beside, List.filter_map] at each
  have distinctBeside : ((kept.filter fun entry => entry.1 ≠ some tagKey).filterMap Prod.fst).Nodup :=
    distinct.sublist (List.filter_sublist.filterMap Prod.fst)
  refine exists_heldMembers (.record forms) rfl distinctBeside orderBeside each ?_ ?_
  · intro entry isBeside value holds
    obtain ⟨isKept, other⟩ := List.mem_filter.mp isBeside
    have part := parts entry isKept
    rw [Form.member_cons_tag (by simpa using other)] at part
    exact retains.holds part holds
  · intro entry isAdded
    obtain ⟨name, key, undeclared, admitted⟩ := strange entry isAdded
    exact ⟨name, key, fun among => undeclared (List.mem_cons_of_mem _ among), retains.holdsAdded admitted⟩

/-- What is held back of a tagged value is held back of its rearrangement, as a rearrangement in the form of
the record that the tag stands for. -/
theorem Rearranged.readTagged (retains : Retains medium admits (room - 1))
    {fieldsOf : Tag → List (String × Form)} {source other : Source}
    (rearranged : Rearranged medium admits room (.tagged fieldsOf) source other) {wanted : String}
    {kind : Kind} {content : Value}
    (reads : readTagged medium wanted judge source = .ok (kind, content))
    {forms : List (String × Form)} (declared : ∀ tag, judge tag = .ok kind → fieldsOf tag = forms) :
    ∃ held, Document.readTagged medium wanted judge other = .ok (kind, held) ∧
      RearrangedValue room (.record forms) content held := by
  cases rearranged with
  | same => exact ⟨content, reads, .same _ _ _⟩
  | items pairs untagged => cases untagged
  | members kept added members untagged => cases untagged
  | tagged tag hasTag asRecord =>
      cases asRecord with
      | same => exact ⟨content, reads, .same _ _ _⟩
      -- The tag is the first item, and every item behind it has the form of the field one place before.
      | items pairs _ before after parts =>
          cases pairs with
          | nil => simp [Document.readTagged, before] at reads
          | cons pair rest =>
              obtain ⟨first, values, each, rfl⟩ := (readTagged_of_sequence before).mp reads
              have tagged : (medium.shape pair.1).tag? = some tag := by simpa [HasTag, before] using hasTag
              rw [declared tag (judge_of_tag? first tagged)] at parts
              obtain ⟨others, eachOther, heldRearranged⟩ := exists_heldItems (.record forms) rfl each
                fun index pair here value holds => retains.holds (parts (index + 1) pair here) holds
              have firstOther : readKind medium judge pair.2 = .ok kind := respects_kind (parts 0 pair rfl) first
              refine ⟨.array others, ?_, heldRearranged⟩
              exact (readTagged_of_sequence after).mpr ⟨firstOther, others, eachOther, rfl⟩
      | members kept added members _ before after distinct order parts strange =>
          obtain ⟨takes, values, each, rfl⟩ := (readTagged_of_map before).mp reads
          rw [declared tag (judge_of_hasTag before hasTag takes)] at parts strange
          have noTag : named tagKey added = [] :=
            List.filter_eq_nil_iff.mpr fun entry isAdded same =>
              ne_tagKey_of_strange strange entry isAdded (of_decide_eq_true same)
          have takesOther : (tagField medium judge).Takes members none (some kind) :=
            (tagField medium judge).takes_rearranged order
              (fun entry isKept _ => respects_kind (parts entry isKept)) noTag takes
          obtain ⟨others, eachOther, heldRearranged⟩ :=
            exists_heldBeside retains distinct order each parts strange
          refine ⟨.object others, ?_, heldRearranged⟩
          exact (readTagged_of_map after).mpr ⟨takesOther, others, eachOther, rfl⟩

end NarrativePlayer.Document
