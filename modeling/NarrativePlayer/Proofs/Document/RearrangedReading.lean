import NarrativePlayer.Proofs.Document.HeldValues
import NarrativePlayer.Proofs.Document.Origins
import NarrativePlayer.Proofs.Document.Records
import NarrativePlayer.Proofs.Story.Tables

/-!
Contract: readers that do not see a rearrangement.

A reader respects a form if it reads whatever it reads of a value of every rearrangement in that form. Owns
this of the readers of single values, which cannot be rearranged, of lists and tables, and of records. What
a value that cannot be read turns into is left open. Does not own what carries a tag.
-/

namespace NarrativePlayer.Document

open NarrativePlayer.Json

variable {Source Carrier : Type} {medium : Medium Source} {admits : Nat → Source → Prop} {room : Nat}
  {form : Form}

/-- Whether a reader reads the same of every rearrangement of what it can read. -/
def Respects (medium : Medium Source) (admits : Nat → Source → Prop) (room : Nat) (form : Form)
    (read : Source → Except Fault Carrier) : Prop :=
  ∀ ⦃source other carrier⦄, Rearranged medium admits room form source other →
    read source = .ok carrier → read other = .ok carrier

theorem Respects.map {Result : Type} {read : Source → Except Fault Carrier}
    (respects : Respects medium admits room form read) (change : Carrier → Result) :
    Respects medium admits room form fun source => (read source).map change := by
  intro source other result rearranged reads
  obtain ⟨carrier, given, rfl⟩ := of_map reads
  show (read other).map change = _
  rw [respects rearranged given]
  rfl

/-! ## Single values -/

/-- What only values without parts are read with respects any form. -/
theorem respects_of_scalar {read : Source → Except Fault Carrier}
    (scalar : ∀ {source carrier}, read source = .ok carrier → ∃ value, medium.shape source = .scalar value) :
    Respects medium admits room form read := by
  intro source other carrier rearranged reads
  obtain ⟨value, shape⟩ := scalar reads
  rw [rearranged.eq_of_scalar shape]
  exact reads

theorem scalar_of_readText {source : Source} {text : String} (reads : readText medium source = .ok text) :
    medium.shape source = .scalar (.string text) := by
  unfold readText at reads
  split at reads
  · rename_i shape
    cases reads
    exact shape
  · cases reads

theorem respects_text : Respects medium admits room form (readText medium) :=
  respects_of_scalar fun reads => ⟨_, scalar_of_readText reads⟩

theorem respects_flag : Respects medium admits room form (readFlag medium) := by
  refine respects_of_scalar fun {source carrier} reads => ?_
  unfold readFlag at reads
  split at reads
  · rename_i shape
    exact ⟨_, shape⟩
  · cases reads

theorem respects_count (wanted : String) : Respects medium admits room form (readCount medium wanted) := by
  refine respects_of_scalar fun {source carrier} reads => ?_
  unfold readCount at reads
  split at reads
  · rename_i shape
    exact ⟨_, shape⟩
  · cases reads

theorem respects_pause : Respects medium admits room form (readPause medium) := by
  refine respects_of_scalar fun {source carrier} reads => ?_
  unfold readPause at reads
  split at reads
  · rename_i shape
    exact ⟨_, shape⟩
  · cases reads

theorem respects_optional {read : Source → Except Fault Carrier}
    (respects : Respects medium admits room form read) :
    Respects medium admits room form (readOptional medium read) := by
  intro source other carrier rearranged reads
  rcases rearranged.eq_or_not_scalar with rfl | parted
  · exact reads
  · have present : ∀ {part : Source}, medium.shape part ≠ .scalar .null →
        readOptional medium read part = (read part).map some := by
      intro part notNull
      unfold readOptional
      split
      · rename_i shape
        exact absurd shape notNull
      · rfl
    have notNull : medium.shape source ≠ .scalar .null := by
      intro shape
      rw [rearranged.eq_of_scalar shape] at parted
      exact parted _ shape
    rw [present notNull] at reads
    rw [present (parted _)]
    exact respects.map some rearranged reads

/-! ## Lists and tables -/

theorem readEach_pairs {read : Source → Except Fault Carrier} {pairs : List (Source × Source)}
    {carriers : List Carrier}
    (each : ∀ pair ∈ pairs, ∀ {carrier}, read pair.1 = .ok carrier → read pair.2 = .ok carrier)
    (reads : readEach read (pairs.map Prod.fst) = .ok carriers) :
    readEach read (pairs.map Prod.snd) = .ok carriers := by
  induction pairs generalizing carriers with
  | nil => exact reads
  | cons pair rest inductionHypothesis =>
      obtain ⟨here, later⟩ := List.forall_mem_cons.mp each
      rw [List.map_cons, readEach] at reads
      split at reads
      · cases reads
      · rename_i carrier first
        obtain ⟨others, more, rfl⟩ := of_map reads
        rw [List.map_cons, readEach, here first, inductionHypothesis later more]
        rfl

theorem readList_of_shape {read : Source → Except Fault Carrier} {source : Source} {items : List Source}
    (shape : medium.shape source = .sequence items true) :
    readList medium read source = readEach read items := by
  unfold readList
  simp only [shape]
  cases readEach read items <;> rfl

theorem respects_list {item : Form} {read : Source → Except Fault Carrier}
    (respects : Respects medium admits (room - 1) item read) :
    Respects medium admits room (.list item) (readList medium read) := by
  intro source other carriers rearranged reads
  cases rearranged with
  | same => exact reads
  | items pairs untagged before after parts =>
      rw [readList_of_shape before] at reads
      rw [readList_of_shape after]
      refine readEach_pairs (fun pair member => ?_) reads
      obtain ⟨index, here⟩ := List.mem_iff_getElem?.mp member
      exact respects (parts index pair here)
  | members kept added members untagged before after =>
      simp only [readList, before] at reads
      cases reads

/-- Whether a member is an entry of a table. -/
def IsEntry (medium : Medium Source) (member : Option String × Source) (entry : String × String) : Prop :=
  member.1 = some entry.1 ∧ readText medium member.2 = .ok entry.2

theorem readEntries_iff {members : List (Option String × Source)} {entries : List (String × String)} :
    readEntries medium members = .ok entries ↔ List.Forall₂ (IsEntry medium) members entries := by
  induction members generalizing entries with
  | nil => simp [readEntries, eq_comm]
  | cons member rest inductionHypothesis =>
      obtain ⟨key, source⟩ := member
      rw [List.forall₂_cons_left_iff]
      constructor
      · intro reads
        cases key with
        | none => cases reads
        | some key =>
            rw [readEntries] at reads
            split at reads
            · cases reads
            · rename_i value first
              obtain ⟨others, more, rfl⟩ := of_map reads
              exact ⟨_, others, ⟨rfl, first⟩, inductionHypothesis.mp more, rfl⟩
      · rintro ⟨entry, others, ⟨rfl, first⟩, each, rfl⟩
        rw [readEntries, first]
        show (readEntries medium rest).map _ = _
        rw [inductionHypothesis.mpr each]
        rfl

/-- Members whose values are rearranged are the same entries. -/
private theorem entries_kept {kept : List (Option String × Source × Source)}
    {entries : List (String × String)}
    (parts : ∀ entry ∈ kept, ∀ {text}, readText medium entry.2.1 = .ok text →
      readText medium entry.2.2 = .ok text)
    (each : List.Forall₂ (IsEntry medium) (kept.map fun entry => (entry.1, entry.2.1)) entries) :
    List.Forall₂ (IsEntry medium) (kept.map fun entry => (entry.1, entry.2.2)) entries ∧
      kept.filterMap Prod.fst = entries.map Prod.fst := by
  induction kept generalizing entries with
  | nil =>
      cases each
      exact ⟨.nil, rfl⟩
  | cons member rest inductionHypothesis =>
      obtain ⟨here, later⟩ := List.forall_mem_cons.mp parts
      cases each with
      | cons first each =>
          obtain ⟨eachOther, keys⟩ := inductionHypothesis later each
          have key : member.1 = some _ := first.1
          refine ⟨.cons ⟨key, here first.2⟩ eachOther, ?_⟩
          rw [List.filterMap_cons_some key, keys, List.map_cons]

theorem readTable_of_shape {source : Source} {members : List (Option String × Source)}
    (shape : medium.shape source = .map members true) :
    readTable medium source = (readEntries medium members).map Table.ofList := by
  unfold readTable
  simp only [shape]
  cases readEntries medium members <;> rfl

/-- Nothing is added to what is no record. -/
private theorem eq_nil_of_free {added : List (Option String × Source)}
    (strange : ∀ entry ∈ added, ∃ name, entry.1 = some name ∧ Form.free.AdmitsName name ∧
      admits (room - 1) entry.2) : added = [] := by
  refine List.eq_nil_iff_forall_not_mem.mpr fun entry member => ?_
  obtain ⟨name, -, admitted, -⟩ := strange entry member
  exact admitted

/-- Entries whose keys differ make the same table in any order. -/
theorem respects_table : Respects medium admits room .free (readTable medium) := by
  intro source other table rearranged reads
  cases rearranged with
  | same => exact reads
  | items pairs untagged before after =>
      simp only [readTable, before] at reads
      cases reads
  | members kept added members untagged before after distinct order parts strange =>
      rw [eq_nil_of_free strange, List.append_nil] at order
      rw [readTable_of_shape before] at reads
      obtain ⟨entries, each, rfl⟩ := of_map reads
      obtain ⟨eachOther, keys⟩ :=
        entries_kept (fun entry member => respects_text (parts entry member)) (readEntries_iff.mp each)
      obtain ⟨ordered, eachOrdered, orderEntries⟩ := List.perm_comp_forall₂ order eachOther
      rw [readTable_of_shape after, readEntries_iff.mpr eachOrdered]
      rw [keys] at distinct
      exact congrArg Except.ok (Table.ofList_eq_of_perm distinct orderEntries)

theorem Rearranged.shape_eq_of_empty {source other : Source}
    (rearranged : Rearranged medium admits room .free source other)
    (empty : medium.shape source = .map [] true) : medium.shape other = .map [] true := by
  cases rearranged with
  | same => exact empty
  | items pairs untagged before => cases before.symm.trans empty
  | members kept added members untagged before after distinct order parts strange =>
      rw [before, Shape.map.injEq, List.map_eq_nil_iff] at empty
      rw [empty.1, eq_nil_of_free strange] at order
      rw [after, order.eq_nil]

/-- Whether a value may stand beside a name as the only key of a map. -/
def IsUnit (medium : Medium Source) (payload : Source) : Prop :=
  medium.shape payload = .scalar .null ∨ medium.shape payload = .map [] true ∧ medium.held = true

theorem Rearranged.isUnit {payload other : Source}
    (rearranged : Rearranged medium admits room .free payload other) (unit : IsUnit medium payload) :
    IsUnit medium other := by
  rcases unit with null | ⟨empty, held⟩
  · rw [rearranged.eq_of_scalar null]
    exact .inl null
  · exact .inr ⟨rearranged.shape_eq_of_empty empty, held⟩

theorem readName_of_only {known : List (String × Carrier)} {source payload : Source} {name : String}
    {carrier : Carrier} (only : medium.shape source = .map [(some name, payload)] true)
    (isKnown : ofName known name = .ok carrier) (unit : IsUnit medium payload) :
    readName medium known source = .ok carrier := by
  unfold readName
  rw [only]
  simp only [isKnown]
  rcases unit with null | ⟨empty, held⟩
  · rw [null]
  · rw [empty]
    exact if_pos held

/-- A name is read from a text, or from a map of which it is the only key. -/
theorem of_readName {known : List (String × Carrier)} {source : Source} {carrier : Carrier}
    (reads : readName medium known source = .ok carrier) :
    (∃ name, medium.shape source = .scalar (.string name)) ∨
      ∃ name payload, medium.shape source = .map [(some name, payload)] true ∧
        ofName known name = .ok carrier ∧ IsUnit medium payload := by
  unfold readName at reads
  split at reads
  · rename_i name shape
    exact .inl ⟨name, shape⟩
  · rename_i name payload only
    right
    split at reads
    · cases reads
    · rename_i value isKnown
      split at reads
      · rename_i null
        cases reads
        exact ⟨name, payload, only, isKnown, .inl null⟩
      · rename_i empty
        split at reads
        · rename_i held
          cases reads
          exact ⟨name, payload, only, isKnown, .inr ⟨empty, held⟩⟩
        · cases reads
      · cases reads
  · cases reads
  · cases reads
  · cases reads

/-- A name that is the only key of a map stays so. -/
theorem respects_name (known : List (String × Carrier)) :
    Respects medium admits room .free (readName medium known) := by
  intro source other carrier rearranged reads
  rcases of_readName reads with ⟨name, shape⟩ | ⟨name, payload, only, isKnown, unit⟩
  · rw [rearranged.eq_of_scalar shape]
    exact reads
  · cases rearranged with
    | same => exact reads
    | items pairs untagged before => cases before.symm.trans only
    | members kept added members untagged before after distinct order parts strange =>
        rw [eq_nil_of_free strange, List.append_nil] at order
        obtain ⟨⟨key, old, new⟩, rfl, here⟩ :=
          List.map_eq_singleton_iff.mp (Shape.map.inj (before.symm.trans only)).1
        cases here
        have part := parts _ (List.mem_singleton_self _)
        rw [List.perm_singleton.mp order] at after
        exact readName_of_only after isKnown (part.isUnit unit)

/-! ## Records -/

/-- Whether the fields of a form are those of a record, each with a reader that respects its form. -/
def Aligned (medium : Medium Source) (admits : Nat → Source → Prop) (room : Nat) :
    List (Field Source) → List (String × Form) → Prop :=
  List.Forall₂ fun field entry =>
    field.name = entry.1 ∧ Respects medium admits room entry.2 field.read

theorem Aligned.names {fields : List (Field Source)} {forms : List (String × Form)}
    (aligned : Aligned medium admits room fields forms) : fields.map Field.name = forms.map Prod.fst := by
  induction aligned with
  | nil => rfl
  | cons first _ inductionHypothesis => rw [List.map_cons, List.map_cons, first.1, inductionHypothesis]

/-- Every field respects the form that its name has in the record. -/
theorem Aligned.respects {fields : List (Field Source)} {forms : List (String × Form)}
    (aligned : Aligned medium admits room fields forms) (distinct : (fields.map Field.name).Nodup) :
    ∀ field ∈ fields,
      Respects medium admits room ((Form.record forms).member (some field.name)) field.read := by
  induction aligned with
  | nil => exact fun _ member => nomatch member
  | @cons first entry fields forms here later inductionHypothesis =>
      rw [List.map_cons, List.nodup_cons] at distinct
      refine List.forall_mem_cons.mpr ⟨?_, fun field member => ?_⟩
      · have own : (Form.record (entry :: forms)).member (some first.name) = entry.2 := by
          simp [Form.member, here.1]
        rw [own]
        exact here.2
      · have other : entry.1 ≠ field.name := by
          intro same
          exact distinct.1 (List.mem_map.mpr ⟨field, member, by rw [here.1, same]⟩)
        have skipped : (Form.record (entry :: forms)).member (some field.name) =
            (Form.record forms).member (some field.name) := by
          simp [Form.member, other]
        rw [skipped]
        exact inductionHypothesis distinct.2 field member

/-- A record that is given by position. -/
theorem Aligned.readPositions {fields : List (Field Source)} {forms : List (String × Form)}
    (aligned : Aligned medium admits room fields forms) {length : String} {index : Nat}
    {pairs : List (Source × Source)} {contents : Contents fields}
    (parts : ∀ place pair, pairs[place]? = some pair →
      Rearranged medium admits room ((Form.record forms).item place) pair.1 pair.2)
    (reads : readPositions medium length true index fields (pairs.map Prod.fst) = .ok contents) :
    readPositions medium length true index fields (pairs.map Prod.snd) = .ok contents := by
  induction aligned generalizing pairs index with
  | nil =>
      cases pairs with
      | nil => exact reads
      | cons pair rest => cases reads
  | cons first _ inductionHypothesis =>
      cases pairs with
      | nil => exact reads
      | cons pair rest =>
          rw [List.map_cons, Document.readPositions] at reads
          split at reads
          · cases reads
          · rename_i carrier given
            obtain ⟨others, more, rfl⟩ := of_map reads
            have again := first.2 (parts 0 pair rfl) given
            rw [List.map_cons, Document.readPositions, again]
            show (Document.readPositions medium length true (index + 1) _ (rest.map Prod.snd)).map _ = _
            rw [inductionHypothesis (fun place => parts (place + 1)) more]
            rfl

/-- The members of a name, where members stand in another order and others are added. -/
theorem named_of_order {kept : List (Option String × Source × Source)}
    {added members : List (Option String × Source)}
    (order : members.Perm (kept.map (fun entry => (entry.1, entry.2.2)) ++ added)) {name : String}
    (strange : named name added = []) :
    (named name members).Perm
      ((kept.filter fun entry => entry.1 = some name).map fun entry => (entry.1, entry.2.2)) := by
  have selected := order.filter fun member => member.1 = some name
  rw [List.filter_append, show added.filter (fun member => member.1 = some name) = [] from strange,
    List.append_nil, List.filter_map] at selected
  exact selected

/-- What a field takes of members, it takes of them rearranged. -/
theorem Field.takes_rearranged {field : Field Source} {kept : List (Option String × Source × Source)}
    {added members : List (Option String × Source)}
    (order : members.Perm (kept.map (fun entry => (entry.1, entry.2.2)) ++ added))
    (parts : ∀ entry ∈ kept, entry.1 = some field.name → ∀ {carrier},
      field.read entry.2.1 = .ok carrier → field.read entry.2.2 = .ok carrier)
    (strange : named field.name added = []) {slot filled : Option field.Carrier}
    (takes : field.Takes (kept.map fun entry => (entry.1, entry.2.1)) slot filled) :
    field.Takes members slot filled := by
  have after := named_of_order order strange
  have before : named field.name (kept.map fun entry => (entry.1, entry.2.1)) =
      (kept.filter fun entry => entry.1 = some field.name).map fun entry => (entry.1, entry.2.1) :=
    List.filter_map
  unfold Takes at takes ⊢
  rw [before] at takes
  cases selected : kept.filter fun entry => entry.1 = some field.name with
  | nil =>
      rw [selected, List.map_nil] at takes after
      rw [after.eq_nil]
      exact takes
  | cons entry rest =>
      rw [selected, List.map_cons] at takes after
      cases rest with
      | nil =>
          obtain ⟨free, value, reads, rfl⟩ := takes
          obtain ⟨member, named⟩ := List.mem_filter.mp (selected ▸ List.mem_singleton_self entry)
          rw [List.perm_singleton.mp after]
          exact ⟨free, value, parts entry member (by simpa using named) reads, rfl⟩
      | cons next rest => exact takes.elim

theorem allTake_rearranged {fields : List (Field Source)}
    {kept : List (Option String × Source × Source)} {added members : List (Option String × Source)}
    (order : members.Perm (kept.map (fun entry => (entry.1, entry.2.2)) ++ added))
    (parts : ∀ field ∈ fields, ∀ entry ∈ kept, entry.1 = some field.name → ∀ {carrier},
      field.read entry.2.1 = .ok carrier → field.read entry.2.2 = .ok carrier)
    (strange : ∀ field ∈ fields, named field.name added = []) {slots filled : Slots fields}
    (takes : AllTake (kept.map fun entry => (entry.1, entry.2.1)) fields slots filled) :
    AllTake members fields slots filled := by
  induction fields with
  | nil => trivial
  | cons field fields inductionHypothesis =>
      obtain ⟨here, later⟩ := List.forall_mem_cons.mp parts
      obtain ⟨strangeHere, strangeLater⟩ := List.forall_mem_cons.mp strange
      exact ⟨field.takes_rearranged order here strangeHere takes.1,
        inductionHypothesis later strangeLater takes.2⟩

theorem readRecord_of_map {wanted : String} {fields : List (Field Source)} {source : Source}
    {members : List (Option String × Source)} (shape : medium.shape source = .map members true)
    {contents : Contents fields} :
    readRecord medium wanted fields source = .ok contents ↔
      ∃ filled, putEach medium fields members (vacant fields) = .ok filled ∧
        complete fields filled = .ok contents := by
  simp only [readRecord, shape]
  cases putEach medium fields members (vacant fields) with
  | error fault => simp
  | ok filled => simp

/-- A record is read the same of every rearrangement, by name and by position. -/
theorem respects_record (overlooks : Overlooks medium admits) {wanted : String}
    {fields : List (Field Source)} {forms : List (String × Form)}
    (declaredOnce : (forms.map Prod.fst).Nodup)
    (aligned : Aligned medium admits (room - 1) fields forms) :
    Respects medium admits room (.record forms) (readRecord medium wanted fields) := by
  intro source other contents rearranged reads
  have distinct : (fields.map Field.name).Nodup := aligned.names ▸ declaredOnce
  cases rearranged with
  | same => exact reads
  | items pairs untagged before after parts =>
      simp only [readRecord, before] at reads
      simp only [readRecord, after]
      exact aligned.readPositions parts reads
  | members kept added members untagged before after _ order parts strange =>
      rw [readRecord_of_map before] at reads
      obtain ⟨filled, puts, completes⟩ := reads
      obtain ⟨stand, takes⟩ := (putEach_iff distinct).mp puts
      rw [readRecord_of_map after]
      refine ⟨filled, (putEach_iff distinct).mpr ⟨?_, ?_⟩, completes⟩
      · intro member among
        rcases List.mem_append.mp (order.mem_iff.mp among) with isKept | isAdded
        · obtain ⟨entry, here, rfl⟩ := List.mem_map.mp isKept
          obtain ⟨key, same, passes⟩ := stand _ (List.mem_map.mpr ⟨entry, here, rfl⟩)
          exact ⟨key, same, fun undeclared => overlooks.passes (parts entry here) (passes undeclared)⟩
        · obtain ⟨name, same, -, admitted⟩ := strange member isAdded
          exact ⟨name, same, fun _ => overlooks.passesAdded admitted⟩
      -- A member that is taken has a declared name, and so the form of its field; no added member does.
      · refine allTake_rearranged order (fun field declared entry here named => ?_)
          (fun field declared => ?_) takes
        · intro carrier reads
          have part := parts entry here
          rw [named] at part
          exact aligned.respects distinct field declared part reads
        · refine List.filter_eq_nil_iff.mpr fun member isAdded same => ?_
          obtain ⟨name, key, undeclared, -⟩ := strange member isAdded
          rw [key, decide_eq_true_eq, Option.some.injEq] at same
          refine undeclared ?_
          rw [← aligned.names, same]
          exact List.mem_map_of_mem declared

end NarrativePlayer.Document
