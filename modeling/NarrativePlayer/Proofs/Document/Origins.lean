import NarrativePlayer.Document.Tagged
import NarrativePlayer.Proofs.Decimal.ShortNumbers

/-!
Contract: where that which was read comes from.

A medium is honest if only numbers that can be written come out of it, in parts and in values that are
held back alike. The media of texts and of held values are. Owns what can be said of a value once it was
read: bounds of counts, the origin of every item of a list and of every field of a record, and the origin
of what stands beside a tag.
-/

namespace NarrativePlayer.Json

open NarrativePlayer.Decimal

/-- Whether all numbers of a value can be read. -/
inductive Value.Sound : Value → Prop
  | null : Sound .null
  | bool (value : Bool) : Sound (.bool value)
  | number {number : Number} (sound : number.Sound) : Sound (.number number)
  | string (value : String) : Sound (.string value)
  | array {items : List Value} (sound : ∀ item ∈ items, Sound item) : Sound (.array items)
  | object {members : List (String × Value)} (sound : ∀ member ∈ members, Sound member.2) :
      Sound (.object members)

mutual

theorem sound_of_value? {room : Nat} : ∀ {draft : Draft} {value : Value},
    draft.value? room = some value → value.Sound
  | .broken, _, amounts => nomatch amounts
  | .null, _, rfl => .null
  | .bool value, _, rfl => .bool value
  | .numeral _, _, amounts => by
      obtain ⟨number, stands, rfl⟩ := Option.map_eq_some_iff.mp amounts
      exact .number (sound_of_number? stands)
  | .string _, _, amounts => by
      obtain ⟨text, -, rfl⟩ := Option.map_eq_some_iff.mp amounts
      exact .string text
  | .array items _, _, amounts => by
      rw [Draft.value?] at amounts
      split at amounts
      · cases amounts
      · obtain ⟨values, each, rfl⟩ := Option.map_eq_some_iff.mp amounts
        exact .array (sound_of_itemValues? each)
  | .object members _, _, amounts => by
      rw [Draft.value?] at amounts
      split at amounts
      · cases amounts
      · obtain ⟨values, each, rfl⟩ := Option.map_eq_some_iff.mp amounts
        exact .object (sound_of_memberValues? each)

theorem sound_of_itemValues? {room : Nat} : ∀ {items : List Draft} {values : List Value},
    Draft.itemValues? room items = some values → ∀ value ∈ values, value.Sound
  | [], _, rfl => fun _ member => absurd member List.not_mem_nil
  | item :: rest, _, amounts => by
      rw [Draft.itemValues?] at amounts
      split at amounts
      · cases amounts
      · rename_i value first
        obtain ⟨values, each, rfl⟩ := Option.map_eq_some_iff.mp amounts
        exact List.forall_mem_cons.mpr ⟨sound_of_value? first, sound_of_itemValues? each⟩

theorem sound_of_memberValues? {room : Nat} :
    ∀ {members : List (Option String × Draft)} {values : List (String × Value)},
    Draft.memberValues? room members = some values → ∀ value ∈ values, value.2.Sound
  | [], _, rfl => fun _ member => absurd member List.not_mem_nil
  | (none, _) :: _, _, amounts => nomatch amounts
  | (some key, draft) :: rest, _, amounts => by
      rw [Draft.memberValues?] at amounts
      split at amounts
      · cases amounts
      · rename_i value first
        obtain ⟨values, each, rfl⟩ := Option.map_eq_some_iff.mp amounts
        exact List.forall_mem_cons.mpr ⟨sound_of_value? first, sound_of_memberValues? each⟩

end

end NarrativePlayer.Json

namespace NarrativePlayer.Document

open NarrativePlayer.Decimal NarrativePlayer.Json

/-- What is made of a reading comes from a reading that went well. -/
theorem of_map {Carrier Whole : Type} {reading : Except Fault Carrier} {make : Carrier → Whole}
    {whole : Whole} (made : reading.map make = .ok whole) :
    ∃ carrier, reading = .ok carrier ∧ make carrier = whole := by
  cases reading with
  | error fault => cases made
  | ok carrier => exact ⟨carrier, rfl, Except.ok.inj made⟩

/-- Whether sound sources of a medium have sound parts. -/
structure Honest {Source : Type} (medium : Medium Source) (sound : Source → Prop) : Prop where
  number : ∀ {source number}, sound source → medium.shape source = .scalar (.number number) → number.Sound
  items : ∀ {source items closed}, sound source → medium.shape source = .sequence items closed →
    ∀ item ∈ items, sound item
  members : ∀ {source members closed}, sound source → medium.shape source = .map members closed →
    ∀ member ∈ members, sound member.2
  hold? : ∀ {source value}, sound source → medium.hold? source = some value → value.Sound

/-- Every number of a text can be read. -/
theorem honest_text : Honest Medium.text fun _ => True where
  number := by
    intro draft number _ shape
    cases draft with
    | numeral numeral =>
        unfold Medium.text draftShape at shape
        dsimp only at shape
        split at shape
        · rename_i stands
          cases shape
          exact sound_of_number? stands
        · cases shape
    | string text => cases text <;> cases shape
    | _ => cases shape
  items _ _ _ _ := trivial
  members _ _ _ _ := trivial
  hold? _ amounts := sound_of_value? amounts

theorem honest_heldBack : Honest Medium.heldBack Value.Sound where
  number := by
    rintro value number sound shape
    cases sound with
    | number sound =>
        cases shape
        exact sound
    | _ => cases shape
  items := by
    rintro value items closed sound shape
    cases sound with
    | array sound =>
        cases shape
        exact sound
    | _ => cases shape
  members := by
    rintro value members closed sound shape
    cases sound with
    | object sound =>
        cases shape
        rintro _ among
        obtain ⟨member, here, rfl⟩ := List.mem_map.mp among
        exact sound member here
    | _ => cases shape
  hold? sound amounts := Option.some.inj amounts ▸ sound

section

variable {Source Carrier : Type} {medium : Medium Source} {sound : Source → Prop} {source : Source}

/-! ## Numbers, options and lists -/

theorem Honest.count_lt (honest : Honest medium sound) (soundSource : sound source) {wanted : String}
    {count : Nat} (reads : readCount medium wanted source = .ok count) : count < wordBound := by
  unfold readCount at reads
  split at reads
  · rename_i value shape
    split at reads
    · have bounded : value < (wordBound : Int) := honest.number soundSource shape
      cases reads
      omega
    · cases reads
  · cases reads

theorem Honest.pause_eq (honest : Honest medium sound) (soundSource : sound source) {delay : Nat}
    (reads : readPause medium source = .ok delay) : ∃ number : Number, number.Sound ∧ pause number = delay := by
  unfold readPause at reads
  split at reads
  · rename_i number shape
    cases reads
    exact ⟨number, honest.number soundSource shape, rfl⟩
  · cases reads

theorem of_readOptional {read : Source → Except Fault Carrier} {carrier : Carrier}
    (reads : readOptional medium read source = .ok (some carrier)) : read source = .ok carrier := by
  unfold readOptional at reads
  split at reads
  · cases reads
  · obtain ⟨other, reads, same⟩ := of_map reads
    cases same
    exact reads

theorem of_readEach {read : Source → Except Fault Carrier} {sources : List Source}
    {carriers : List Carrier} (reads : readEach read sources = .ok carriers) :
    ∀ carrier ∈ carriers, ∃ source ∈ sources, read source = .ok carrier := by
  induction sources generalizing carriers with
  | nil =>
      cases reads
      exact fun _ among => absurd among List.not_mem_nil
  | cons source rest inductionHypothesis =>
      rw [readEach] at reads
      split at reads
      · cases reads
      · rename_i first here
        obtain ⟨others, more, rfl⟩ := of_map reads
        refine List.forall_mem_cons.mpr ⟨⟨source, List.mem_cons_self .., here⟩, ?_⟩
        intro carrier among
        obtain ⟨origin, later, reads⟩ := inductionHypothesis more carrier among
        exact ⟨origin, List.mem_cons_of_mem _ later, reads⟩

/-- Every item of a list was read from a sound source. -/
theorem Honest.of_readList (honest : Honest medium sound) (soundSource : sound source)
    {read : Source → Except Fault Carrier} {carriers : List Carrier}
    (reads : readList medium read source = .ok carriers) :
    ∀ carrier ∈ carriers, ∃ origin, sound origin ∧ read origin = .ok carrier := by
  unfold readList at reads
  split at reads
  · rename_i items closed shape
    split at reads
    · cases reads
    · rename_i values each
      split at reads
      · cases reads
        intro carrier among
        obtain ⟨origin, here, reads⟩ := of_readEach each carrier among
        exact ⟨origin, honest.items soundSource shape origin here, reads⟩
      · cases reads
  · cases reads

end

/-! ## Records -/

section

variable {Source : Type} {medium : Medium Source} {sound : Source → Prop} {source : Source}

/-- Whether what a field holds was read from a sound source, or stands for an absent one. -/
def Arose (sound : Source → Prop) (field : Field Source) (carrier : field.Carrier) : Prop :=
  (∃ source, sound source ∧ field.read source = .ok carrier) ∨ field.absent = some carrier

/-- Whether every field of a record arose. -/
def AllArose (sound : Source → Prop) : (fields : List (Field Source)) → Contents fields → Prop
  | [], _ => True
  | field :: fields, (carrier, contents) => Arose sound field carrier ∧ AllArose sound fields contents

/-- Whether every slot that is taken was read from a sound source. -/
def AllRead (sound : Source → Prop) : (fields : List (Field Source)) → Slots fields → Prop
  | [], _ => True
  | field :: fields, (slot, slots) =>
      (∀ carrier, slot = some carrier → ∃ source, sound source ∧ field.read source = .ok carrier) ∧
        AllRead sound fields slots

theorem allRead_vacant (sound : Source → Prop) (fields : List (Field Source)) :
    AllRead sound fields (vacant fields) := by
  induction fields with
  | nil => trivial
  | cons field fields inductionHypothesis => exact ⟨fun _ taken => absurd taken (Option.some_ne_none _).symm, inductionHypothesis⟩

theorem AllRead.put? {fields : List (Field Source)} {slots filled : Slots fields} {key : String}
    (allRead : AllRead sound fields slots) (soundSource : sound source)
    (puts : Document.put? key source fields slots = some (.ok filled)) : AllRead sound fields filled := by
  induction fields with
  | nil => cases puts
  | cons field fields inductionHypothesis =>
      obtain ⟨slot, slots⟩ := slots
      rw [Document.put?] at puts
      split at puts
      · split at puts
        · cases puts
        · obtain ⟨carrier, reads, rfl⟩ := of_map (Option.some.inj puts)
          refine ⟨?_, allRead.2⟩
          rintro _ ⟨⟩
          exact ⟨source, soundSource, reads⟩
      · split at puts
        · cases puts
        · rename_i outcome later
          obtain ⟨others, rfl, rfl⟩ := of_map (Option.some.inj puts)
          exact ⟨allRead.1, inductionHypothesis allRead.2 later⟩

theorem AllRead.putEach {fields : List (Field Source)} {slots filled : Slots fields}
    {members : List (Option String × Source)} (allRead : AllRead sound fields slots)
    (soundMembers : ∀ member ∈ members, sound member.2)
    (puts : Document.putEach medium fields members slots = .ok filled) : AllRead sound fields filled := by
  induction members generalizing slots with
  | nil =>
      cases puts
      exact allRead
  | cons member rest inductionHypothesis =>
      obtain ⟨here, later⟩ := List.forall_mem_cons.mp soundMembers
      obtain ⟨key | key, source⟩ := member
      -- A key that is no text is refused; one that names no field leaves the slots as they are.
      · cases puts
      · rw [Document.putEach] at puts
        split at puts
        · rename_i next put
          exact inductionHypothesis (allRead.put? here put) later puts
        · cases puts
        · split at puts
          · exact inductionHypothesis allRead later puts
          · cases puts

theorem AllRead.complete {fields : List (Field Source)} {slots : Slots fields} {contents : Contents fields}
    (allRead : AllRead sound fields slots) (completes : Document.complete fields slots = .ok contents) :
    AllArose sound fields contents := by
  induction fields with
  | nil => trivial
  | cons field fields inductionHypothesis =>
      obtain ⟨slot, slots⟩ := slots
      rw [Document.complete] at completes
      split at completes
      · cases completes
      · rename_i carrier holds
        obtain ⟨others, rest, rfl⟩ := of_map completes
        refine ⟨?_, inductionHypothesis allRead.2 rest⟩
        cases slot with
        | none => exact .inr holds
        | some other =>
            cases holds
            exact .inl (allRead.1 carrier rfl)

theorem allArose_of_readPositions {length : String} {closed : Bool} {fields : List (Field Source)}
    {index : Nat} {items : List Source} {contents : Contents fields}
    (soundItems : ∀ item ∈ items, sound item)
    (reads : readPositions medium length closed index fields items = .ok contents) :
    AllArose sound fields contents := by
  induction fields generalizing index items with
  | nil => trivial
  | cons field fields inductionHypothesis =>
      cases items with
      | nil =>
          rw [readPositions] at reads
          split at reads
          · split at reads
            · cases reads
            · rename_i carrier absent
              obtain ⟨others, rest, rfl⟩ := of_map reads
              exact ⟨.inr absent, inductionHypothesis soundItems rest⟩
          · cases reads
      | cons item items =>
          obtain ⟨here, later⟩ := List.forall_mem_cons.mp soundItems
          rw [readPositions] at reads
          split at reads
          · cases reads
          · rename_i carrier first
            obtain ⟨others, rest, rfl⟩ := of_map reads
            exact ⟨.inl ⟨item, here, first⟩, inductionHypothesis later rest⟩

/-- Whichever way a record is given, its fields arose. -/
theorem Honest.of_readRecord (honest : Honest medium sound) (soundSource : sound source) {wanted : String}
    {fields : List (Field Source)} {contents : Contents fields}
    (reads : readRecord medium wanted fields source = .ok contents) : AllArose sound fields contents := by
  unfold readRecord at reads
  split at reads
  · rename_i members closed shape
    split at reads
    · cases reads
    · rename_i slots puts
      split at reads
      · exact ((allRead_vacant sound fields).putEach (honest.members soundSource shape) puts).complete reads
      · cases reads
  · rename_i items closed shape
    exact allArose_of_readPositions (honest.items soundSource shape) reads
  · cases reads

/-! ## Tagged values -/

theorem Honest.of_holdMembers {Kind : Type} {judge : Tag → Except Fault Kind}
    (honest : Honest medium sound) {members : List (Option String × Source)}
    (soundMembers : ∀ member ∈ members, sound member.2) {before after : Option Kind}
    {kept found : List (String × Value)} (soundKept : ∀ member ∈ kept, member.2.Sound)
    (holds : holdMembers medium judge before kept members = .ok (after, found)) :
    ∀ member ∈ found, member.2.Sound := by
  induction members generalizing before kept with
  | nil =>
      cases holds
      exact fun member among => soundKept member (List.mem_reverse.mp among)
  | cons member rest inductionHypothesis =>
      obtain ⟨here, later⟩ := List.forall_mem_cons.mp soundMembers
      obtain ⟨key | key, source⟩ := member
      · cases holds
      · rw [holdMembers] at holds
        split at holds
        · split at holds
          · cases holds
          · split at holds
            · cases holds
            · exact inductionHypothesis later soundKept holds
        · split at holds
          · cases holds
          · rename_i value held
            have soundValue : value.Sound := honest.hold? here held
            exact inductionHypothesis later (List.forall_mem_cons.mpr ⟨soundValue, soundKept⟩) holds

theorem Honest.of_holdItems? (honest : Honest medium sound) {sources : List Source}
    (soundSources : ∀ source ∈ sources, sound source) {values : List Value}
    (holds : holdItems? medium sources = some values) : ∀ value ∈ values, value.Sound := by
  induction sources generalizing values with
  | nil =>
      cases holds
      exact fun _ among => absurd among List.not_mem_nil
  | cons source rest inductionHypothesis =>
      obtain ⟨here, later⟩ := List.forall_mem_cons.mp soundSources
      rw [holdItems?] at holds
      split at holds
      · cases holds
      · rename_i value held
        obtain ⟨others, more, rfl⟩ := Option.map_eq_some_iff.mp holds
        exact List.forall_mem_cons.mpr ⟨honest.hold? here held, inductionHypothesis later more⟩

/-- What stands beside a tag is sound. -/
theorem Honest.of_readTagged {Kind : Type} {judge : Tag → Except Fault Kind}
    (honest : Honest medium sound) (soundSource : sound source) {wanted : String} {kind : Kind}
    {content : Value} (reads : readTagged medium wanted judge source = .ok (kind, content)) :
    content.Sound := by
  unfold readTagged at reads
  split at reads
  · rename_i members closed shape
    split at reads
    · cases reads
    · rename_i found kept holds
      split at reads
      · split at reads
        · cases reads
        · cases reads
          have none : ∀ member ∈ ([] : List (String × Value)), member.2.Sound :=
            fun _ among => absurd among List.not_mem_nil
          exact .object (honest.of_holdMembers (honest.members soundSource shape) none holds)
      · cases reads
  · cases reads
  · rename_i first rest closed shape
    split at reads
    · cases reads
    · split at reads
      · cases reads
      · rename_i items holds
        split at reads
        · cases reads
          obtain ⟨-, later⟩ := List.forall_mem_cons.mp (honest.items soundSource shape)
          exact .array (honest.of_holdItems? later holds)
        · cases reads
  · cases reads

end

end NarrativePlayer.Document
