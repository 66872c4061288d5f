import Mathlib.Data.List.Forall2
import NarrativePlayer.Document.Record
import NarrativePlayer.Document.Writing
import NarrativePlayer.Proofs.Json.Values
import NarrativePlayer.Proofs.Story.Tables

/-!
Contract: values as a medium presents them, and the reading of what they show.

A presentation gives every value a source in a medium. It is faithful if the source of a plain value
shows the value from outside, parts and all, and gives it back whole where it is to be held back. The
draft of a value is faithful to it in the medium of a text, and a held value is faithful to itself. Owns
what it is for a value to write a thing down, and the writing of single values, lists and tables.
-/

namespace NarrativePlayer.Document

open NarrativePlayer.Decimal NarrativePlayer.Json

/-- The outside of a value whose parts are presented. -/
def shownAs {Source : Type} (present : Value → Source) : Value → Shape Source
  | .null => .scalar .null
  | .bool value => .scalar (.bool value)
  | .number value => .scalar (.number value)
  | .string value => .scalar (.string value)
  | .array items => .sequence (items.map present) true
  | .object members => .map (members.map fun member => (some member.1, present member.2)) true

/-- The nesting that held values may have in a text. -/
def heldRoom : Nat := nestingLimit - taggedDepth

structure Faithful {Source : Type} (medium : Medium Source) (present : Value → Source) : Prop where
  shape : ∀ {room value}, value.Plain room → medium.shape (present value) = shownAs present value
  hold? : ∀ {value}, value.Plain heldRoom → medium.hold? (present value) = some value

theorem faithful_text : Faithful Medium.text Value.draft where
  shape plain := by
    cases plain with
    | null => rfl
    | bool => rfl
    | string => rfl
    | natural _ bounded =>
        rename_i number
        show draftShape (.numeral (numeralOf number)) = _
        rw [draftShape, number?_numeralOf bounded]
        rfl
    | array =>
        rename_i items plain
        show Shape.sequence (itemDrafts items) true = _
        rw [itemDrafts_eq]
        rfl
    | object =>
        rename_i members plain
        show Shape.map (memberDrafts members) true = _
        rw [memberDrafts_eq]
        rfl
  hold? plain := plain.value?_draft

theorem faithful_heldBack : Faithful Medium.heldBack id where
  shape plain := by
    cases plain with
    | array =>
        rename_i items plain
        show Shape.sequence items true = .sequence (items.map id) true
        rw [List.map_id]
    | _ => rfl
  hold? _ := rfl

/-- Whether a value writes a thing down: it is plain, and read as the thing wherever it is presented. -/
structure Writes {Source Carrier : Type} (room : Nat) (present : Value → Source)
    (read : Source → Except Fault Carrier) (value : Value) (carrier : Carrier) : Prop where
  plain : value.Plain room
  reads : read (present value) = .ok carrier

section

variable {Source Carrier : Type} {medium : Medium Source} {present : Value → Source} {room : Nat}

/-! ## Single values -/

theorem Faithful.text (faithful : Faithful medium present) (text : String) :
    Writes room present (readText medium) (.string text) text := by
  have plain : (Value.string text).Plain room := .string room text
  refine ⟨plain, ?_⟩
  unfold readText
  rw [faithful.shape plain]
  rfl

theorem Faithful.flag (faithful : Faithful medium present) (flag : Bool) :
    Writes room present (readFlag medium) (.bool flag) flag := by
  have plain : (Value.bool flag).Plain room := .bool room flag
  refine ⟨plain, ?_⟩
  unfold readFlag
  rw [faithful.shape plain]
  rfl

theorem Faithful.count (faithful : Faithful medium present) {wanted : String} {number : Nat}
    (bounded : number < wordBound) :
    Writes room present (readCount medium wanted) (.natural number) number := by
  have plain : (Value.natural number).Plain room := .natural room bounded
  refine ⟨plain, ?_⟩
  unfold readCount
  rw [faithful.shape plain]
  show (if 0 ≤ (number : Int) then Except.ok (number : Int).toNat else _) = _
  rw [if_pos (Int.natCast_nonneg number), Int.toNat_natCast]

theorem Faithful.pause (faithful : Faithful medium present) {delay : Nat} (bounded : delay < wordBound)
    (same : Document.pause (.integer (delay : Int)) = delay) :
    Writes room present (readPause medium) (.natural delay) delay := by
  have plain : (Value.natural delay).Plain room := .natural room bounded
  refine ⟨plain, ?_⟩
  unfold readPause
  rw [faithful.shape plain]
  exact congrArg Except.ok same

theorem Faithful.name (faithful : Faithful medium present) {known : List (String × Carrier)}
    {name : String} {carrier : Carrier} (isKnown : ofName known name = .ok carrier) :
    Writes room present (readName medium known) (.string name) carrier := by
  have plain : (Value.string name).Plain room := .string room name
  refine ⟨plain, ?_⟩
  unfold readName
  rw [faithful.shape plain]
  exact isKnown

theorem Faithful.optional (faithful : Faithful medium present) {read : Source → Except Fault Carrier}
    {value : Value} {carrier : Carrier} (notNull : value ≠ .null)
    (writes : Writes room present read value carrier) :
    Writes room present (readOptional medium read) value (some carrier) := by
  refine ⟨writes.plain, ?_⟩
  unfold readOptional
  rw [faithful.shape writes.plain, writes.reads]
  cases value with
  | null => exact absurd rfl notNull
  | _ => rfl

/-! ## Lists and tables -/

theorem readEach_of_forall₂ {read : Source → Except Fault Carrier} {values : List Value}
    {carriers : List Carrier} (each : List.Forall₂ (Writes room present read) values carriers) :
    readEach read (values.map present) = .ok carriers := by
  induction each with
  | nil => rfl
  | cons writes _ inductionHypothesis =>
      rw [List.map_cons, readEach, writes.reads, inductionHypothesis]
      rfl

theorem plain_of_forall₂ {read : Source → Except Fault Carrier} {values : List Value}
    {carriers : List Carrier} (each : List.Forall₂ (Writes room present read) values carriers) :
    ∀ value ∈ values, value.Plain room := by
  induction each with
  | nil => exact fun _ among => absurd among List.not_mem_nil
  | cons writes _ inductionHypothesis =>
      exact List.forall_mem_cons.mpr ⟨writes.plain, inductionHypothesis⟩

theorem Faithful.list (faithful : Faithful medium present) {read : Source → Except Fault Carrier}
    {values : List Value} {carriers : List Carrier}
    (each : List.Forall₂ (Writes room present read) values carriers) :
    Writes (room + 1) present (readList medium read) (.array values) carriers := by
  have plain : (Value.array values).Plain (room + 1) := .array (plain_of_forall₂ each)
  refine ⟨plain, ?_⟩
  unfold readList
  rw [faithful.shape plain]
  simp only [shownAs, readEach_of_forall₂ each, if_true]

/-- The items of a list may be written one by one. -/
theorem Faithful.each (faithful : Faithful medium present) {read : Source → Except Fault Carrier}
    {write : Carrier → Value} {carriers : List Carrier}
    (writes : ∀ carrier ∈ carriers, Writes room present read (write carrier) carrier) :
    Writes (room + 1) present (readList medium read) (.array (carriers.map write)) carriers := by
  refine faithful.list (List.forall₂_map_left_iff.mpr ?_)
  exact List.forall₂_same.mpr writes

theorem Faithful.readEntries (faithful : Faithful medium present) (entries : List (String × String)) :
    readEntries medium (entries.map fun entry => (some entry.1, present (.string entry.2))) =
      .ok entries := by
  induction entries with
  | nil => rfl
  | cons entry rest inductionHypothesis =>
      have first : Writes 0 present (readText medium) (.string entry.2) entry.2 := faithful.text entry.2
      rw [List.map_cons, Document.readEntries, first.reads, inductionHypothesis]
      rfl

/-- A table is written by its entries in any order. -/
theorem Faithful.table (faithful : Faithful medium present) {table : Table}
    {entries : List (String × String)} (perm : entries.Perm table.entries) :
    Writes (room + 1) present (readTable medium) (writeEntries entries) table := by
  have plain : (writeEntries entries).Plain (room + 1) := by
    refine .object fun member among => ?_
    obtain ⟨entry, -, rfl⟩ := List.mem_map.mp among
    exact .string room entry.2
  have members : (entries.map fun entry => (entry.1, Value.string entry.2)).map
      (fun member => (some member.1, present member.2)) =
        entries.map fun entry => (some entry.1, present (.string entry.2)) := by
    rw [List.map_map]
    rfl
  refine ⟨plain, ?_⟩
  unfold readTable
  rw [faithful.shape plain]
  simp only [writeEntries, shownAs, members, faithful.readEntries, if_true, Table.ofList_of_perm perm]

end

end NarrativePlayer.Document
