import Mathlib.Data.List.Forall2
import NarrativePlayer.Document.Parts

/-!
Contract: what does not matter in a document.

The members of an object may stand in any order, and an object that stands for a record may have members
more than the record declares. Which names are declared depends on where the object stands and, where there
is a tag, on the tag. Owns the forms of all parts of a story, what it is for one value to be a rearrangement
of another in a form, and that a rearrangement shows what the first value shows where that has no parts.
Does not own that rearrangements are read alike.
-/

namespace NarrativePlayer.Document

open NarrativePlayer.Json

/-! ## Forms -/

/-- What a value of a document stands for, as far as names go. -/
inductive Form where
  /-- No record. Nothing may be added. -/
  | free
  | list (item : Form)
  /-- A record of so many fields, in the order in which they are declared. -/
  | record (fields : List (String × Form))
  /-- A record with a tag, which has the fields that the tag stands for besides. -/
  | tagged (fieldsOf : Tag → List (String × Form))

namespace Form

def isTagged : Form → Bool
  | .tagged _ => true
  | _ => false

/-- The form of the item at an index: a record can be given by position. -/
def item : Form → Nat → Form
  | .list item, _ => item
  | .record fields, index => (fields[index]?.map Prod.snd).getD .free
  | _, _ => .free

/-- The form of the member of a name. -/
def member : Form → Option String → Form
  | .record fields, some name => ((fields.find? fun field => field.1 = name).map Prod.snd).getD .free
  | _, _ => .free

/-- Whether a member of a name may be added: it is a record that does not declare the name. -/
def AdmitsName : Form → String → Prop
  | .record fields, name => name ∉ fields.map Prod.fst
  | _, _ => False

end Form

/-- The fields of an action: those of the kind that is known, or none. -/
def actionFieldsOf (known : Bool) : List (String × Form) :=
  if known then [("var", .free), ("value", .free), ("from", .free)] else []

def actionFields (tag : Tag) : List (String × Form) :=
  actionFieldsOf (tag.isOnly "set")

def guardFieldsOf (known : Bool) : List (String × Form) :=
  if known then [("value", .free)] else []

def guardFields (tag : Tag) : List (String × Form) :=
  guardFieldsOf (tag.isOnly "minLength")

def lineFields : List (String × Form) :=
  [("text", .free), ("delay", .free), ("instant", .free), ("speed", .free)]

def answerFieldFields : List (String × Form) :=
  [("id", .free), ("label", .free), ("placeholder", .free), ("minLength", .free), ("maxLength", .free),
    ("trim", .free)]

def transitionFields : List (String × Form) :=
  [("event", .free), ("guards", .list (.tagged guardFields)), ("actions", .list (.tagged actionFields)),
    ("to", .free)]

def offerFields : List (String × Form) :=
  [("id", .free), ("label", .free), ("actions", .list (.tagged actionFields)), ("to", .free)]

def sequenceFields : List (String × Form) :=
  [("id", .free), ("lines", .list (.record lineFields)), ("actions", .list (.tagged actionFields)),
    ("next", .free), ("await", .free), ("on", .free), ("terminal", .free)]

def questionFields : List (String × Form) :=
  [("id", .free), ("input", .record answerFieldFields), ("transitions", .list (.record transitionFields))]

def choiceFields : List (String × Form) :=
  [("id", .free), ("prompt", .free), ("choices", .list (.record offerFields))]

def sceneFieldsOf : SceneKind → List (String × Form)
  | .sequence => sequenceFields
  | .question => questionFields
  | .choice => choiceFields

def sceneFields (tag : Tag) : List (String × Form) :=
  match sceneKind tag with
  | .ok kind => sceneFieldsOf kind
  | .error _ => []

def contextFields : List (String × Form) :=
  [("vars", .free)]

def storyFields : List (String × Form) :=
  [("id", .free), ("version", .free), ("context", .record contextFields), ("start", .free),
    ("states", .list (.tagged sceneFields))]

/-! ## Rearrangements -/

def Scalar.tag? : Scalar → Option Tag
  | .string name => some (.named name)
  | .number (.integer value) => if 0 ≤ value then some (.counted value.toNat) else none
  | _ => none

/-- The tag that a value amounts to. -/
def Shape.tag? {Source : Type} : Shape Source → Option Tag
  | .scalar value => value.tag?
  | _ => none

/-- Whether a value has a tag: in its member of that name, wherever it stands, or as its first item. -/
def HasTag {Source : Type} (medium : Medium Source) (source : Source) (tag : Tag) : Prop :=
  match medium.shape source with
  | .map members _ => ∃ value, (some tagKey, value) ∈ members ∧ (medium.shape value).tag? = some tag
  | .sequence (first :: _) _ => (medium.shape first).tag? = some tag
  | _ => False

/-- Whether one value of a form is a rearrangement of another: the members of objects in which no key is
repeated stand in some other order, records have members more of names that they do not declare, and this
may be so in all parts at once. `admits` says which values may be added where so many containers may still
be opened in each other. -/
inductive Rearranged {Source : Type} (medium : Medium Source) (admits : Nat → Source → Prop) :
    Nat → Form → Source → Source → Prop
  | same (room : Nat) (form : Form) (source : Source) : Rearranged medium admits room form source source
  | items {room : Nat} {form : Form} {source other : Source} (pairs : List (Source × Source))
      (untagged : form.isTagged = false)
      (before : medium.shape source = .sequence (pairs.map Prod.fst) true)
      (after : medium.shape other = .sequence (pairs.map Prod.snd) true)
      (parts : ∀ index pair, pairs[index]? = some pair →
        Rearranged medium admits (room - 1) (form.item index) pair.1 pair.2) :
      Rearranged medium admits room form source other
  | members {room : Nat} {form : Form} {source other : Source}
      (kept : List (Option String × Source × Source)) (added members : List (Option String × Source))
      (untagged : form.isTagged = false)
      (before : medium.shape source = .map (kept.map fun entry => (entry.1, entry.2.1)) true)
      (after : medium.shape other = .map members true)
      (distinct : (kept.filterMap Prod.fst).Nodup)
      (order : members.Perm (kept.map (fun entry => (entry.1, entry.2.2)) ++ added))
      (parts : ∀ entry ∈ kept,
        Rearranged medium admits (room - 1) (form.member entry.1) entry.2.1 entry.2.2)
      (strange : ∀ entry ∈ added, ∃ name, entry.1 = some name ∧ form.AdmitsName name ∧
        admits (room - 1) entry.2) :
      Rearranged medium admits room form source other
  | tagged {room : Nat} {fieldsOf : Tag → List (String × Form)} {source other : Source} (tag : Tag)
      (hasTag : HasTag medium source tag)
      (asRecord : Rearranged medium admits room (.record ((tagKey, .free) :: fieldsOf tag)) source other) :
      Rearranged medium admits room (.tagged fieldsOf) source other

/-- Whether a draft is of a well-formed value: it is whole, its numbers are in range, its strings are text,
and it opens at most `room` containers in each other. -/
def WellFormed (room : Nat) (draft : Draft) : Prop :=
  ∃ value, draft.value? room = some value

/-- Whether one document is a rearrangement of another. -/
def RearrangedStory (draft other : Draft) : Prop :=
  Rearranged Medium.text WellFormed nestingLimit (.record storyFields) draft other

/-! ## The outside of a rearrangement -/

section

variable {Source : Type} {medium : Medium Source} {admits : Nat → Source → Prop} {room : Nat} {form : Form}
  {source other : Source}

theorem not_hasTag_of_scalar {scalar : Scalar} (shape : medium.shape source = .scalar scalar) (tag : Tag) :
    ¬ HasTag medium source tag := by
  simp [HasTag, shape]

/-- What has no parts cannot be rearranged. -/
theorem Rearranged.eq_of_scalar {scalar : Scalar}
    (rearranged : Rearranged medium admits room form source other)
    (shape : medium.shape source = .scalar scalar) : other = source := by
  cases rearranged with
  | same => rfl
  | items pairs untagged before => cases before.symm.trans shape
  | members kept added members untagged before => cases before.symm.trans shape
  | tagged tag hasTag => exact absurd hasTag (not_hasTag_of_scalar shape _)

/-- What is rearranged has parts. -/
theorem Rearranged.eq_or_not_scalar (rearranged : Rearranged medium admits room form source other) :
    other = source ∨ ∀ scalar, medium.shape other ≠ .scalar scalar := by
  induction rearranged with
  | same => exact .inl rfl
  | items pairs untagged before after =>
      right
      intro scalar shape
      cases after.symm.trans shape
  | members kept added members untagged before after =>
      right
      intro scalar shape
      cases after.symm.trans shape
  | tagged tag hasTag asRecord inductionHypothesis => exact inductionHypothesis

end

end NarrativePlayer.Document
