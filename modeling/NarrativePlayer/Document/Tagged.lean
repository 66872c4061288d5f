import NarrativePlayer.Document.Record

/-!
Contract: values with a `type` tag.

The tag of a map may stand anywhere in it, and what stands beside it cannot be understood before the
tag is known; so all else is held back as whole values. In a sequence the tag comes first. Owns finding
and judging the tag; what the held values mean is for the document's parts to say.
-/

namespace NarrativePlayer.Document

open NarrativePlayer.Json

variable {Source Kind : Type}

def tagKey : String := "type"

/-- A tag, before it is known what it stands for. -/
inductive Tag where
  | named (name : String)
  /-- The position of a name among those that are known. -/
  | counted (position : Nat)
deriving DecidableEq, Repr

def readTag (medium : Medium Source) (source : Source) : Except Fault Tag :=
  match medium.shape source with
  | .scalar (.string name) => .ok (.named name)
  | .scalar (.number (.integer value)) =>
      if medium.held ∧ 0 ≤ value then .ok (.counted value.toNat)
      else .error (.wrongType (.integer value) "variant identifier")
  | other => .error (other.unwanted "variant identifier")

/-- Whether a tag is the only name that is known. -/
def Tag.isOnly (name : String) (tag : Tag) : Bool :=
  match tag with
  | .named given => given = name
  | .counted position => position = 0

def readKind (medium : Medium Source) (judge : Tag → Except Fault Kind) (source : Source) :
    Except Fault Kind :=
  match readTag medium source with
  | .error fault => .error fault
  | .ok tag => judge tag

/-- Goes through the members of a tagged map: the kind its tag gives it, and the members beside the
tag, held back. `kept` are those before, latest first. -/
def holdMembers (medium : Medium Source) (judge : Tag → Except Fault Kind) (kind : Option Kind)
    (kept : List (String × Value)) :
    List (Option String × Source) → Except Fault (Option Kind × List (String × Value))
  | [] => .ok (kind, kept.reverse)
  | (none, _) :: _ => .error .malformed
  | (some key, source) :: rest =>
      if key = tagKey then
        if kind.isSome then .error (.duplicate tagKey)
        else
          match readKind medium judge source with
          | .error fault => .error fault
          | .ok given => holdMembers medium judge (some given) kept rest
      else
        match medium.hold? source with
        | none => .error .malformed
        | some value => holdMembers medium judge kind ((key, value) :: kept) rest

/-- The items of a sequence, held back. -/
def holdItems? (medium : Medium Source) : List Source → Option (List Value)
  | [] => some []
  | source :: rest =>
      match medium.hold? source with
      | none => none
      | some value => (holdItems? medium rest).map (value :: ·)

/-- Reads a tagged value: its kind, and what stands beside the tag. -/
def readTagged (medium : Medium Source) (wanted : String) (judge : Tag → Except Fault Kind)
    (source : Source) : Except Fault (Kind × Value) :=
  match medium.shape source with
  | .map members closed =>
      match holdMembers medium judge none [] members with
      | .error fault => .error fault
      | .ok (kind, kept) =>
          if closed then
            match kind with
            | none => .error (.missing tagKey)
            | some kind => .ok (kind, .object kept)
          else .error .malformed
  | .sequence [] closed => .error (if closed then .missing tagKey else .malformed)
  | .sequence (first :: rest) closed =>
      match readKind medium judge first with
      | .error fault => .error fault
      | .ok kind =>
          match holdItems? medium rest with
          | none => .error .malformed
          | some items => if closed then .ok (kind, .array items) else .error .malformed
  | other => .error (other.unwanted wanted)

end NarrativePlayer.Document
