import NarrativePlayer.Document.Medium

/-!
Contract: records, their fields in declaration order, and their reading by name or by position.

A record is read from a map whose members are looked at one after the other, or from a sequence that
gives the fields by position. Owns the rules on repeated, unknown and absent fields; which records
there are is for the document's parts to say.
-/

namespace NarrativePlayer.Document

variable {Source : Type}

structure Field (Source : Type) where
  name : String
  Carrier : Type
  read : Source → Except Fault Carrier
  /-- What the field holds where it is absent, if it may be. -/
  absent : Option Carrier

def Field.required {Carrier : Type} (name : String) (read : Source → Except Fault Carrier) :
    Field Source :=
  ⟨name, Carrier, read, none⟩

/-- A field that stands for a default where it is absent. -/
def Field.defaulted {Carrier : Type} (name : String) (read : Source → Except Fault Carrier)
    (default : Carrier) : Field Source :=
  ⟨name, Carrier, read, some default⟩

/-- Room for the values of fields, as far as they have come. -/
def Slots : List (Field Source) → Type
  | [] => Unit
  | field :: fields => Option field.Carrier × Slots fields

def Contents : List (Field Source) → Type
  | [] => Unit
  | field :: fields => field.Carrier × Contents fields

/-- Room without any value. -/
def vacant : (fields : List (Field Source)) → Slots fields
  | [] => ()
  | _ :: fields => (none, vacant fields)

/-- Reads a member into its slot, unless the slot is taken; nothing if no field has that name. -/
def put? (key : String) (source : Source) :
    (fields : List (Field Source)) → Slots fields → Option (Except Fault (Slots fields))
  | [], _ => none
  | field :: fields, (slot, slots) =>
      if field.name = key then
        if slot.isSome then some (.error (.duplicate key))
        else some ((field.read source).map fun value => (some value, slots))
      else
        match put? key source fields slots with
        | none => none
        | some outcome => some (outcome.map fun filled => (slot, filled))

/-- Reads members into their slots, one after the other. -/
def putEach (medium : Medium Source) (fields : List (Field Source)) :
    List (Option String × Source) → Slots fields → Except Fault (Slots fields)
  | [], slots => .ok slots
  | (none, _) :: _, _ => .error .malformed
  | (some key, source) :: rest, slots =>
      match put? key source fields slots with
      | some (.ok filled) => putEach medium fields rest filled
      | some (.error fault) => .error fault
      | none => if medium.passes source then putEach medium fields rest slots else .error .malformed

/-- The values of all fields, or the first field in declaration order that has none. -/
def complete : (fields : List (Field Source)) → Slots fields → Except Fault (Contents fields)
  | [], _ => .ok ()
  | field :: fields, (slot, slots) =>
      match slot <|> field.absent with
      | none => .error (.missing field.name)
      | some value => (complete fields slots).map fun values => (value, values)

/-- Reads fields by position, after `index` others. -/
def readPositions (medium : Medium Source) (length : String) (closed : Bool) (index : Nat) :
    (fields : List (Field Source)) → List Source → Except Fault (Contents fields)
  | [], [] => if closed then .ok () else .error .malformed
  | [], items => .error (medium.surplus (index + items.length) index)
  | field :: fields, [] =>
      if closed then
        match field.absent with
        | none => .error (.wrongLength index length)
        | some value =>
            (readPositions medium length closed (index + 1) fields []).map fun values => (value, values)
      else .error .malformed
  | field :: fields, source :: rest =>
      match field.read source with
      | .error fault => .error fault
      | .ok value =>
          (readPositions medium length closed (index + 1) fields rest).map fun values =>
            (value, values)

def readRecord (medium : Medium Source) (wanted : String) (fields : List (Field Source))
    (source : Source) : Except Fault (Contents fields) :=
  match medium.shape source with
  | .map members closed =>
      match putEach medium fields members (vacant fields) with
      | .error fault => .error fault
      | .ok slots => if closed then complete fields slots else .error .malformed
  | .sequence items closed =>
      readPositions medium (wanted ++ " with " ++ elements fields.length) closed 0 fields items
  | other => .error (other.unwanted wanted)

end NarrativePlayer.Document
