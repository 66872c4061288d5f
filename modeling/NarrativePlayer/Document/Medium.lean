import NarrativePlayer.Document.Fault
import NarrativePlayer.Json.Draft
import NarrativePlayer.Table

/-!
Contract: the media that documents are read from, and the reading of single values.

There are three. A story's text is read as it comes, so that the first problem in reading order is the
one reported. What carries a `type` tag is held back as a whole value and read from there once its tag
is known. A request hands over a value from the start. The media differ in what they make of a value
that was cut short, of items past the last field, and of two liberties that only held values allow: a
tag may be a number, and an empty map may stand for no payload.
-/

namespace NarrativePlayer.Document

open NarrativePlayer.Decimal NarrativePlayer.Json

/-- A value without parts. -/
inductive Scalar where
  | null
  | bool (value : Bool)
  | number (value : Number)
  | string (value : String)
deriving DecidableEq, Repr

/-- A value seen from outside. A sequence or map that is not closed was cut short behind the parts
that are given. A key without text had unpaired surrogates. -/
inductive Shape (Source : Type) where
  | broken
  | scalar (value : Scalar)
  | sequence (items : List Source) (closed : Bool)
  | map (members : List (Option String × Source)) (closed : Bool)

/-- How a scalar is spoken of where it was not wanted. -/
def Scalar.found : Scalar → Found
  | .null => .null
  | .bool value => .bool value
  | .number (.integer value) => .integer value
  | .number (.double negative magnitude) => .double negative magnitude
  | .string value => .string value

def Shape.unwanted {Source : Type} (shape : Shape Source) (wanted : String) : Fault :=
  match shape with
  | .broken => .malformed
  | .scalar value => .wrongType value.found wanted
  | .sequence _ _ => .wrongType .sequence wanted
  | .map _ _ => .wrongType .map wanted

/-- What values are read from. -/
structure Medium (Source : Type) where
  shape : Source → Shape Source
  /-- Whether a value nobody asked for may stand. -/
  passes : Source → Bool
  /-- The value as a whole, if it can be held back. -/
  hold? : Source → Option Value
  /-- What is said of more items than fields, by the number of either. -/
  surplus : Nat → Nat → Fault
  /-- Whether the values were held back. -/
  held : Bool

def draftShape : Draft → Shape Draft
  | .broken => .broken
  | .null => .scalar .null
  | .bool value => .scalar (.bool value)
  | .numeral value =>
      match value.number? with
      | some number => .scalar (.number number)
      | none => .broken
  | .string (some value) => .scalar (.string value)
  | .string none => .broken
  | .array items closed => .sequence items closed
  | .object members closed => .map members closed

def valueShape : Value → Shape Value
  | .null => .scalar .null
  | .bool value => .scalar (.bool value)
  | .number value => .scalar (.number value)
  | .string value => .scalar (.string value)
  | .array items => .sequence items true
  | .object members => .map (members.map fun member => (some member.1, member.2)) true

/-- The depth at which the text of a story holds things with a tag, those included. -/
def taggedDepth : Nat := 3

/-- A text that is read as it comes. Only the grammar is asked of values that nobody wants. -/
def Medium.text : Medium Draft where
  shape := draftShape
  passes := Draft.isWhole
  hold? := Draft.value? (nestingLimit - taggedDepth)
  surplus := fun _ _ => .malformed
  held := false

/-- A value that was held back. -/
def Medium.heldBack : Medium Value where
  shape := valueShape
  passes := fun _ => true
  hold? := some
  surplus := fun length expected => .wrongLength length (elements expected ++ " in sequence")
  held := true

/-- A value handed over in a request. -/
def Medium.request : Medium Value where
  shape := valueShape
  passes := fun _ => true
  hold? := some
  surplus := fun length _ => .wrongLength length "fewer elements in array"
  held := false

section Readers

variable {Source Carrier : Type} (medium : Medium Source)

def readText (source : Source) : Except Fault String :=
  match medium.shape source with
  | .scalar (.string value) => .ok value
  | other => .error (other.unwanted "a string")

def readFlag (source : Source) : Except Fault Bool :=
  match medium.shape source with
  | .scalar (.bool value) => .ok value
  | other => .error (other.unwanted "a boolean")

/-- Reads a natural number below 2^64. -/
def readCount (wanted : String) (source : Source) : Except Fault Nat :=
  match medium.shape source with
  | .scalar (.number (.integer value)) =>
      if 0 ≤ value then .ok value.toNat else .error (.wrongValue (.integer value) wanted)
  | other => .error (other.unwanted wanted)

/-- The greatest number of 64 bits. -/
def greatestWord : Nat := wordBound - 1

/-- The pause that a number asks for, in whole milliseconds: none unless the number is positive, and
otherwise the number rounded up, as far as 64 bits reach. -/
def pause : Number → Nat
  | .integer value => if value ≤ 0 then 0 else min (Double.ofNat value.toNat).ceiling greatestWord
  | .double negative magnitude => if negative then 0 else min magnitude.ceiling greatestWord

def readPause (source : Source) : Except Fault Nat :=
  match medium.shape source with
  | .scalar (.number value) => .ok (pause value)
  | other => .error (other.unwanted "f64")

def readOptional (read : Source → Except Fault Carrier) (source : Source) :
    Except Fault (Option Carrier) :=
  match medium.shape source with
  | .scalar .null => .ok none
  | _ => (read source).map some

/-- Reads one value after the other. -/
def readEach (read : Source → Except Fault Carrier) : List Source → Except Fault (List Carrier)
  | [] => .ok []
  | source :: rest =>
      match read source with
      | .error fault => .error fault
      | .ok value => (readEach read rest).map (value :: ·)

def readList (read : Source → Except Fault Carrier) (source : Source) :
    Except Fault (List Carrier) :=
  match medium.shape source with
  | .sequence items closed =>
      match readEach read items with
      | .error fault => .error fault
      | .ok values => if closed then .ok values else .error .malformed
  | other => .error (other.unwanted "a sequence")

def readEntries : List (Option String × Source) → Except Fault (List (String × String))
  | [] => .ok []
  | (none, _) :: _ => .error .malformed
  | (some key, source) :: rest =>
      match readText medium source with
      | .error fault => .error fault
      | .ok value => (readEntries rest).map ((key, value) :: ·)

/-- Reads a table. Of entries with one key the last counts. -/
def readTable (source : Source) : Except Fault Table :=
  match medium.shape source with
  | .map members closed =>
      match readEntries medium members with
      | .error fault => .error fault
      | .ok entries => if closed then .ok (Table.ofList entries) else .error .malformed
  | other => .error (other.unwanted "a map")

/-- The carrier of one of some names. -/
def ofName (known : List (String × Carrier)) (name : String) : Except Fault Carrier :=
  match known.find? fun entry => entry.1 = name with
  | some (_, value) => .ok value
  | none => .error (.unknownName name (known.map Prod.fst))

/-- Reads one of some names. A name may also be the only key of a map without payload. -/
def readName (known : List (String × Carrier)) (source : Source) : Except Fault Carrier :=
  match medium.shape source with
  | .scalar (.string name) => ofName known name
  | .map [(some name, payload)] true =>
      match ofName known name with
      | .error fault => .error fault
      | .ok value =>
          match medium.shape payload with
          | .scalar .null => .ok value
          | .map [] true => if medium.held then .ok value else .error (.wrongType .map "unit")
          | other => .error (other.unwanted "unit")
  | .map _ true => .error (.wrongValue .map "map with a single key")
  | .map _ false => .error .malformed
  | other => .error (other.unwanted "string or map")

end Readers

end NarrativePlayer.Document
