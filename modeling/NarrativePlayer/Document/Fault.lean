import NarrativePlayer.Decimal.Numeral
import NarrativePlayer.Decimal.Shortest
import NarrativePlayer.Text.Quoted

/-!
Contract: the reasons for which a document is not what it should be, with their wording.

A reason names what was found and what was wanted, never a place. Faults of the JSON grammar itself
are not told apart.
-/

namespace NarrativePlayer.Document

open NarrativePlayer.Decimal

/-- What was found where something else was wanted. -/
inductive Found where
  | null
  | bool (value : Bool)
  | integer (value : Int)
  | double (negative : Bool) (magnitude : Double)
  | string (value : String)
  | sequence
  | map
deriving DecidableEq, Repr

/-- How a finding is spoken of. -/
def Found.text : Found → String
  | .null => "null"
  | .bool true => "boolean `true`"
  | .bool false => "boolean `false`"
  | .integer value => s!"integer `{value}`"
  | .double negative magnitude => s!"floating point `{magnitude.text negative}`"
  | .string value => "string " ++ Text.quoted value
  | .sequence => "sequence"
  | .map => "map"

/-- Why a document cannot be read. -/
inductive Fault where
  /-- The text is not JSON, or ends early. -/
  | malformed
  | wrongType (found : Found) (wanted : String)
  | wrongValue (found : Found) (wanted : String)
  | missing (field : String)
  | duplicate (field : String)
  | unknownName (name : String) (known : List String)
  | wrongLength (length : Nat) (wanted : String)
deriving DecidableEq, Repr

/-- The names that would have done, as they are listed. -/
def listed : List String → String
  | [] => "there are no variants"
  | [only] => s!"expected `{only}`"
  | [first, second] => s!"expected `{first}` or `{second}`"
  | several => "expected one of " ++ ", ".intercalate (several.map fun name => s!"`{name}`")

def Fault.message : Fault → String
  | .malformed => "malformed text"
  | .wrongType found wanted => s!"invalid type: {found.text}, expected {wanted}"
  | .wrongValue found wanted => s!"invalid value: {found.text}, expected {wanted}"
  | .missing field => s!"missing field `{field}`"
  | .duplicate field => s!"duplicate field `{field}`"
  | .unknownName name known => s!"unknown variant `{name}`, {listed known}"
  | .wrongLength length wanted => s!"invalid length {length}, expected {wanted}"

/-- A number of elements, as faults speak of it. -/
def elements (count : Nat) : String :=
  if count = 1 then "1 element" else s!"{count} elements"

end NarrativePlayer.Document
