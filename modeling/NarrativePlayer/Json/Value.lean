import NarrativePlayer.Decimal.Numeral
import NarrativePlayer.Decimal.Shortest

/-!
Contract: JSON values and their compact text.

Members keep the order and the repetitions of the text they came from; what a repetition means is for
the reader of the value to say. Owns the escapes of written strings. Does not own reading.
-/

namespace NarrativePlayer.Json

open NarrativePlayer.Decimal

/-- A JSON value. -/
inductive Value where
  | null
  | bool (value : Bool)
  | number (value : Number)
  | string (value : String)
  | array (items : List Value)
  | object (members : List (String × Value))
deriving Repr, Inhabited

def Value.natural (number : Nat) : Value :=
  .number (.integer (number : Int))

/-- One hexadecimal digit in lower case. -/
def hexDigit (digit : Nat) : Char :=
  Nat.digitChar (digit % 16)

/-- One character as it stands in a written string. -/
def escaped (character : Char) : List Char :=
  if character = '"' then ['\\', '"']
  else if character = '\\' then ['\\', '\\']
  else if character = '\n' then ['\\', 'n']
  else if character = '\r' then ['\\', 'r']
  else if character = '\t' then ['\\', 't']
  else if character.toNat = 8 then ['\\', 'b']
  else if character.toNat = 12 then ['\\', 'f']
  else if character.toNat < 32 then
    ['\\', 'u', '0', '0', hexDigit (character.toNat / 16), hexDigit character.toNat]
  else [character]

/-- A string between its quotes. -/
def renderString (text : String) : List Char :=
  '"' :: (text.toList.flatMap escaped ++ ['"'])

/-- The text of a number. -/
def renderNumber : Number → List Char
  | .integer value => (toString value).toList
  | .double negative magnitude => (magnitude.text negative).toList

mutual

/-- The compact text of a value. -/
def Value.render : Value → List Char
  | .null => ['n', 'u', 'l', 'l']
  | .bool true => ['t', 'r', 'u', 'e']
  | .bool false => ['f', 'a', 'l', 's', 'e']
  | .number value => renderNumber value
  | .string value => renderString value
  | .array items => '[' :: renderItems items
  | .object members => '\x7b' :: renderMembers members

/-- The items of an array with the commas between them, and its end. -/
def renderItems : List Value → List Char
  | [] => [']']
  | [item] => item.render ++ [']']
  | item :: next :: rest => item.render ++ ',' :: renderItems (next :: rest)

/-- The members of an object with the commas between them, and its end. -/
def renderMembers : List (String × Value) → List Char
  | [] => ['\x7d']
  | [(key, value)] => renderString key ++ ':' :: (value.render ++ ['\x7d'])
  | (key, value) :: next :: rest =>
      renderString key ++ ':' :: (value.render ++ ',' :: renderMembers (next :: rest))

end

/-- The compact text of a value. -/
def Value.text (value : Value) : String :=
  String.ofList value.render

end NarrativePlayer.Json
