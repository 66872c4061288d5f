import NarrativePlayer.Json.Value

/-!
Contract: what a text holds of a JSON value, as far as it can be read.

A text is read once, from the left, up to the first place where it breaks the grammar. A draft is the
tree read until then: an array or object that was not finished says so, and a value that could not be
read at all is `broken`. Two rules of strict JSON are left to whoever needs the value itself: escaped
surrogates must be paired, and a number must not be past the greatest double. `value?` applies both,
together with a limit on nesting; `isWhole` asks for the grammar alone.
-/

namespace NarrativePlayer.Json

open NarrativePlayer.Decimal

/-- What could be read of a value. A string with unpaired surrogates is `none`. -/
inductive Draft where
  | broken
  | null
  | bool (value : Bool)
  | numeral (value : Numeral)
  | string (value : Option String)
  | array (items : List Draft) (closed : Bool)
  | object (members : List (Option String × Draft)) (closed : Bool)
deriving Repr, Inhabited

/-! ### Strings -/

/-- A piece of a string: a character, or one escaped 16-bit unit. -/
inductive Scrap where
  | character (value : Char)
  | unit (value : Nat)
deriving DecidableEq, Repr

/-- Whether a unit is the first of a surrogate pair. -/
def isLeading (unit : Nat) : Bool := 0xD800 ≤ unit && unit ≤ 0xDBFF

/-- Whether a unit is the second of a surrogate pair. -/
def isTrailing (unit : Nat) : Bool := 0xDC00 ≤ unit && unit ≤ 0xDFFF

/-- The character of a surrogate pair. -/
def pairedCharacter (leading trailing : Nat) : Char :=
  Char.ofNat (0x10000 + (leading - 0xD800) * 0x400 + (trailing - 0xDC00))

/-- The characters of a string, after those read before, latest first; nothing if a surrogate stands
alone. -/
def joinScraps (read : List Char) : List Scrap → Option (List Char)
  | [] => some read.reverse
  | .character value :: rest => joinScraps (value :: read) rest
  | .unit value :: .unit next :: rest =>
      if isLeading value then
        if isTrailing next then joinScraps (pairedCharacter value next :: read) rest else none
      else if isTrailing value then none
      else joinScraps (Char.ofNat value :: read) (.unit next :: rest)
  | .unit value :: rest =>
      if isLeading value || isTrailing value then none
      else joinScraps (Char.ofNat value :: read) rest

/-- The value of a hexadecimal digit of either case. -/
def hexValue? (character : Char) : Option Nat :=
  if '0' ≤ character ∧ character ≤ '9' then some (character.toNat - '0'.toNat)
  else if 'a' ≤ character ∧ character ≤ 'f' then some (character.toNat - 'a'.toNat + 10)
  else if 'A' ≤ character ∧ character ≤ 'F' then some (character.toNat - 'A'.toNat + 10)
  else none

/-- The unit of four hexadecimal digits. -/
def hexUnit? (first second third fourth : Char) : Option Nat :=
  match hexValue? first, hexValue? second, hexValue? third, hexValue? fourth with
  | some a, some b, some c, some d => some (((a * 16 + b) * 16 + c) * 16 + d)
  | _, _, _, _ => none

/-- The character that a one-letter escape stands for. -/
def escapedCharacter? : Char → Option Char
  | '"' => some '"'
  | '\\' => some '\\'
  | '/' => some '/'
  | 'b' => some '\x08'
  | 'f' => some '\x0c'
  | 'n' => some '\n'
  | 'r' => some '\r'
  | 't' => some '\t'
  | _ => none

/-- Reads a string from behind its opening quote: its pieces, latest first, and the text behind its
closing quote. -/
def readScraps (read : List Scrap) : List Char → Option (List Scrap × List Char)
  | [] => none
  | '"' :: rest => some (read, rest)
  | '\\' :: 'u' :: first :: second :: third :: fourth :: rest =>
      match hexUnit? first second third fourth with
      | some unit => readScraps (.unit unit :: read) rest
      | none => none
  | '\\' :: letter :: rest =>
      match escapedCharacter? letter with
      | some value => readScraps (.character value :: read) rest
      | none => none
  | character :: rest =>
      if character.toNat < 32 ∨ character = '\\' then none
      else readScraps (.character character :: read) rest

def readString (text : List Char) : Option (Option String × List Char) :=
  (readScraps [] text).map fun (scraps, rest) =>
    ((joinScraps [] scraps.reverse).map String.ofList, rest)

/-! ### Numerals -/

/-- Whether a character is a decimal digit. -/
def isDigit (character : Char) : Bool :=
  '0' ≤ character && character ≤ '9'

/-- The values of the decimal digits that a text begins with, and the text behind them. -/
def readDigits (text : List Char) : List Nat × List Char :=
  ((text.takeWhile isDigit).map fun digit => digit.toNat - '0'.toNat, text.dropWhile isDigit)

/-- Reads the digits before the point: a single zero, or digits that do not begin with one. -/
def readWhole (text : List Char) : Option (List Nat × List Char) :=
  match readDigits text with
  | ([], _) => none
  | (0 :: _ :: _, _) => none
  | (digits, rest) => some (digits, rest)

/-- Reads the fraction, if there is a point. -/
def readFraction : List Char → Option (Option (List Nat) × List Char)
  | '.' :: rest =>
      match readDigits rest with
      | ([], _) => none
      | (digits, rest) => some (some digits, rest)
  | text => some (none, text)

/-- Reads the exponent, if there is an exponent sign. -/
def readExponent (text : List Char) : Option (Option Exponent × List Char) :=
  match text with
  | 'e' :: rest | 'E' :: rest =>
      let (negative, rest) :=
        match rest with
        | '+' :: rest => (false, rest)
        | '-' :: rest => (true, rest)
        | rest => (false, rest)
      match readDigits rest with
      | ([], _) => none
      | (digits, rest) => some (some ⟨negative, digits⟩, rest)
  | text => some (none, text)

def readNumeral (text : List Char) : Option (Numeral × List Char) := do
  let (negative, text) :=
    match text with
    | '-' :: rest => (true, rest)
    | text => (false, text)
  let (whole, text) ← readWhole text
  let (fraction, text) ← readFraction text
  let (exponent, text) ← readExponent text
  return (⟨negative, whole, fraction, exponent⟩, text)

/-! ### Values -/

/-- Whether a character may stand between the parts of a JSON text. -/
def isSpace (character : Char) : Bool :=
  character = ' ' || character = '\t' || character = '\n' || character = '\r'

/-- A text without the spaces it begins with. -/
def skipSpaces (text : List Char) : List Char :=
  text.dropWhile isSpace

mutual

/-- Reads a value: its draft, and the text behind it unless the text broke. The number bounds the
calls; `Draft.ofText` gives enough of them. -/
def readValue : Nat → List Char → Draft × Option (List Char)
  | 0, _ => (.broken, none)
  | bound + 1, text =>
      match skipSpaces text with
      | '"' :: rest =>
          match readString rest with
          | some (value, rest) => (.string value, some rest)
          | none => (.broken, none)
      | '[' :: rest =>
          match skipSpaces rest with
          | ']' :: rest => (.array [] true, some rest)
          | rest =>
              let (items, rest) := readItems bound rest
              (.array items rest.isSome, rest)
      | '\x7b' :: rest =>
          match skipSpaces rest with
          | '\x7d' :: rest => (.object [] true, some rest)
          | rest =>
              let (members, rest) := readMembers bound rest
              (.object members rest.isSome, rest)
      | 'n' :: 'u' :: 'l' :: 'l' :: rest => (.null, some rest)
      | 't' :: 'r' :: 'u' :: 'e' :: rest => (.bool true, some rest)
      | 'f' :: 'a' :: 'l' :: 's' :: 'e' :: rest => (.bool false, some rest)
      | rest =>
          match readNumeral rest with
          | some (value, rest) => (.numeral value, some rest)
          | none => (.broken, none)

def readItems : Nat → List Char → List Draft × Option (List Char)
  | 0, _ => ([], none)
  | bound + 1, text =>
      match readValue bound text with
      | (item, none) => ([item], none)
      | (item, some rest) =>
          match skipSpaces rest with
          | ',' :: rest =>
              let (items, rest) := readItems bound rest
              (item :: items, rest)
          | ']' :: rest => ([item], some rest)
          | _ => ([item], none)

def readMembers : Nat → List Char → List (Option String × Draft) × Option (List Char)
  | 0, _ => ([], none)
  | bound + 1, text =>
      match skipSpaces text with
      | '"' :: rest =>
          match readString rest with
          | none => ([], none)
          | some (key, rest) =>
              match skipSpaces rest with
              | ':' :: rest =>
                  match readValue bound rest with
                  | (value, none) => ([(key, value)], none)
                  | (value, some rest) =>
                      match skipSpaces rest with
                      | ',' :: rest =>
                          let (members, rest) := readMembers bound rest
                          ((key, value) :: members, rest)
                      | '\x7d' :: rest => ([(key, value)], some rest)
                      | _ => ([(key, value)], none)
              | _ => ([(key, .broken)], none)
      | _ => ([], none)

end

namespace Draft

/-- The draft of the value that a text begins with, and the text behind it unless the text broke.
Every second call of the reader takes a character, so twice the length bounds the calls. -/
def ofText (text : List Char) : Draft × Option (List Char) :=
  readValue (2 * text.length + 2) text

/-! ### What a draft amounts to -/

mutual

/-- The value of a draft, if it is whole, strict, and opens at most `room` containers in each other. -/
def value? (room : Nat) : Draft → Option Value
  | .broken => none
  | .null => some .null
  | .bool value => some (.bool value)
  | .numeral value => value.number?.map .number
  | .string value => value.map .string
  | .array items closed =>
      if room = 0 ∨ closed = false then none else (itemValues? (room - 1) items).map .array
  | .object members closed =>
      if room = 0 ∨ closed = false then none else (memberValues? (room - 1) members).map .object

/-- The values of the items of an array. -/
def itemValues? (room : Nat) : List Draft → Option (List Value)
  | [] => some []
  | item :: rest =>
      match item.value? room with
      | none => none
      | some value => (itemValues? room rest).map (value :: ·)

/-- The members of an object with their values. -/
def memberValues? (room : Nat) : List (Option String × Draft) → Option (List (String × Value))
  | [] => some []
  | (none, _) :: _ => none
  | (some key, draft) :: rest =>
      match draft.value? room with
      | none => none
      | some value => (memberValues? room rest).map ((key, value) :: ·)

end

mutual

/-- Whether a draft was read to its end. -/
def isWhole : Draft → Bool
  | .broken => false
  | .null => true
  | .bool _ => true
  | .numeral _ => true
  | .string _ => true
  | .array items closed => closed && areWhole items
  | .object members closed => closed && haveWhole members

/-- Whether all items were read to their ends. -/
def areWhole : List Draft → Bool
  | [] => true
  | item :: rest => item.isWhole && areWhole rest

/-- Whether the values of all members were read to their ends. -/
def haveWhole : List (Option String × Draft) → Bool
  | [] => true
  | (_, value) :: rest => value.isWhole && haveWhole rest

end

end Draft

/-- The number of containers that a JSON text may open in each other. -/
def nestingLimit : Nat := 127

/-- The value of a text that holds one JSON value and nothing else. -/
def Value.ofText? (text : String) : Option Value :=
  match Draft.ofText text.toList with
  | (draft, some rest) => if (skipSpaces rest).isEmpty then draft.value? nestingLimit else none
  | (_, none) => none

end NarrativePlayer.Json
