/-!
Contract: the blank characters of text, and trimming at both ends.

Owns the Unicode property `White_Space` as a table, and the trimming that blank answers, blank state
ids and trimmed input fields are judged by. Does not own the four blanks of a JSON text.
-/

namespace NarrativePlayer.Text

/-- The code points with the Unicode property `White_Space`, as closed ranges in ascending order. -/
def blankRanges : List (Nat × Nat) :=
  [(0x9, 0xD), (0x20, 0x20), (0x85, 0x85), (0xA0, 0xA0), (0x1680, 0x1680), (0x2000, 0x200A),
    (0x2028, 0x2029), (0x202F, 0x202F), (0x205F, 0x205F), (0x3000, 0x3000)]

/-- Whether a character falls into one of the closed ranges of a table. -/
def inRanges (ranges : List (Nat × Nat)) (character : Char) : Bool :=
  ranges.any fun range => range.1 ≤ character.toNat && character.toNat ≤ range.2

def isBlank (character : Char) : Bool :=
  inRanges blankRanges character

/-- The characters left when blank ones are taken off both ends. -/
def trimCharacters (characters : List Char) : List Char :=
  ((characters.dropWhile isBlank).reverse.dropWhile isBlank).reverse

/-- A text without the blank characters at its ends. -/
def trim (text : String) : String :=
  String.ofList (trimCharacters text.toList)

/-- Whether nothing is left of a text once it is trimmed. -/
def isVoid (text : String) : Bool :=
  text.toList.all isBlank

end NarrativePlayer.Text
