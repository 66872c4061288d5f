import NarrativePlayer.Text.Combining
import NarrativePlayer.Text.Unprintable

/-!
Contract: text between double quotes, as fault reports, journal entries and descriptions show it.

Owns the escapes: `\"`, `\\`, `\n`, `\r`, `\t`, `\0`, and a number in lower-case hexadecimal for every
other character that is unprintable or combines with the one before it.
-/

namespace NarrativePlayer.Text

/-- The digits of a number in lower-case hexadecimal, without padding. -/
def hexadecimal (number : Nat) : List Char :=
  Nat.toDigits 16 number

/-- One character as it stands between double quotes. -/
def quotedCharacter (character : Char) : List Char :=
  if character = '"' then ['\\', '"']
  else if character = '\\' then ['\\', '\\']
  else if character = '\n' then ['\\', 'n']
  else if character = '\r' then ['\\', 'r']
  else if character = '\t' then ['\\', 't']
  else if character = '\x00' then ['\\', '0']
  else if isCombining character || isUnprintable character then
    ['\\', 'u', '\x7b'] ++ hexadecimal character.toNat ++ ['\x7d']
  else [character]

def quoted (text : String) : String :=
  String.ofList ('"' :: (text.toList.flatMap quotedCharacter ++ ['"']))

end NarrativePlayer.Text
