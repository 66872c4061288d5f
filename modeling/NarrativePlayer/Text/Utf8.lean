/-!
Contract: text out of octets.

Owns the UTF-8 machine, which reads one octet at a time and stops at the first octet that rules the
text out, and the two faults it can end in, with their wording.
-/

namespace NarrativePlayer.Text.Utf8

/-- Why octets are not text. -/
inductive Fault where
  /-- The `length` octets from `index` on begin no character that the next octet lets be finished. -/
  | invalid (length index : Nat)
  /-- The octets end inside the character that begins at `index`. -/
  | incomplete (index : Nat)
deriving DecidableEq, Repr

def Fault.message : Fault → String
  | .invalid length index => s!"invalid utf-8 sequence of {length} bytes from index {index}"
  | .incomplete index => s!"incomplete utf-8 byte sequence from index {index}"

/-- A character part of whose octets has been read. -/
structure Partial where
  /-- Index of its first octet. -/
  start : Nat
  /-- Number of its octets read so far. -/
  seen : Nat
  /-- Number of octets still owed. -/
  owed : Nat
  /-- Bits gathered so far. -/
  bits : Nat
  /-- Least value the next octet may have. -/
  low : Nat
  /-- Greatest value the next octet may have. -/
  high : Nat
deriving DecidableEq, Repr

/-- What the first octet of a character longer than one octet calls for. The bounds on the second
octet keep out overlong forms, surrogates, and numbers past the last code point. -/
def lead (index octet : Nat) : Option Partial :=
  if 0xC2 ≤ octet ∧ octet ≤ 0xDF then some ⟨index, 1, 1, octet - 0xC0, 0x80, 0xBF⟩
  else if octet = 0xE0 then some ⟨index, 1, 2, 0, 0xA0, 0xBF⟩
  else if octet = 0xED then some ⟨index, 1, 2, 0xD, 0x80, 0x9F⟩
  else if 0xE1 ≤ octet ∧ octet ≤ 0xEF then some ⟨index, 1, 2, octet - 0xE0, 0x80, 0xBF⟩
  else if octet = 0xF0 then some ⟨index, 1, 3, 0, 0x90, 0xBF⟩
  else if 0xF1 ≤ octet ∧ octet ≤ 0xF3 then some ⟨index, 1, 3, octet - 0xF0, 0x80, 0xBF⟩
  else if octet = 0xF4 then some ⟨index, 1, 3, 4, 0x80, 0x8F⟩
  else none

/-- Reads octets from `index` on, given the character begun before them and the characters read
before that, latest first. -/
def decodeFrom (index : Nat) (begun : Option Partial) (read : List Char) :
    List UInt8 → Except Fault (List Char)
  | [] =>
      match begun with
      | none => .ok read.reverse
      | some character => .error (.incomplete character.start)
  | octet :: rest =>
      match begun with
      | none =>
          if octet.toNat < 0x80 then
            decodeFrom (index + 1) none (Char.ofNat octet.toNat :: read) rest
          else
            match lead index octet.toNat with
            | none => .error (.invalid 1 index)
            | some character => decodeFrom (index + 1) (some character) read rest
      | some character =>
          if character.low ≤ octet.toNat ∧ octet.toNat ≤ character.high then
            let bits := character.bits * 64 + octet.toNat % 64
            if character.owed = 1 then
              decodeFrom (index + 1) none (Char.ofNat bits :: read) rest
            else
              decodeFrom (index + 1)
                (some ⟨character.start, character.seen + 1, character.owed - 1, bits, 0x80, 0xBF⟩)
                read rest
          else
            .error (.invalid character.seen character.start)

/-- The text that octets hold. -/
def decode (octets : List UInt8) : Except Fault String :=
  (decodeFrom 0 none [] octets).map String.ofList

end NarrativePlayer.Text.Utf8
