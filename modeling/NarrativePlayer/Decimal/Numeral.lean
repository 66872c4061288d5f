import NarrativePlayer.Decimal.Double

/-!
Contract: numerals, and the numbers they stand for.

A numeral is an optional sign, digits, and optionally a fraction and an exponent. Without the last
two, and within 64 bits, it stands for an integer. All others stand for a double, which is reached
in three steps: as many leading digits as fit into 64 bits are kept, that significand is rounded to a
double, and it is scaled by the power of ten. A numeral past the greatest double stands for nothing.
-/

namespace NarrativePlayer.Decimal

/-- A number as a document may hold it. -/
inductive Number where
  /-- A whole number from -2^63 to 2^64 - 1. -/
  | integer (value : Int)
  /-- A double, sign and magnitude apart; there are two zeros. -/
  | double (negative : Bool) (magnitude : Double)
deriving DecidableEq, Repr

structure Exponent where
  negative : Bool
  digits : List Nat
deriving DecidableEq, Repr

/-- A numeral, digit by digit. -/
structure Numeral where
  negative : Bool
  whole : List Nat
  fraction : Option (List Nat)
  exponent : Option Exponent
deriving DecidableEq, Repr

/-- The number that decimal digits write. -/
def ofDigits (digits : List Nat) : Nat :=
  digits.foldl (fun value digit => value * 10 + digit) 0

/-- The bound on significands and on integers without a sign. -/
def wordBound : Nat := twoTo 64

/-- A significand that is being gathered, with the power of ten it is to be scaled by. -/
structure Gathering where
  significand : Nat
  exponent : Int
deriving DecidableEq, Repr

/-- Gathers the digits before the point. From the first digit that no longer fits, digits only count
towards the scale. -/
def Gathering.wholeDigits (gathering : Gathering) : List Nat → Gathering
  | [] => gathering
  | digit :: rest =>
      let grown := gathering.significand * 10 + digit
      if grown < wordBound then Gathering.wholeDigits ⟨grown, gathering.exponent⟩ rest
      else ⟨gathering.significand, gathering.exponent + ((digit :: rest).length : Int)⟩

/-- Gathers the digits after the point. From the first digit that no longer fits, digits are left out. -/
def Gathering.fractionDigits (gathering : Gathering) : List Nat → Gathering
  | [] => gathering
  | digit :: rest =>
      let grown := gathering.significand * 10 + digit
      if grown < wordBound then Gathering.fractionDigits ⟨grown, gathering.exponent - 1⟩ rest
      else gathering

def Exponent.value (exponent : Exponent) : Int :=
  if exponent.negative then -(ofDigits exponent.digits : Int) else (ofDigits exponent.digits : Int)

/-- The magnitude that a numeral stands for when it is read as a double. -/
def Numeral.magnitude? (numeral : Numeral) : Option Double :=
  let whole := Gathering.wholeDigits ⟨0, 0⟩ numeral.whole
  let gathered := whole.fractionDigits (numeral.fraction.getD [])
  let exponent := gathered.exponent + (numeral.exponent.map Exponent.value).getD 0
  (Double.ofNat gathered.significand).scale? exponent

def Numeral.number? (numeral : Numeral) : Option Number :=
  let whole := ofDigits numeral.whole
  let asDouble := numeral.magnitude?.map (Number.double numeral.negative)
  if numeral.fraction.isSome ∨ numeral.exponent.isSome then asDouble
  else if numeral.negative then
    if whole = 0 ∨ twoTo 63 < whole then asDouble
    else some (.integer (-(whole : Int)))
  else if whole < wordBound then some (.integer (whole : Int))
  else asDouble

end NarrativePlayer.Decimal
