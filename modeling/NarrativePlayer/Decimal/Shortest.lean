import NarrativePlayer.Decimal.Double

/-!
Contract: the shortest decimal text that reads back as a given double.

Owns the choice of digits (the fewest for which a neighbour of the magnitude on that decimal grid
rounds to it, the nearer of two, an even one at a tie), and the layout: positional for exponents from
-5 to 15, with at least one digit after the point, and otherwise one digit before the point and a
signed exponent.
-/

namespace NarrativePlayer.Decimal

/-- A magnitude as a fraction of ten to the power `exponent`: numerator and denominator. -/
def Double.overPower (magnitude : Double) : Int → Nat × Nat
  | .ofNat exponent => (magnitude.units, unitsPerOne * tenTo exponent)
  | .negSucc exponent => (magnitude.units * tenTo (exponent + 1), unitsPerOne)

/-- The double nearest to `digits` times ten to the power `exponent`. -/
def Double.ofDecimal (digits : Nat) : Int → Double
  | .ofNat exponent => .nearest (digits * tenTo exponent) 1
  | .negSucc exponent => .nearest digits (tenTo (exponent + 1))

/-- The exponent of the leading decimal digit of a positive magnitude. -/
def Double.leadingExponent (magnitude : Double) : Int :=
  let candidates := (List.range 633).map fun (index : Nat) => (308 : Int) - index
  (candidates.find? fun exponent =>
    let (numerator, denominator) := magnitude.overPower exponent
    denominator ≤ numerator).getD (-324)

/-- The neighbour of a magnitude on the grid of ten to the power `exponent` that reads back as the
magnitude, if there is one. -/
def Double.neighbour? (magnitude : Double) (exponent : Int) : Option Nat :=
  let (numerator, denominator) := magnitude.overPower exponent
  let below := numerator / denominator
  let readsBack (digits : Nat) : Bool := Double.ofDecimal digits exponent = magnitude
  match readsBack below, readsBack (below + 1) with
  | true, true => some (roundQuotient numerator denominator)
  | true, false => some below
  | false, true => some (below + 1)
  | false, false => none

/-- The shortest decimal of a positive magnitude: digits and the exponent of the last of them. -/
def Double.shortest (magnitude : Double) : Nat × Int :=
  let leading := magnitude.leadingExponent
  let grids := (List.range 17).map fun (index : Nat) => leading - index
  (grids.findSome? fun exponent =>
    (magnitude.neighbour? exponent).map fun digits => (digits, exponent)).getD (0, 0)

/-- The digits of a number without the zeros at its end. -/
def significantDigits (digits : Nat) : List Char :=
  (((Nat.toDigits 10 digits).reverse).dropWhile (· = '0')).reverse

/-- Digits with the point behind the first of them, and the text of an exponent. -/
def scientific (digits exponentText : List Char) : List Char :=
  match digits with
  | [] => []
  | [digit] => digit :: 'e' :: exponentText
  | digit :: rest => digit :: '.' :: (rest ++ 'e' :: exponentText)

/-- Digits of which the first has the weight of ten to the power `exponent`, laid out as text. -/
def layout (digits : List Char) (exponent : Int) : List Char :=
  match exponent with
  | .ofNat places =>
      if places ≤ 15 then
        if digits.length ≤ places + 1 then
          digits ++ List.replicate (places + 1 - digits.length) '0' ++ ['.', '0']
        else
          digits.take (places + 1) ++ '.' :: digits.drop (places + 1)
      else
        scientific digits ('+' :: Nat.toDigits 10 places)
  | .negSucc places =>
      if places < 5 then
        '0' :: '.' :: (List.replicate places '0' ++ digits)
      else
        scientific digits ('-' :: Nat.toDigits 10 (places + 1))

def Double.text (negative : Bool) (magnitude : Double) : String :=
  let unsigned :=
    if magnitude.units = 0 then ['0', '.', '0']
    else
      let (digits, exponent) := magnitude.shortest
      layout (significantDigits digits)
        (exponent + ((Nat.toDigits 10 digits).length : Int) - 1)
  String.ofList (if negative then '-' :: unsigned else unsigned)

end NarrativePlayer.Decimal
