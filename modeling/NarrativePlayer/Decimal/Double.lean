/-!
Contract: the magnitudes of double precision numbers, in exact arithmetic.

Every finite double is a whole multiple of the least positive one, two to the power -1074, and is
kept here as that multiple. Owns rounding of a quotient to the nearest double with ties to the even
neighbour, product and quotient rounded once, scaling by a power of ten in double steps, and the
least whole number above. Does not own signs, infinities or decimal text.
-/

namespace NarrativePlayer.Decimal

/-- The nearest whole number to a quotient; a half goes to the even neighbour. -/
def roundQuotient (numerator denominator : Nat) : Nat :=
  let floor := numerator / denominator
  let twice := 2 * (numerator % denominator)
  if twice < denominator ∨ (twice = denominator ∧ floor % 2 = 0) then floor else floor + 1

def twoTo (exponent : Nat) : Nat := Nat.pow 2 exponent

def tenTo (exponent : Nat) : Nat := Nat.pow 10 exponent

/-- The number of least positive doubles in one. -/
def unitsPerOne : Nat := twoTo 1074

/-- A magnitude as a multiple of the least positive double. -/
structure Double where
  units : Nat
deriving DecidableEq, Repr

namespace Double

/-- The double nearest to a quotient, as if there were no greatest double. Doubles have 53 binary
digits, so beyond the 53rd digit the grid widens with the magnitude. -/
def nearest (numerator denominator : Nat) : Double :=
  let scaled := numerator * unitsPerOne
  let step := twoTo (Nat.log2 (scaled / denominator) - 52)
  ⟨roundQuotient scaled (denominator * step) * step⟩

/-- Whether a magnitude is within the range of doubles. -/
def isFinite (magnitude : Double) : Bool :=
  magnitude.units < twoTo (1024 + 1074)

def ofNat (number : Nat) : Double :=
  nearest number 1

/-- A product, rounded once. -/
def times (left right : Double) : Double :=
  nearest (left.units * right.units) (unitsPerOne * unitsPerOne)

/-- A quotient, rounded once. -/
def dividedBy (left right : Double) : Double :=
  nearest left.units right.units

def powerOfTen (exponent : Nat) : Double :=
  ofNat (tenTo exponent)

/-- The exponent of the greatest power of ten that is a double. -/
def greatestPower : Nat := 308

/-- Takes a magnitude down by a power of ten, in steps of at most the greatest power that is a double. -/
def scaleDown (magnitude : Double) (exponent : Nat) : Double :=
  if exponent ≤ greatestPower then magnitude.dividedBy (powerOfTen exponent)
  else if magnitude.units = 0 then magnitude
  else scaleDown (magnitude.dividedBy (powerOfTen greatestPower)) (exponent - greatestPower)
termination_by exponent
decreasing_by simp only [greatestPower] at *; omega

/-- Takes a magnitude up or down by a power of ten, or gives nothing where the result is past the
greatest double. -/
def scale? (magnitude : Double) : Int → Option Double
  | .ofNat exponent =>
      if exponent ≤ greatestPower then
        let scaled := magnitude.times (powerOfTen exponent)
        if scaled.isFinite then some scaled else none
      else if magnitude.units = 0 then some magnitude
      else none
  | .negSucc exponent => some (magnitude.scaleDown (exponent + 1))

/-- The least whole number that is not below a magnitude. -/
def ceiling (magnitude : Double) : Nat :=
  (magnitude.units + unitsPerOne - 1) / unitsPerOne

end Double

end NarrativePlayer.Decimal
