import NarrativePlayer.Decimal.Numeral

/-!
Contract: numbers that need no more than 53 binary digits, zeros at the end apart.

Doubles are such multiples of the least positive double, however they came about, and rounding leaves
such whole numbers as they are. So once a magnitude has been rounded up to a whole number, that number
survives being read as a double again.
-/

namespace NarrativePlayer.Decimal

/-- Whether 53 binary digits are enough for a number, zeros at its end apart. The first factor that needs
one more digit is allowed, as it ends in zeros itself. -/
def Short (number : Nat) : Prop :=
  ∃ factor exponent, factor ≤ twoTo 53 ∧ number = factor * twoTo exponent

theorem twoTo_pos (exponent : Nat) : 0 < twoTo exponent := Nat.pow_pos (by decide)

theorem twoTo_add (first second : Nat) : twoTo (first + second) = twoTo first * twoTo second :=
  Nat.pow_add 2 first second

theorem twoTo_mono {first second : Nat} (order : first ≤ second) : twoTo first ≤ twoTo second :=
  Nat.pow_le_pow_right (by decide) order

theorem lt_twoTo_log2 (number : Nat) : number < twoTo (Nat.log2 number + 1) := Nat.lt_log2_self

/-! ## Rounding -/

theorem roundQuotient_le (numerator denominator : Nat) :
    roundQuotient numerator denominator ≤ numerator / denominator + 1 := by
  unfold roundQuotient
  dsimp only
  split
  · exact Nat.le_succ _
  · exact Nat.le_refl _

theorem roundQuotient_mul {denominator : Nat} (positive : 0 < denominator) (factor : Nat) :
    roundQuotient (factor * denominator) denominator = factor := by
  unfold roundQuotient
  dsimp only
  rw [Nat.mul_mod_left, Nat.mul_div_cancel factor positive, if_pos (.inl (by simpa using positive))]

theorem short_nearest (numerator denominator : Nat) : Short (Double.nearest numerator denominator).units := by
  unfold Double.nearest
  dsimp only
  generalize numerator * unitsPerOne = scaled
  generalize whole : scaled / denominator = quotient
  refine ⟨_, _, ?_, rfl⟩
  -- The step is chosen so that the quotient has no more than 53 digits before the step's own zeros.
  have digits : quotient < twoTo 53 * twoTo (Nat.log2 quotient - 52) := by
    have below := lt_twoTo_log2 quotient
    have enough : twoTo (Nat.log2 quotient + 1) ≤ twoTo (53 + (Nat.log2 quotient - 52)) :=
      twoTo_mono (by omega)
    rw [← twoTo_add]
    exact Nat.lt_of_lt_of_le below enough
  have floor : scaled / (denominator * twoTo (Nat.log2 quotient - 52)) < twoTo 53 := by
    rw [← Nat.div_div_eq_div_mul, whole]
    exact Nat.div_lt_of_lt_mul (by rwa [Nat.mul_comm])
  exact Nat.le_trans (roundQuotient_le _ _) floor

/-- A short number lies on the grid that is used for numbers of its size. -/
theorem step_dvd_of_short {number : Nat} (short : Short number) :
    twoTo (Nat.log2 number - 52) ∣ number := by
  obtain ⟨factor, exponent, bounded, rfl⟩ := short
  have divides : ∀ {low high}, low ≤ high → twoTo low ∣ twoTo high :=
    fun order => Nat.pow_dvd_pow 2 order
  by_cases zero : factor * twoTo exponent = 0
  · rw [zero]
    exact Nat.dvd_zero _
  · rcases Nat.lt_or_eq_of_le bounded with within | atBound
    · have below : factor * twoTo exponent < twoTo (53 + exponent) := by
        rw [twoTo_add]
        exact Nat.mul_lt_mul_of_pos_right within (twoTo_pos exponent)
      have size : Nat.log2 (factor * twoTo exponent) < 53 + exponent := (Nat.log2_lt zero).mpr below
      exact Nat.dvd_mul_left_of_dvd (divides (by omega)) factor
    · have same : factor * twoTo exponent = twoTo (53 + exponent) := by rw [atBound, twoTo_add]
      rw [same] at zero ⊢
      have below : twoTo (53 + exponent) < twoTo (54 + exponent) :=
        Nat.pow_lt_pow_right (by decide) (by omega)
      have size : Nat.log2 (twoTo (53 + exponent)) < 54 + exponent := (Nat.log2_lt zero).mpr below
      exact divides (by omega)

theorem Short.scaled {number : Nat} (short : Short number) (places : Nat) :
    Short (number * twoTo places) := by
  obtain ⟨factor, exponent, bounded, rfl⟩ := short
  exact ⟨factor, exponent + places, bounded, by rw [twoTo_add, Nat.mul_assoc]⟩

/-- A short whole number is a double. -/
theorem ofNat_of_short {number : Nat} (short : Short number) :
    Double.ofNat number = ⟨number * unitsPerOne⟩ := by
  have onGrid := step_dvd_of_short (short.scaled 1074)
  unfold Double.ofNat Double.nearest
  dsimp only
  rw [Nat.div_one, Nat.one_mul]
  show Double.mk (roundQuotient (number * twoTo 1074) _ * _) = ⟨number * twoTo 1074⟩
  rw [show unitsPerOne = twoTo 1074 from rfl]
  generalize number * twoTo 1074 = scaled at onGrid ⊢
  have positive := twoTo_pos (Nat.log2 scaled - 52)
  generalize twoTo (Nat.log2 scaled - 52) = step at onGrid positive ⊢
  obtain ⟨factor, rfl⟩ := onGrid
  rw [Nat.mul_comm step factor, roundQuotient_mul positive]

/-! ## Magnitudes that numerals stand for -/

theorem short_scaleDown {magnitude : Double} (short : Short magnitude.units) (exponent : Nat) :
    Short (magnitude.scaleDown exponent).units := by
  rw [Double.scaleDown]
  split
  · exact short_nearest _ _
  · split
    · exact short
    · exact short_scaleDown (short_nearest _ _) _
termination_by exponent
decreasing_by
  simp only [Double.greatestPower] at *
  omega

theorem short_of_scale? {magnitude scaled : Double} {exponent : Int} (short : Short magnitude.units)
    (scales : magnitude.scale? exponent = some scaled) : Short scaled.units := by
  unfold Double.scale? at scales
  split at scales
  · split at scales
    · dsimp only at scales
      split at scales
      · cases scales
        exact short_nearest _ _
      · cases scales
    · split at scales
      · cases scales
        exact short
      · cases scales
  · cases scales
    exact short_scaleDown short _

theorem short_of_magnitude? {numeral : Numeral} {magnitude : Double}
    (stands : numeral.magnitude? = some magnitude) : Short magnitude.units :=
  short_of_scale? (short_nearest _ 1) stands

/-! ## Whole numbers above -/

theorem ceiling_whole (number : Nat) : Double.ceiling ⟨number * unitsPerOne⟩ = number := by
  have positive : 0 < unitsPerOne := twoTo_pos 1074
  unfold Double.ceiling
  dsimp only
  generalize unitsPerOne = ones at positive ⊢
  rw [Nat.add_sub_assoc positive, Nat.mul_comm, Nat.mul_add_div positive,
    Nat.div_eq_of_lt (Nat.sub_lt positive Nat.one_pos), Nat.add_zero]

/-- What lies on the grid of a factor is rounded up to no more than the factor, if the grid is finer than
the whole numbers. -/
theorem ceiling_le_factor {factor step : Nat} (finer : step ≤ unitsPerOne) :
    Double.ceiling ⟨factor * step⟩ ≤ factor := by
  have positive : 0 < unitsPerOne := twoTo_pos 1074
  unfold Double.ceiling
  dsimp only
  generalize unitsPerOne = ones at finer positive ⊢
  have atMost : factor * step ≤ factor * ones := Nat.mul_le_mul_left factor finer
  refine Nat.le_of_lt_succ (Nat.div_lt_of_lt_mul ?_)
  rw [Nat.mul_succ, Nat.mul_comm ones factor]
  omega

/-- The least whole number above a short multiple is short: either the multiple is whole, or the whole
number is no greater than its factor. -/
theorem short_ceiling {magnitude : Double} (short : Short magnitude.units) : Short magnitude.ceiling := by
  obtain ⟨units⟩ := magnitude
  obtain ⟨factor, exponent, bounded, same⟩ := short
  dsimp only at same
  subst same
  by_cases whole : 1074 ≤ exponent
  · have parts : factor * twoTo exponent = factor * twoTo (exponent - 1074) * unitsPerOne := by
      rw [show unitsPerOne = twoTo 1074 from rfl, Nat.mul_assoc, ← twoTo_add, Nat.sub_add_cancel whole]
    rw [parts, ceiling_whole]
    exact ⟨factor, exponent - 1074, bounded, rfl⟩
  · have finer : twoTo exponent ≤ unitsPerOne := twoTo_mono (by omega)
    exact ⟨_, 0, Nat.le_trans (ceiling_le_factor finer) bounded, (Nat.mul_one _).symm⟩

/-! ## Numbers of documents -/

/-- A number as it can be read: an integer has a limit, and a double is short. -/
def Number.Sound : Number → Prop
  | .integer value => value < (wordBound : Int)
  | .double _ magnitude => Short magnitude.units

theorem sound_of_number? {numeral : Numeral} {number : Number}
    (stands : numeral.number? = some number) : number.Sound := by
  have asDouble : ∀ {other}, numeral.magnitude?.map (Number.double numeral.negative) = some other →
      other.Sound := by
    intro other isDouble
    obtain ⟨magnitude, here, rfl⟩ := Option.map_eq_some_iff.mp isDouble
    exact short_of_magnitude? here
  unfold Numeral.number? at stands
  dsimp only at stands
  split at stands
  · exact asDouble stands
  · split at stands
    · split at stands
      · exact asDouble stands
      · cases stands
        show -(_ : Int) < (wordBound : Int)
        have positive : 0 < wordBound := twoTo_pos 64
        omega
    · split at stands
      · rename_i within
        cases stands
        exact Int.ofNat_lt.mpr within
      · exact asDouble stands

end NarrativePlayer.Decimal
