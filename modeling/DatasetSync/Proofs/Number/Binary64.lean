/-
Whole numbers as doubles.

A double that is a whole number is a significand of 53 bits times a power of two,
and rounding that product to a double again has nothing to round: counted in the
last place of the significand it is the significand.  So a whole double other than
the negative zero comes back unchanged from the integer it equals, which is why a
column may store it as an integer in between.
-/
import DatasetSync.Number.Binary64

namespace DatasetSync.Number.Binary64

/-! ### Shifts -/

private theorem shiftLeft_eq_mul (n k : Nat) : n <<< k = n * 1 <<< k := by
  rw [Nat.shiftLeft_eq, Nat.shiftLeft_eq, Nat.one_mul]

private theorem shiftLeft_pos {n : Nat} (hn : 0 < n) (k : Nat) : 0 < n <<< k := by
  rw [Nat.shiftLeft_eq]
  exact Nat.mul_pos hn (Nat.two_pow_pos k)

private theorem log2_shiftLeft {n : Nat} (hn : 0 < n) (k : Nat) :
    Nat.log2 (n <<< k) = Nat.log2 n + k := by
  induction k with
  | zero => rfl
  | succ k ih =>
      have hpos := shiftLeft_pos hn k
      rw [Nat.shiftLeft_succ, Nat.log2_two_mul (by omega), ih]
      omega

/-- The places that two equal numbers are shifted by in common are cancelled. -/
private theorem shiftLeft_cancel {n m down up : Nat} (h : n <<< down = m <<< up) :
    n <<< (down - up) = m <<< (up - down) := by
  have hdown : n <<< down = n <<< (down - up) <<< min down up := by
    rw [← Nat.shiftLeft_add]
    congr 1
    omega
  have hup : m <<< up = m <<< (up - down) <<< min down up := by
    rw [← Nat.shiftLeft_add]
    congr 1
    omega
  rw [hdown, hup, Nat.shiftLeft_eq (n <<< _), Nat.shiftLeft_eq (m <<< _)] at h
  exact Nat.eq_of_mul_eq_mul_right (Nat.two_pow_pos _) h

/-! ### Parts of a number -/

theorem code_lt (x : Binary64) : x.code < signBit + signBit :=
  x.bits.toNat_lt

theorem magnitudeCode_eq (x : Binary64) :
    x.magnitudeCode = x.exponentField * fractionEnd + x.fraction := by
  rw [Nat.mul_comm]
  exact (Nat.div_add_mod x.magnitudeCode fractionEnd).symm

theorem fraction_lt (x : Binary64) : x.fraction < fractionEnd :=
  Nat.mod_lt _ (by decide)

/-- A number is its sign and its magnitude. -/
theorem ofParts_isNegative_magnitudeCode (x : Binary64) :
    ofParts x.isNegative x.magnitudeCode = x := by
  have hcode : (if x.isNegative then signBit else 0) + x.magnitudeCode = x.code := by
    have hlt := x.code_lt
    unfold isNegative magnitudeCode
    unfold signBit at hlt ⊢
    by_cases h : 0x8000000000000000 ≤ x.code
    · rw [if_pos (by simpa using h)]
      omega
    · rw [if_neg (by simpa using h)]
      omega
  unfold ofParts
  rw [hcode]
  show (⟨UInt64.ofNat x.bits.toNat⟩ : Binary64) = x
  rw [UInt64.ofNat_toNat]

/-! ### Numbers that are made

Rounding ends at the infinities, so nothing that is made by rounding is a NaN.
-/

theorem magnitudeCode_ofParts (negative : Bool) {magnitude : Nat} (h : magnitude < signBit) :
    (ofParts negative magnitude).magnitudeCode = magnitude := by
  have hcode : (ofParts negative magnitude).code =
      (if negative then signBit else 0) + magnitude := by
    refine UInt64.toNat_ofNat_of_lt' ?_
    unfold signBit at h ⊢
    cases negative <;> simp [UInt64.size] <;> omega
  unfold magnitudeCode
  rw [hcode]
  cases negative with
  | false => simp [Nat.mod_eq_of_lt h]
  | true => simp [Nat.mod_eq_of_lt h]

theorem isNaN_ofParts (negative : Bool) {magnitude : Nat} (h : magnitude ≤ infinityCode) :
    (ofParts negative magnitude).isNaN = false := by
  have hlt : magnitude < signBit := Nat.lt_of_le_of_lt h (by decide)
  rw [isNaN, magnitudeCode_ofParts negative hlt, decide_eq_false_iff_not]
  exact Nat.not_lt.mpr h

theorem isNaN_ofQuotient (negative : Bool) (num den : Nat) :
    (ofQuotient negative num den).isNaN = false := by
  unfold ofQuotient
  split
  · exact isNaN_ofParts negative (Nat.zero_le _)
  · exact isNaN_ofParts negative (Nat.min_le_left _ _)

/-- No written decimal denotes a NaN. -/
theorem isNaN_ofDecimal (negative : Bool) (digits : Nat) (exponent : Int) :
    (ofDecimal negative digits exponent).isNaN = false := by
  unfold ofDecimal
  simp only
  split
  · exact isNaN_ofParts negative (Nat.zero_le _)
  · split
    · exact isNaN_ofParts negative (Nat.le_refl _)
    · split
      · exact isNaN_ofParts negative (Nat.zero_le _)
      · exact isNaN_ofQuotient negative _ _

/-! ### Rounding what needs no rounding -/

theorem roundHalfEven_mul (q : Nat) {den : Nat} (hden : 0 < den) :
    roundHalfEven (q * den) den = q := by
  unfold roundHalfEven
  simp [Nat.mul_mod_left, Nat.mul_div_cancel q hden, hden]

theorem floorLog_one {n : Nat} (hn : 0 < n) : floorLog n 1 = Nat.log2 n := by
  have hle : 1 <<< Nat.log2 n ≤ n := by
    rw [Nat.shiftLeft_eq, Nat.one_mul]
    exact Nat.log2_self_le (by omega)
  have hone : Nat.log2 1 = 0 := by decide
  simp [floorLog, hone, hle]

/-- A whole number that is a shifted significand keeps the significand and the shift. -/
theorem magnitudeOfQuotient_exact {n significand : Nat} {place : Int}
    (hlow : fractionEnd ≤ significand) (hhigh : significand < fractionEnd + fractionEnd)
    (hplace : -1074 ≤ place) (h : n <<< (-place).toNat = significand <<< place.toNat) :
    magnitudeOfQuotient n 1 =
      min infinityCode ((place + 1074).toNat * fractionEnd + significand) := by
  unfold fractionEnd at hlow hhigh
  have hn : 0 < n := by
    have hpos := shiftLeft_pos (show 0 < significand by omega) place.toNat
    rw [← h, Nat.shiftLeft_eq] at hpos
    exact Nat.pos_of_mul_pos_right hpos
  have hsignificand : Nat.log2 significand = 52 :=
    (Nat.log2_eq_iff (by omega)).mpr ⟨hlow, hhigh⟩
  -- The same number has one logarithm, so the last place of the quotient is the given one.
  have hlog : Nat.log2 n + (-place).toNat = 52 + place.toNat := by
    rw [← log2_shiftLeft hn, h, log2_shiftLeft (by omega), hsignificand]
  have hlast : max (floorLog n 1 - 52) (-1074) = place := by
    rw [floorLog_one hn]
    omega
  have hdigits : roundHalfEven (n <<< (-place).toNat) (1 <<< place.toNat) = significand := by
    rw [h, shiftLeft_eq_mul significand]
    exact roundHalfEven_mul significand (shiftLeft_pos Nat.one_pos _)
  unfold magnitudeOfQuotient
  simp only [hlast, hdigits]

/-! ### Whole doubles -/

/-- Below the least normal number only zero is whole. -/
theorem exponentField_ne_zero {x : Binary64} (hzero : x.isZero = false)
    (hwhole : x.numerator % denominator = 0) : x.exponentField ≠ 0 := by
  intro hfield
  have hfraction : x.numerator = x.fraction := by
    simp [numerator, significand, exponent, hfield]
  have hsmall : x.fraction < denominator :=
    Nat.lt_trans x.fraction_lt (by decide)
  rw [hfraction, Nat.mod_eq_of_lt hsmall] at hwhole
  have hcode : x.magnitudeCode = 0 := by simp [magnitudeCode_eq, hfield, hwhole]
  simp [isZero, hcode] at hzero

/-- The magnitude of a whole double is that of the natural number it equals. -/
theorem magnitudeOfQuotient_of_whole {x : Binary64} (hfinite : x.magnitudeCode < infinityCode)
    (hzero : x.isZero = false) (hwhole : x.numerator % denominator = 0) :
    magnitudeOfQuotient (x.numerator / denominator) 1 = x.magnitudeCode := by
  have hfield := exponentField_ne_zero hzero hwhole
  have hfraction := x.fraction_lt
  have hbits : ((x.exponentField : Int) - 1075 + 1074).toNat * fractionEnd +
      (fractionEnd + x.fraction) = x.magnitudeCode := by
    have hcode := x.magnitudeCode_eq
    unfold fractionEnd at hcode ⊢
    omega
  have hdown : (-((x.exponentField : Int) - 1075)).toNat = 1074 - (x.exponentField - 1) := by omega
  have hup : ((x.exponentField : Int) - 1075).toNat = x.exponentField - 1 - 1074 := by omega
  have hscaled : (x.numerator / denominator) <<< (-((x.exponentField : Int) - 1075)).toNat =
      (fractionEnd + x.fraction) <<< ((x.exponentField : Int) - 1075).toNat := by
    rw [hdown, hup]
    refine shiftLeft_cancel ?_
    rw [shiftLeft_eq_mul, ← denominator, Nat.div_mul_cancel (Nat.dvd_of_mod_eq_zero hwhole)]
    simp [numerator, significand, exponent, hfield]
  rw [magnitudeOfQuotient_exact (by omega) (by omega) (by omega) hscaled, hbits]
  exact Nat.min_eq_right (Nat.le_of_lt hfinite)

/-- The integer that a whole double equals is zero for the zeros only. -/
theorem whole_ne_zero {x : Binary64} (hzero : x.isZero = false)
    (hwhole : x.numerator % denominator = 0) : x.numerator / denominator ≠ 0 := by
  intro hnone
  have hnumerator : x.numerator = 0 := by
    rw [← Nat.div_mul_cancel (Nat.dvd_of_mod_eq_zero hwhole), hnone, Nat.zero_mul]
  have hsignificand : 0 < x.significand := by
    rw [significand, if_neg (exponentField_ne_zero hzero hwhole)]
    exact Nat.lt_of_lt_of_le (by decide) (Nat.le_add_right fractionEnd _)
  have hpos := shiftLeft_pos hsignificand x.exponent
  rw [← numerator, hnumerator] at hpos
  contradiction

theorem toInt?_of_isZero {x : Binary64} (hzero : x.isZero = true) : x.toInt? = some 0 := by
  have hcode : x.magnitudeCode = 0 := by simpa [isZero] using hzero
  have hnumerator : x.numerator = 0 := by
    simp [numerator, significand, exponentField, fraction, hcode]
  simp [toInt?, hcode, hnumerator, infinityCode]

/-- **A whole double is the double nearest to the integer it equals**, except for the sign of the
negative zero. -/
theorem ofInt_of_toInt? {x : Binary64} {n : Int} (h : x.toInt? = some n) :
    ofInt n = if x.isZero then zero false else x := by
  by_cases hzero : x.isZero = true
  · rw [toInt?_of_isZero hzero, Option.some.injEq] at h
    rw [if_pos hzero, ← h]
    rfl
  · have hnonzero : x.isZero = false := by simpa using hzero
    unfold toInt? at h
    split at h
    · contradiction
    · rename_i hfinite
      split at h
      · rename_i hwhole
        simp only [Option.some.injEq] at h
        have hpos := whole_ne_zero hnonzero hwhole
        have hmagnitude := magnitudeOfQuotient_of_whole (by omega) hnonzero hwhole
        generalize x.numerator / denominator = m at h hpos hmagnitude
        have habs : n.natAbs = m := by
          subst h
          split <;> omega
        have hsign : decide (n < 0) = x.isNegative := by
          subst h
          cases x.isNegative with
          | true =>
              simp
              omega
          | false => simp
        rw [if_neg hzero, ofInt, ofQuotient, habs, if_neg hpos, hsign, hmagnitude,
          ofParts_isNegative_magnitudeCode]
      · contradiction

end DatasetSync.Number.Binary64
