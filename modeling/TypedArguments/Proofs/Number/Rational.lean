import Mathlib.Algebra.Order.Field.Power
import Mathlib.Data.Rat.Cast.CharZero
import Mathlib.Tactic.Ring
import TypedArguments.Number.Pattern

/-!
# The numbers of floating-point patterns

A finite pattern denotes a rational number, which the interchange formats give by its sign, its
exponent and its fraction (`Pattern.toRat`); it is the number of its units (`Pattern.toRat_eq`).
What a format can hold exactly is its own nearest pattern (`FloatKind.Fits.nearestUnits`). So an
integer that is no longer than a significand is denoted exactly (`Pattern.ofInt_denotes`), and so is
every number of the short format in the long one (`Pattern.convert_widens`).
-/

namespace TypedArguments

variable {k : FloatKind}

namespace FloatKind

/-- What is added to the exponent of two before it is stored. -/
def bias (k : FloatKind) : ℕ :=
  2 ^ (k.exponentBits - 1) - 1

/-- The number of fractions is a power of two. -/
lemma fractions_eq (k : FloatKind) : k.fractions = 2 ^ k.fractionBits := rfl

/-- The number of units in one is a power of two. -/
lemma one_eq (k : FloatKind) : k.one = 2 ^ k.unitExponent := rfl

/-- There is a fraction. -/
lemma fractions_pos (k : FloatKind) : 0 < k.fractions :=
  Nat.two_pow_pos k.fractionBits

/-- There is a unit in one. -/
lemma one_pos (k : FloatKind) : 0 < k.one :=
  Nat.two_pow_pos k.unitExponent

/-- The unit is the least fraction at the least exponent. -/
lemma unitExponent_add_one (k : FloatKind) : k.unitExponent + 1 = k.bias + k.fractionBits := by
  cases k <;> rfl

/-- Infinity has the greatest exponent and no fraction. -/
lemma infinity_eq (k : FloatKind) : k.infinity = (2 ^ k.exponentBits - 1) * k.fractions := by
  cases k <;> decide

/-- So many units, `m * 2 ^ e`, can be held: `m` is no longer than a significand, and `e` leaves the
number below infinity. -/
structure Fits (k : FloatKind) (m e : ℕ) : Prop where
  significand : m < 2 * k.fractions
  exponent : e + 2 < 2 ^ k.exponentBits

end FloatKind

namespace Pattern

/-- One, with the sign of the pattern. -/
def sign (p : Pattern k) : ℚ :=
  (-1) ^ p.negative.toNat

/-- The fraction behind a point, and before the point a one, or a zero if the exponent is zero. -/
def significand (p : Pattern k) : ℚ :=
  (if p.exponent = 0 then 0 else 1) + p.fraction / 2 ^ k.fractionBits

/-- The exponent of two. Zero is stored for the same exponent as one. -/
def scale (p : Pattern k) : ℤ :=
  max p.exponent 1 - k.bias

/-- The number of a finite pattern, by the formula of the interchange formats. -/
def toRat (p : Pattern k) : ℚ :=
  p.sign * p.significand * 2 ^ p.scale

/-- The pattern is finite, and its number is `x`. -/
structure Denotes (p : Pattern k) (x : ℚ) : Prop where
  finite : p.isFinite = true
  number : p.toRat = x

/-- The power of two of a pattern, counted in units, is as many gaps as there are fractions. -/
lemma two_zpow_scale (p : Pattern k) :
    (2 : ℚ) ^ p.scale * k.one = 2 ^ k.fractionBits * p.gap := by
  have unit := k.unitExponent_add_one
  have exponents : p.scale + (k.unitExponent : ℤ) = (k.fractionBits + (p.exponent - 1) : ℕ) := by
    rw [scale]
    omega
  have gap : (p.gap : ℚ) = 2 ^ (p.exponent - 1) := Nat.cast_pow 2 (p.exponent - 1)
  rw [gap, k.one_eq, Nat.cast_pow, Nat.cast_ofNat, ← zpow_natCast, ← zpow_add₀ two_ne_zero,
    exponents, zpow_natCast, pow_add]

/-- The significand, times its power of two, gives the units. -/
lemma significand_mul (p : Pattern k) :
    p.significand * (2 ^ k.fractionBits * p.gap) = p.units := by
  have ne : (2 : ℚ) ^ k.fractionBits ≠ 0 := pow_ne_zero _ two_ne_zero
  have below : (p.fraction : ℚ) / 2 ^ k.fractionBits * 2 ^ k.fractionBits = p.fraction :=
    div_mul_cancel₀ _ ne
  rw [significand, units, ← mul_assoc, add_mul, below]
  split
  · next zero =>
    have gap : p.gap = 1 := by
      rw [Pattern.gap, zero]
    rw [gap, Nat.cast_one, mul_one, zero_mul, zero_add]
  · rw [one_mul, Nat.cast_mul, Nat.cast_add, k.fractions_eq, Nat.cast_pow, Nat.cast_ofNat]

/-- The number of a pattern is that of its units, with its sign. -/
lemma toRat_eq (p : Pattern k) : p.toRat = p.sign * (p.units / k.one) := by
  have ne : (k.one : ℚ) ≠ 0 := Nat.cast_ne_zero.2 k.one_pos.ne'
  rw [toRat, mul_assoc]
  congr 1
  rw [eq_div_iff ne, mul_assoc, two_zpow_scale, significand_mul]

/-- A multiple of the divisor is divided without rounding. -/
lemma roundDiv_mul_right {den : ℕ} (pos : 0 < den) (q : ℕ) : roundDiv (q * den) den = q := by
  rw [roundDiv, Nat.mul_div_cancel q pos, Nat.mul_mod_left]
  exact if_pos (.inl pos)

/-- A magnitude below infinity is kept. -/
lemma magnitude_ofMagnitude {magnitude : ℕ} (negative : Bool) (finite : magnitude < k.infinity) :
    (ofMagnitude k negative magnitude).magnitude = magnitude :=
  Nat.min_eq_left (Nat.le_of_lt finite)

/-- The exponent and the significand are read off a magnitude as it was put together of them. -/
lemma units_ofMagnitude {cut q : ℕ} (negative : Bool) (short : q < 2 * k.fractions)
    (normal : cut = 0 ∨ k.fractions ≤ q) (finite : cut * k.fractions + q < k.infinity) :
    (ofMagnitude k negative (cut * k.fractions + q)).units = q * 2 ^ cut := by
  have whole := magnitude_ofMagnitude negative finite
  by_cases below : q < k.fractions
  · obtain rfl : cut = 0 := normal.resolve_right (Nat.not_le.2 below)
    rw [units, exponent, fraction, whole, Nat.zero_mul, Nat.zero_add, Nat.div_eq_of_lt below,
      Nat.mod_eq_of_lt below, if_pos rfl, pow_zero, Nat.mul_one]
  · -- the leading one of the significand adds itself to the exponent
    obtain ⟨f, rfl⟩ := Nat.exists_eq_add_of_le (Nat.not_lt.1 below)
    have hf : f < k.fractions := by omega
    have parts : cut * k.fractions + (k.fractions + f) = f + (cut + 1) * k.fractions := by ring
    have hexponent : (f + (cut + 1) * k.fractions) / k.fractions = cut + 1 := by
      rw [Nat.add_mul_div_right _ _ k.fractions_pos, Nat.div_eq_of_lt hf, Nat.zero_add]
    have hfraction : (f + (cut + 1) * k.fractions) % k.fractions = f := by
      rw [Nat.add_mul_mod_self_right, Nat.mod_eq_of_lt hf]
    rw [units, gap, exponent, fraction, whole, parts, hexponent, hfraction,
      if_neg (Nat.succ_ne_zero cut)]
    rfl

/-- What the cut leaves is no longer than a significand, and as long if anything was cut. -/
lemma significand_of_cut {cut q : ℕ} (hcut : Nat.log2 (q * 2 ^ cut) - k.fractionBits = cut) :
    q < 2 * k.fractions ∧ (cut = 0 ∨ k.fractions ≤ q) := by
  have pos : 0 < 2 ^ cut := Nat.two_pow_pos cut
  rw [k.fractions_eq]
  constructor
  · apply Nat.lt_of_mul_lt_mul_right (a := 2 ^ cut)
    calc q * 2 ^ cut < 2 ^ (Nat.log2 (q * 2 ^ cut) + 1) := Nat.lt_log2_self
      _ ≤ 2 ^ (k.fractionBits + 1 + cut) := Nat.pow_le_pow_right two_pos (by omega)
      _ = 2 * 2 ^ k.fractionBits * 2 ^ cut := by ring
  · by_cases zero : cut = 0
    · exact .inl zero
    · have length : k.fractionBits + cut = Nat.log2 (q * 2 ^ cut) := by omega
      have ne : q * 2 ^ cut ≠ 0 := by
        intro e
        rw [e, Nat.log2_zero] at hcut
        omega
      refine .inr (Nat.le_of_mul_le_mul_right ?_ pos)
      calc 2 ^ k.fractionBits * 2 ^ cut = 2 ^ Nat.log2 (q * 2 ^ cut) := by rw [← pow_add, length]
        _ ≤ q * 2 ^ cut := Nat.log2_self_le ne

/-- Where the cut takes off nothing but zeros, there is nothing to round. -/
lemma nearestUnits_of_cut {cut q den : ℕ} (pos : 0 < den)
    (hcut : Nat.log2 (q * 2 ^ cut) - k.fractionBits = cut) (negative : Bool) :
    nearestUnits k negative (q * 2 ^ cut * den) den =
      ofMagnitude k negative (cut * k.fractions + q) := by
  have parts : q * 2 ^ cut * den = q * (den * Nat.pow 2 cut) := by
    rw [Nat.mul_assoc, Nat.mul_comm (2 ^ cut)]
    rfl
  have whole : roundDiv (q * 2 ^ cut * den) (den * Nat.pow 2 cut) = q := by
    rw [parts]
    exact roundDiv_mul_right (Nat.mul_pos pos (Nat.two_pow_pos cut)) q
  simp only [nearestUnits, Nat.mul_div_cancel _ pos, hcut, whole]

end Pattern

namespace FloatKind.Fits

variable {m e : ℕ} (h : k.Fits m e)

include h

/-- No more is cut than the power of two. -/
lemma cut_le : Nat.log2 (m * 2 ^ e) - k.fractionBits ≤ e := by
  by_cases zero : m * 2 ^ e = 0
  · rw [zero, Nat.log2_zero]
    omega
  · have bits : m * 2 ^ e < 2 ^ (k.fractionBits + 1 + e) :=
      calc m * 2 ^ e < 2 * k.fractions * 2 ^ e :=
            Nat.mul_lt_mul_of_pos_right h.significand (Nat.two_pow_pos e)
        _ = 2 ^ (k.fractionBits + 1 + e) := by rw [k.fractions_eq]; ring
    have length := (Nat.log2_lt zero).2 bits
    omega

/-- A number of units that can be held is that of its nearest pattern. -/
lemma nearestUnits {den : ℕ} (pos : 0 < den) (negative : Bool) :
    (Pattern.nearestUnits k negative (m * 2 ^ e * den) den).isFinite = true ∧
    (Pattern.nearestUnits k negative (m * 2 ^ e * den) den).units = m * 2 ^ e := by
  obtain ⟨cut, hcut⟩ : ∃ cut, Nat.log2 (m * 2 ^ e) - k.fractionBits = cut := ⟨_, rfl⟩
  obtain ⟨d, rfl⟩ : ∃ d, e = cut + d := Nat.exists_eq_add_of_le (hcut ▸ h.cut_le)
  have parts : m * 2 ^ (cut + d) = m * 2 ^ d * 2 ^ cut := by ring
  rw [parts] at hcut ⊢
  obtain ⟨short, normal⟩ := Pattern.significand_of_cut hcut
  have exponent := h.exponent
  have finite : cut * k.fractions + m * 2 ^ d < k.infinity :=
    calc cut * k.fractions + m * 2 ^ d < cut * k.fractions + 2 * k.fractions :=
          Nat.add_lt_add_left short _
      _ = (cut + 2) * k.fractions := by ring
      _ ≤ (2 ^ k.exponentBits - 1) * k.fractions := Nat.mul_le_mul_right _ (by omega)
      _ = k.infinity := k.infinity_eq.symm
  rw [Pattern.nearestUnits_of_cut pos hcut]
  refine ⟨?_, Pattern.units_ofMagnitude negative short normal finite⟩
  rw [Pattern.isFinite, Pattern.magnitude_ofMagnitude negative finite]
  exact decide_eq_true finite

/-- A fraction whose number of units can be held is denoted by its nearest pattern. -/
lemma denotes {num den : ℕ} (pos : 0 < den) (exact_units : num * k.one = m * 2 ^ e * den)
    (negative : Bool) :
    (Pattern.nearest k negative num den).Denotes ((-1) ^ negative.toNat * (num / den)) := by
  obtain ⟨finite, units⟩ := h.nearestUnits pos negative
  rw [Pattern.nearest, exact_units]
  refine ⟨finite, ?_⟩
  rw [Pattern.toRat_eq, units]
  show (-1) ^ negative.toNat * _ = _
  congr 1
  have one : (k.one : ℚ) ≠ 0 := Nat.cast_ne_zero.2 k.one_pos.ne'
  have den_ne : (den : ℚ) ≠ 0 := Nat.cast_ne_zero.2 pos.ne'
  rw [div_eq_div_iff one den_ne]
  exact_mod_cast exact_units.symm

omit h in
/-- What the short format holds, the long one holds as well, in its smaller units. -/
lemma widen (h : FloatKind.f32.Fits m e) : ∃ d,
    FloatKind.f64.unitExponent = d + FloatKind.f32.unitExponent ∧ FloatKind.f64.Fits m (e + d) := by
  have longer : FloatKind.f32.fractions ≤ FloatKind.f64.fractions := by decide
  have short := h.significand
  have exponent : e + 2 < 2 ^ 8 := h.exponent
  refine ⟨925, rfl, by omega, ?_⟩
  show e + 925 + 2 < 2 ^ 11
  omega

end FloatKind.Fits

namespace Pattern

/-- An integer that is no longer than a significand is denoted by the pattern made of it. -/
lemma ofInt_denotes {n : ℤ} (short : n.natAbs < 2 * k.fractions) : (ofInt k n).Denotes n := by
  have exponent : k.unitExponent + 2 < 2 ^ k.exponentBits := by
    cases k <;> decide
  have exact_units : n.natAbs * k.one = n.natAbs * 2 ^ k.unitExponent * 1 := by
    rw [Nat.mul_one, k.one_eq]
  have denotes := (FloatKind.Fits.mk short exponent).denotes one_pos exact_units (n < 0)
  have value : (-1) ^ (decide (n < 0)).toNat * ((n.natAbs : ℚ) / (1 : ℕ)) = n := by
    rw [Nat.cast_one, div_one, Nat.cast_natAbs]
    by_cases neg : n < 0
    · simp [neg, abs_of_neg neg]
    · simp [neg, abs_of_nonneg (not_lt.1 neg)]
  rw [value] at denotes
  exact denotes

/-- The pattern of the integer zero has no bit set. -/
lemma ofInt_zero (k : FloatKind) : (ofInt k 0).toBits = 0 := by
  have none : Int.natAbs 0 * k.one = 0 := Nat.zero_mul k.one
  rw [ofInt, nearest, none]
  cases k <;> decide

/-- The exponent of a finite pattern is not the greatest one. -/
lemma exponent_of_finite {p : Pattern k} (finite : p.isFinite = true) :
    p.exponent < 2 ^ k.exponentBits - 1 := by
  rw [exponent, Nat.div_lt_iff_lt_mul k.fractions_pos, ← k.infinity_eq]
  exact of_decide_eq_true finite

/-- The units of a finite pattern are a number of units that can be held. -/
lemma exists_fits {p : Pattern k} (finite : p.isFinite = true) :
    ∃ m e, p.units = m * 2 ^ e ∧ k.Fits m e := by
  have below : p.fraction < k.fractions := Nat.mod_lt _ k.fractions_pos
  have exponent : p.exponent - 1 + 2 < 2 ^ k.exponentBits := by
    have := exponent_of_finite finite
    have least : 2 < 2 ^ k.exponentBits := by cases k <;> decide
    omega
  rw [units]
  split
  · next zero =>
    refine ⟨p.fraction, p.exponent - 1, ?_, by omega, exponent⟩
    rw [zero, Nat.zero_sub, pow_zero, Nat.mul_one]
  · exact ⟨k.fractions + p.fraction, p.exponent - 1, rfl, by omega, exponent⟩

/-- What is kept of a pattern in another format: the number and the sign if it is finite, the sign
if it is infinite, and that it is no number. -/
structure Widens {l : FloatKind} (p : Pattern k) (q : Pattern l) : Prop where
  finite : p.isFinite = true → q.Denotes p.toRat ∧ q.negative = p.negative
  infinite : p.isInfinite = true → q.isInfinite = true ∧ q.negative = p.negative
  nan : p.isNaN = true → q.isNaN = true

/-- A magnitude up to infinity is a number. -/
lemma isNaN_eq_false {p : Pattern k} (h : p.magnitude ≤ k.infinity) : p.isNaN = false :=
  decide_eq_false (Nat.not_lt.2 h)

/-- Infinity is infinite, with either sign. -/
lemma isInfinite_infinite (k : FloatKind) (negative : Bool) :
    (infinite k negative).isInfinite = true :=
  decide_eq_true (Nat.min_self k.infinity)

/-- Nothing is lost between the short format and the long one. -/
lemma convert_widens (p : Pattern .f32) : p.Widens (p.convert .f64) where
  finite finite := by
    have below : p.magnitude < FloatKind.f32.infinity := of_decide_eq_true finite
    have notInfinite : p.isInfinite = false := decide_eq_false (Nat.ne_of_lt below)
    obtain ⟨m, e, units, fits⟩ := exists_fits finite
    obtain ⟨d, longer, wide⟩ := fits.widen
    have exact_units : p.units * FloatKind.f64.one = m * 2 ^ (e + d) * FloatKind.f32.one := by
      rw [units, FloatKind.one_eq, longer, FloatKind.one_eq]
      ring
    rw [convert, isNaN_eq_false below.le, notInfinite, if_neg Bool.false_ne_true,
      if_neg Bool.false_ne_true, toRat_eq]
    exact ⟨wide.denotes FloatKind.f32.one_pos exact_units p.negative, rfl⟩
  infinite infinite := by
    have top : p.magnitude = FloatKind.f32.infinity := of_decide_eq_true infinite
    rw [convert, isNaN_eq_false top.le, infinite, if_neg Bool.false_ne_true, if_pos rfl]
    exact ⟨isInfinite_infinite .f64 p.negative, rfl⟩
  nan nan := by
    rw [convert, nan, if_pos rfl]
    rfl

end Pattern

end TypedArguments
