import TypedArguments.Number.IntKind

/-!
# Binary floating-point patterns

The two binary interchange formats as bit patterns. A finite pattern denotes a whole number of
*units*, a unit being the least positive number of the format, so `Pattern.units` is exact and
natural. `Pattern.nearest` picks the pattern nearest to a fraction, `Pattern.ofInt` and
`Pattern.convert` are that choice for integers and for the other format. A magnitude one above the
greatest fraction is the next power of two, so a rounding that carries needs no case of its own.
-/

namespace TypedArguments

/-- The floating-point kinds. -/
inductive FloatKind where
  | f32 | f64
  deriving DecidableEq

namespace FloatKind

/-- Both kinds. -/
def all : List FloatKind := [.f32, .f64]

/-- Every kind is listed. -/
theorem mem_all (k : FloatKind) : k ∈ all := by
  cases k <;> decide

/-- The name of a kind as types are written. -/
def name : FloatKind → String
  | .f32 => "f32"
  | .f64 => "f64"

/-- Bits of the fraction. -/
def fractionBits : FloatKind → Nat
  | .f32 => 23
  | .f64 => 52

/-- Bits of the exponent. -/
def exponentBits : FloatKind → Nat
  | .f32 => 8
  | .f64 => 11

/-- The number of fractions, which is also the magnitude of the least number with an exponent. -/
def fractions (k : FloatKind) : Nat :=
  Nat.pow 2 k.fractionBits

/-- The number of magnitudes, a magnitude being exponent and fraction together. -/
def magnitudes (k : FloatKind) : Nat :=
  Nat.pow 2 (k.exponentBits + k.fractionBits)

/-- A unit, the least positive number of the kind, is two to the power `-unitExponent`. -/
def unitExponent (k : FloatKind) : Nat :=
  Nat.pow 2 (k.exponentBits - 1) + k.fractionBits - 2

/-- The number of units that make one. -/
def one (k : FloatKind) : Nat :=
  Nat.pow 2 k.unitExponent

/-- The magnitude of infinity; those above it are not numbers. -/
def infinity (k : FloatKind) : Nat :=
  k.magnitudes - k.fractions

/-- There are magnitudes above infinity, for what is no number. -/
theorem infinity_lt (k : FloatKind) : k.infinity + 1 < k.magnitudes := by
  cases k <;> decide

/-- There are magnitudes. -/
theorem magnitudes_pos (k : FloatKind) : 0 < k.magnitudes :=
  Nat.pow_pos (by decide)

end FloatKind

/-- A bit pattern of a floating-point kind: the sign, and exponent and fraction as one number. -/
structure Pattern (k : FloatKind) where
  negative : Bool
  magnitude : Nat
  magnitude_lt : magnitude < k.magnitudes
  deriving DecidableEq

namespace Pattern

variable {k l : FloatKind}

/-- The pattern in the low bits of a word. -/
def ofBits (k : FloatKind) (word : Nat) : Pattern k where
  negative := word / k.magnitudes % 2 = 1
  magnitude := word % k.magnitudes
  magnitude_lt := Nat.mod_lt _ k.magnitudes_pos

/-- The word of a pattern. -/
def toBits (p : Pattern k) : Nat :=
  p.negative.toNat * k.magnitudes + p.magnitude

/-- The pattern of a word's bits has that word. -/
theorem toBits_ofBits {word : Nat} (h : word < 2 * k.magnitudes) :
    (ofBits k word).toBits = word := by
  have hlt : word / k.magnitudes < 2 := (Nat.div_lt_iff_lt_mul k.magnitudes_pos).2 h
  have hdiv := Nat.div_add_mod word k.magnitudes
  simp only [ofBits, toBits]
  generalize word / k.magnitudes = q at hlt hdiv
  match q, hlt with
  | 0, _ => simpa using hdiv
  | 1, _ => simpa using hdiv

/-- The biased exponent. -/
def exponent (p : Pattern k) : Nat :=
  p.magnitude / k.fractions

/-- The bits below the exponent. -/
def fraction (p : Pattern k) : Nat :=
  p.magnitude % k.fractions

/-- The pattern denotes a number. -/
def isFinite (p : Pattern k) : Bool :=
  p.magnitude < k.infinity

/-- The pattern is an infinity. -/
def isInfinite (p : Pattern k) : Bool :=
  p.magnitude = k.infinity

/-- The pattern denotes neither a number nor an infinity. -/
def isNaN (p : Pattern k) : Bool :=
  k.infinity < p.magnitude

/-- The distance, in units, from a finite pattern to the next one away from zero. -/
def gap (p : Pattern k) : Nat :=
  Nat.pow 2 (p.exponent - 1)

/-- The number of units that a finite pattern denotes, its sign aside. An exponent of zero marks
the numbers below the least power of two that has its own exponent. -/
def units (p : Pattern k) : Nat :=
  if p.exponent = 0 then p.fraction else (k.fractions + p.fraction) * p.gap

/-- The pattern of a magnitude; those above infinity are taken as infinity. -/
def ofMagnitude (k : FloatKind) (negative : Bool) (magnitude : Nat) : Pattern k where
  negative := negative
  magnitude := min magnitude k.infinity
  magnitude_lt := Nat.lt_of_le_of_lt (Nat.min_le_right _ _) (Nat.lt_of_succ_lt k.infinity_lt)

/-- Zero of either sign. -/
def zero (k : FloatKind) (negative : Bool) : Pattern k :=
  ofMagnitude k negative 0

/-- Infinity of either sign. -/
def infinite (k : FloatKind) (negative : Bool) : Pattern k :=
  ofMagnitude k negative k.infinity

/-- A pattern that is no number: the one with only the highest bit of the fraction set. -/
def nan (k : FloatKind) (negative : Bool) : Pattern k where
  negative := negative
  magnitude := k.infinity + k.fractions / 2
  magnitude_lt := by cases k <;> decide

/-- The quotient rounded to the nearest natural number, a half to the even neighbour. -/
def roundDiv (num den : Nat) : Nat :=
  let q := num / den
  let r := num % den
  if 2 * r < den ∨ (2 * r = den ∧ q % 2 = 0) then q else q + 1

/-- The pattern nearest to `num / den` units. The quotient is cut to one bit more than a fraction
has, where it is that long, and the cut counts as exponent. -/
def nearestUnits (k : FloatKind) (negative : Bool) (num den : Nat) : Pattern k :=
  let cut := Nat.log2 (num / den) - k.fractionBits
  ofMagnitude k negative (cut * k.fractions + roundDiv num (den * Nat.pow 2 cut))

/-- The pattern nearest to `num / den`. -/
def nearest (k : FloatKind) (negative : Bool) (num den : Nat) : Pattern k :=
  nearestUnits k negative (num * k.one) den

/-- The pattern nearest to an integer; zero is positive. -/
def ofInt (k : FloatKind) (n : Int) : Pattern k :=
  nearest k (n < 0) n.natAbs 1

/-- The pattern of the other kind nearest to a pattern. -/
def convert (l : FloatKind) (p : Pattern k) : Pattern l :=
  if p.isNaN then nan l p.negative
  else if p.isInfinite then infinite l p.negative
  else nearest l p.negative p.units k.one

end Pattern

end TypedArguments
