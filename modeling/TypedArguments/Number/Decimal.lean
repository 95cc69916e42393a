import TypedArguments.Number.Digits
import TypedArguments.Number.Pattern

/-!
# Decimal floating point

A decimal is a natural number times a power of ten. `Pattern.ofDecimal` reads one as the nearest
pattern, and `Pattern.shortest` gives the decimal with the fewest digits that reads back as a
pattern, of those the nearest to its number, and of two equally near the greater.

The search walks the grids of multiples of `10 ^ j` from coarse to fine. If a grid has a point that
reads back, one of the two neighbours of the number on that grid reads back, so only these two are
tried.
-/

namespace TypedArguments

/-- The number `coefficient * 10 ^ exponent`. -/
structure Decimal where
  coefficient : Nat
  exponent : Int
  deriving DecidableEq

namespace Decimal

/-- The numerator of `10 ^ j` as a fraction. -/
def scaleNum (j : Int) : Nat :=
  Nat.pow 10 j.toNat

/-- The denominator of `10 ^ j` as a fraction. -/
def scaleDen (j : Int) : Nat :=
  Nat.pow 10 (-j).toNat

end Decimal

namespace Pattern

variable {k : FloatKind}

/-- The pattern nearest to a decimal. -/
def ofDecimal (k : FloatKind) (negative : Bool) (d : Decimal) : Pattern k :=
  nearest k negative (d.coefficient * Decimal.scaleNum d.exponent) (Decimal.scaleDen d.exponent)

/-- Twice the lower end of the numbers that round to a finite pattern, in units. Below a power of
two the patterns lie half as far apart. -/
def lowerEnd (p : Pattern k) : Nat :=
  2 * p.units - (if p.fraction = 0 ∧ 1 < p.exponent then p.gap / 2 else p.gap)

/-- Twice the upper end of the numbers that round to a finite pattern, in units. -/
def upperEnd (p : Pattern k) : Nat :=
  2 * p.units + p.gap

/-- The fraction `num / den` of half units rounds to the pattern: it lies between the ends, which
belong to the pattern if it is even. -/
def attracts (p : Pattern k) (num den : Nat) : Bool :=
  if p.magnitude % 2 = 0 then p.lowerEnd * den ≤ num ∧ num ≤ p.upperEnd * den
  else p.lowerEnd * den < num ∧ num < p.upperEnd * den

/-- The neighbour of the pattern's number on the grid of `10 ^ j` that reads back, if one does. -/
def onGrid? (p : Pattern k) (j : Int) : Option Decimal :=
  let num := Decimal.scaleNum j * (2 * k.one)
  let den := Decimal.scaleDen j
  let below := 2 * p.units * den / num
  let rest := 2 * p.units * den % num
  let lower := p.attracts (below * num) den
  let upper := p.attracts ((below + 1) * num) den
  if upper && (!lower || num ≤ 2 * rest) then some ⟨below + 1, j⟩
  else if lower then some ⟨below, j⟩
  else none

/-- The first grid with a neighbour that reads back, from `10 ^ j` downwards. -/
def firstOnGrid (p : Pattern k) : Nat → Int → Decimal
  | 0, j => ⟨2 * p.units * Decimal.scaleDen j / (Decimal.scaleNum j * (2 * k.one)), j⟩
  | grids + 1, j => (p.onGrid? j).getD (firstOnGrid p grids (j - 1))

/-- An exponent whose power of ten lies at or above all numbers that round to the pattern. -/
def topGrid (p : Pattern k) : Int :=
  let one := 2 * k.one
  if one ≤ p.upperEnd then (Digits.ofNat (p.upperEnd / one)).length
  else 1 - (Digits.ofNat (one / p.upperEnd)).length

/-- The shortest decimal that reads back as a finite pattern other than zero. Seventeen digits are
always enough, so twenty grids are. -/
def shortest (p : Pattern k) : Decimal :=
  p.firstOnGrid 20 p.topGrid

end Pattern

end TypedArguments
