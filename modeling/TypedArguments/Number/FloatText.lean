import TypedArguments.Number.Decimal

/-!
# Floating-point text

`FloatText.write` writes a pattern by its shortest decimal under a layout, of which there are two:
the plain one never takes an exponent, the exact one shows that the number is a floating-point one.
`FloatText.read` reads digits with an optional point and exponent, the infinities and the pattern
that is no number.
-/

namespace TypedArguments

/-- Why a text is no floating-point number. -/
inductive FloatFault where
  | empty
  | invalid
  deriving DecidableEq

/-- The wording of each reason. -/
def FloatFault.message : FloatFault → String
  | .empty => "cannot parse float from empty string"
  | .invalid => "invalid float literal"

namespace FloatText

/-- How a number is laid out. The place of the point is counted from the first digit other than
zero: the point stands behind it at place one. -/
structure Layout where
  /-- A whole number shows a point and a zero. -/
  showsPoint : Bool
  /-- The least and the greatest place of the point without an exponent; all places if absent. -/
  places : Option (Int × Int)

/-- No exponent, and a point only before a fraction. -/
def Layout.plain : Layout := ⟨false, none⟩

/-- A point always, and an exponent from `10 ^ 16` on and below `10 ^ -4`. -/
def Layout.exact : Layout := ⟨true, some (-3, 16)⟩

/-- So many zeros. -/
def zeros (n : Nat) : List Char :=
  List.replicate n '0'

/-- Digits with the point at the given place. -/
def positional (layout : Layout) (digits : List Char) (place : Int) : List Char :=
  if place ≤ 0 then ['0', '.'] ++ zeros (-place).toNat ++ digits
  else if place < digits.length then
    digits.take place.toNat ++ ['.'] ++ digits.drop place.toNat
  else
    digits ++ zeros (place - digits.length).toNat ++ (if layout.showsPoint then ['.', '0'] else [])

/-- Digits with the point behind the first one, and an exponent. -/
def scientific (digits : List Char) (place : Int) : List Char :=
  digits.take 1 ++ (if digits.length ≤ 1 then [] else '.' :: digits.drop 1)
    ++ ['e'] ++ Digits.ofInt (place - 1)

/-- Writes a decimal. -/
def writeDecimal (layout : Layout) (d : Decimal) : List Char :=
  let digits := Digits.ofNat d.coefficient
  let place := digits.length + d.exponent
  match layout.places with
  | none => positional layout digits place
  | some (least, greatest) =>
    if least ≤ place ∧ place ≤ greatest then positional layout digits place
    else scientific digits place

/-- Writes a pattern without its sign. -/
def writeMagnitude (layout : Layout) {k : FloatKind} (p : Pattern k) : List Char :=
  if p.isInfinite then ['i', 'n', 'f']
  else if p.magnitude = 0 then (if layout.showsPoint then ['0', '.', '0'] else ['0'])
  else writeDecimal layout p.shortest

/-- Writes a pattern. One that is no number has no sign. -/
def write (layout : Layout) {k : FloatKind} (p : Pattern k) : List Char :=
  if p.isNaN then ['N', 'a', 'N']
  else if p.negative then '-' :: writeMagnitude layout p
  else writeMagnitude layout p

/-- The plain layout of ten to the sixteenth, which the exact one writes with an exponent. -/
example : String.ofList (write .plain (Pattern.ofDecimal .f64 false ⟨1, 16⟩)) = "10000000000000000"
    ∧ String.ofList (write .exact (Pattern.ofDecimal .f64 false ⟨1, 16⟩)) = "1e16" := by
  decide +kernel

/-- A whole number with and without its point, and zero with its sign. -/
example : String.ofList (write .exact (Pattern.ofInt .f32 7)) = "7.0"
    ∧ String.ofList (write .plain (Pattern.ofInt .f32 7)) = "7"
    ∧ String.ofList (write .plain (Pattern.zero .f32 true)) = "-0" := by
  decide +kernel

/-- Takes one more digit into an exponent. An exponent of more than five digits is far out of the
range of every kind, and later digits no longer change it. -/
def growExponent (e : Nat) (c : Char) : Nat :=
  if e < 65536 then e * 10 + (Digits.value? c).getD 0 else e

/-- Reads the digits of an exponent, of which there is at least one. -/
def readExponentDigits? (cs : List Char) : Option Nat :=
  if cs.isEmpty ∨ !cs.all Char.isDigit then none else some (cs.foldl growExponent 0)

/-- Reads what follows the digits: nothing, or an exponent with an optional sign. -/
def readExponent? : List Char → Option Int
  | [] => some 0
  | c :: cs =>
    if c = 'e' ∨ c = 'E' then
      match cs with
      | '-' :: ds => (readExponentDigits? ds).map fun e => -(e : Int)
      | '+' :: ds => (readExponentDigits? ds).map fun e => (e : Int)
      | ds => (readExponentDigits? ds).map fun e => (e : Int)
    else none

/-- Reads a decimal without a sign: digits with an optional point among them, at least one digit,
then an optional exponent. -/
def readDecimal? (cs : List Char) : Option Decimal :=
  let whole := cs.takeWhile Char.isDigit
  let (fraction, rest) :=
    match cs.dropWhile Char.isDigit with
    | '.' :: ds => (ds.takeWhile Char.isDigit, ds.dropWhile Char.isDigit)
    | ds => ([], ds)
  if whole.isEmpty ∧ fraction.isEmpty then none
  else (readExponent? rest).map fun e => ⟨Digits.toNat (whole ++ fraction), e - fraction.length⟩

/-- Reads a pattern without a sign. The words are read in any case. -/
def readMagnitude? (k : FloatKind) (negative : Bool) (cs : List Char) : Option (Pattern k) :=
  match readDecimal? cs with
  | some d => some (.ofDecimal k negative d)
  | none =>
    let word := String.ofList (cs.map Char.toLower)
    if word = "inf" ∨ word = "infinity" then some (.infinite k negative)
    else if word = "nan" then some (.nan k negative)
    else none

/-- Reads a pattern after an optional sign. -/
def read (k : FloatKind) : List Char → Except FloatFault (Pattern k)
  | [] => .error .empty
  | c :: cs =>
    let pattern? :=
      if c = '-' then readMagnitude? k true cs
      else if c = '+' then readMagnitude? k false cs
      else readMagnitude? k false (c :: cs)
    match pattern? with
    | some p => .ok p
    | none => .error .invalid

/-- A third, written and read back. -/
example : (read .f64 (write .plain (Pattern.nearest .f64 false 1 3))).toOption
    = some (Pattern.nearest .f64 false 1 3) := by
  decide +kernel

end FloatText

end TypedArguments
