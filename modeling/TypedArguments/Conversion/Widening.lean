import TypedArguments.Conversion.Registry

/-!
# Widening

The conversions between numbers that lose nothing: every number of the source is one of the target
(`IntKind.within_of_mem_wider`), or the target has enough fraction bits for it. An address has at
least sixteen bits; what depends on it having more is no widening, and none starts from an address.
-/

namespace TypedArguments

namespace IntKind

/-- The kinds that surely hold every number of a kind, itself aside. -/
def wider : IntKind → List IntKind
  | .i8 => [.i16, .i32, .i64, .i128, .isize]
  | .i16 => [.i32, .i64, .i128, .isize]
  | .i32 => [.i64, .i128]
  | .i64 => [.i128]
  | .u8 => [.u16, .u32, .u64, .u128, .usize, .i16, .i32, .i64, .i128, .isize]
  | .u16 => [.u32, .u64, .u128, .usize, .i32, .i64, .i128]
  | .u32 => [.u64, .u128, .i64, .i128]
  | .u64 => [.u128, .i128]
  | .i128 | .u128 | .isize | .usize => []

/-- A wider kind has the narrower one's range inside its own. -/
theorem within_of_mem_wider {k l : IntKind} (h : l ∈ k.wider) : k.Within l := by
  revert h
  cases k <;> cases l <;> decide

/-- The floating-point kinds whose patterns denote every number of a kind exactly. -/
def floats : IntKind → List FloatKind
  | .i8 | .i16 | .u8 | .u16 => [.f32, .f64]
  | .i32 | .u32 => [.f64]
  | .i64 | .i128 | .isize | .u64 | .u128 | .usize => []

/-- The kinds that a character's code point can be read as. -/
def codeKinds : List IntKind := [.u32, .u64, .u128]

/-- The kinds that take code points hold every unsigned number of 32 bits. -/
theorem within_of_mem_codeKinds {l : IntKind} (h : l ∈ codeKinds) : IntKind.u32.Within l := by
  revert h
  cases l <;> decide

end IntKind

/-- The code point of a character. -/
def codePoint (c : Char) : Bounded .u32 where
  val := c.toNat
  holds := by
    have hlt : c.toNat < 2 ^ 32 := c.val.toNat_lt
    have hleast : IntKind.u32.least = 0 := rfl
    have hgreatest : IntKind.u32.greatest = 2 ^ 32 - 1 := rfl
    constructor <;> omega

namespace Conversion

variable {κ : Type} [UserTypes κ]

/-- The same number in a wider kind. -/
def widenInt {k l : IntKind} (h : k.Within l) : Conversion κ where
  source := .scalar (.int k)
  target := .scalar (.int l)
  run (n : Bounded k) := .ok (n.widen h)

/-- An integer as a floating-point number. -/
def intToFloat (k : IntKind) (l : FloatKind) : Conversion κ where
  source := .scalar (.int k)
  target := .scalar (.float l)
  run (n : Bounded k) := .ok (Pattern.ofInt l n.val)

/-- A floating-point number in the other kind. -/
def floatToFloat (k l : FloatKind) : Conversion κ where
  source := .scalar (.float k)
  target := .scalar (.float l)
  run (p : Pattern k) := .ok (p.convert l)

/-- The code point of a character. -/
def charToInt {l : IntKind} (h : IntKind.u32.Within l) : Conversion κ where
  source := .scalar .char
  target := .scalar (.int l)
  run (c : Char) := .ok ((codePoint c).widen h)

/-- The widenings from one kind of integer. -/
def widenings (k : IntKind) : List (Conversion κ) :=
  k.wider.attach.map (fun l => widenInt (IntKind.within_of_mem_wider l.2))
    ++ k.floats.map (intToFloat k)

/-- All widenings. -/
def allWidenings : List (Conversion κ) :=
  IntKind.all.flatMap widenings ++ [floatToFloat .f32 .f64]
    ++ IntKind.codeKinds.attach.map (fun l => charToInt (IntKind.within_of_mem_codeKinds l.2))

end Conversion

end TypedArguments
