/-!
# Integer kinds

The twelve kinds of bounded integers and the integers they hold. `IntKind.Holds` says which
integers belong to a kind, `IntKind.Within` that one kind's range lies inside another's, and
`Bounded.widen` moves a number along such an inclusion without changing it.
-/

namespace TypedArguments

/-- The bounded integer kinds; `isize` and `usize` have the width of an address. -/
inductive IntKind where
  | i8 | i16 | i32 | i64 | i128 | isize
  | u8 | u16 | u32 | u64 | u128 | usize
  deriving DecidableEq

namespace IntKind

/-- Every kind, the signed ones first. -/
def all : List IntKind :=
  [.i8, .i16, .i32, .i64, .i128, .isize, .u8, .u16, .u32, .u64, .u128, .usize]

/-- Every kind is listed. -/
theorem mem_all (k : IntKind) : k ∈ all := by
  cases k <;> decide

/-- The kinds that hold negative numbers. -/
def signed : IntKind → Bool
  | .i8 | .i16 | .i32 | .i64 | .i128 | .isize => true
  | .u8 | .u16 | .u32 | .u64 | .u128 | .usize => false

/-- Width in bits; an address has 64. -/
def bits : IntKind → Nat
  | .i8 | .u8 => 8
  | .i16 | .u16 => 16
  | .i32 | .u32 => 32
  | .i64 | .u64 | .isize | .usize => 64
  | .i128 | .u128 => 128

/-- The least number of a kind. -/
def least (k : IntKind) : Int :=
  if k.signed then -(Nat.pow 2 (k.bits - 1) : Int) else 0

/-- The greatest number of a kind. -/
def greatest (k : IntKind) : Int :=
  if k.signed then (Nat.pow 2 (k.bits - 1) : Int) - 1 else (Nat.pow 2 k.bits : Int) - 1

/-- The number lies in the range of the kind. -/
def Holds (k : IntKind) (n : Int) : Prop :=
  k.least ≤ n ∧ n ≤ k.greatest

instance (k : IntKind) (n : Int) : Decidable (k.Holds n) :=
  inferInstanceAs (Decidable (_ ∧ _))

/-- The range of `k` lies inside the range of `l`. -/
def Within (k l : IntKind) : Prop :=
  l.least ≤ k.least ∧ k.greatest ≤ l.greatest

instance (k l : IntKind) : Decidable (k.Within l) :=
  inferInstanceAs (Decidable (_ ∧ _))

/-- A wider kind holds the number as well. -/
theorem Holds.widen {k l : IntKind} {n : Int} (h : k.Holds n) (kl : k.Within l) : l.Holds n :=
  ⟨Int.le_trans kl.1 h.1, Int.le_trans h.2 kl.2⟩

/-- Every kind holds zero. -/
theorem holds_zero (k : IntKind) : k.Holds 0 := by
  cases k <;> decide

/-- The name of a kind as types are written. -/
def name : IntKind → String
  | .i8 => "i8" | .i16 => "i16" | .i32 => "i32" | .i64 => "i64" | .i128 => "i128"
  | .isize => "isize"
  | .u8 => "u8" | .u16 => "u16" | .u32 => "u32" | .u64 => "u64" | .u128 => "u128"
  | .usize => "usize"

end IntKind

/-- An integer in the range of its kind. -/
structure Bounded (k : IntKind) where
  val : Int
  holds : k.Holds val
  deriving DecidableEq

namespace Bounded

variable {k l : IntKind}

/-- Two numbers of a kind are equal when they are the same integer. -/
theorem ext {a b : Bounded k} (h : a.val = b.val) : a = b := by
  cases a
  cases b
  cases h
  rfl

/-- The number zero, which every kind holds. -/
def zero (k : IntKind) : Bounded k :=
  ⟨0, k.holds_zero⟩

/-- The integer as a number of the kind, if it is in range. -/
def ofInt? (k : IntKind) (n : Int) : Option (Bounded k) :=
  if h : k.Holds n then some ⟨n, h⟩ else none

/-- Taking in an integer keeps it. -/
theorem val_of_ofInt? {n : Int} {a : Bounded k} (h : ofInt? k n = some a) : a.val = n := by
  unfold ofInt? at h
  split at h
  · cases h
    rfl
  · cases h

/-- Exactly the integers in range are taken in. -/
theorem isSome_ofInt? {n : Int} : (ofInt? k n).isSome = true ↔ k.Holds n := by
  unfold ofInt?
  by_cases h : k.Holds n
  · simp [h]
  · simp [h]

/-- The same number in a kind with a wider range. -/
def widen (kl : k.Within l) (a : Bounded k) : Bounded l :=
  ⟨a.val, a.holds.widen kl⟩

/-- Widening keeps the number. -/
@[simp] theorem val_widen (kl : k.Within l) (a : Bounded k) : (a.widen kl).val = a.val := rfl

end Bounded

end TypedArguments
