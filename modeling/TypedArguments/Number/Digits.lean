import TypedArguments.Number.IntKind

/-!
# Decimal numerals

Integers as decimal text. `Digits.ofInt` writes a number without leading zeros, and `Digits.read`
reads a numeral into a kind, with the reason when it does not denote a number of that kind. The
reader stops at the first character that does not fit, and that character decides the reason.
-/

namespace TypedArguments

/-- Why a text is no number of an integer kind. -/
inductive IntegerFault where
  | empty
  | invalidDigit
  | tooLarge
  | tooSmall
  deriving DecidableEq

/-- The wording of each reason. -/
def IntegerFault.message : IntegerFault → String
  | .empty => "cannot parse integer from empty string"
  | .invalidDigit => "invalid digit found in string"
  | .tooLarge => "number too large to fit in target type"
  | .tooSmall => "number too small to fit in target type"

namespace Digits

/-- The digits of a natural number, the highest first. -/
def ofNat (n : Nat) : List Char :=
  Nat.toDigits 10 n

/-- The numeral of an integer: a minus sign before the digits of a negative one. -/
def ofInt (n : Int) : List Char :=
  if n < 0 then '-' :: ofNat n.natAbs else ofNat n.natAbs

/-- The value of a decimal digit. -/
def value? (c : Char) : Option Nat :=
  if c.isDigit then some (c.toNat - '0'.toNat) else none

/-- The number that a list of digits denotes. -/
def toNat (cs : List Char) : Nat :=
  Nat.ofDigitChars 10 cs 0

/-- The digits of a number denote it. -/
@[simp] theorem toNat_ofNat (n : Nat) : toNat (ofNat n) = n :=
  Nat.ofDigitChars_toDigits (by decide) (by decide)

/-- Writing uses digits only. -/
theorem isDigit_of_mem_ofNat {n : Nat} {c : Char} (h : c ∈ ofNat n) : c.isDigit = true :=
  Nat.isDigit_of_mem_toDigits (by decide) (by decide) h

/-- The number that one more digit makes of `acc`; below zero, digits count downwards. -/
def push (negative : Bool) (acc : Int) (d : Nat) : Int :=
  if negative then acc * 10 - d else acc * 10 + d

/-- Reads the remaining characters onto `acc`, one at a time: one that is no digit ends the
reading, and so does a digit that takes the number out of range. -/
def accumulate (k : IntKind) (negative : Bool) : Bounded k → List Char →
    Except IntegerFault (Bounded k)
  | acc, [] => .ok acc
  | acc, c :: cs =>
    match value? c with
    | none => .error .invalidDigit
    | some d =>
      match Bounded.ofInt? k (push negative acc.val d) with
      | some next => accumulate k negative next cs
      | none => .error (if negative then .tooSmall else .tooLarge)

/-- Reads a numeral: digits after an optional sign, a minus sign only for a signed kind. -/
def read (k : IntKind) : List Char → Except IntegerFault (Bounded k)
  | [] => .error .empty
  | c :: cs =>
    if c = '+' then signed false cs
    else if c = '-' ∧ k.signed then signed true cs
    else accumulate k false (.zero k) (c :: cs)
where
  /-- After a sign there must be a digit. -/
  signed (negative : Bool) (cs : List Char) : Except IntegerFault (Bounded k) :=
    if cs.isEmpty then .error .invalidDigit else accumulate k negative (.zero k) cs

end Digits

end TypedArguments
