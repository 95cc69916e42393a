import TypedArguments.Proofs.Number.Grammar

/-!
# Reading what was written

The numeral that is written for a number of a kind is one of the kind's grammar
(`Digits.numeral_ofInt`), so it is read as that number (`Digits.read_ofInt`).
-/

namespace TypedArguments

variable {k : IntKind}

/-- Only signed kinds hold negative numbers. -/
lemma IntKind.Holds.signed {n : Int} (h : k.Holds n) (neg : n < 0) : k.signed = true := by
  have below : k.least < 0 := Int.lt_of_le_of_lt h.1 neg
  unfold least at below
  split at below
  · assumption
  · exact absurd below (Int.lt_irrefl 0)

namespace Digits

/-- What is written for a number is a numeral that denotes it. -/
lemma numeral_ofInt (n : Bounded k) : Numeral k (ofInt n.val) n.val := by
  have digits : ∀ c ∈ ofNat n.val.natAbs, c.isDigit = true := fun _ => isDigit_of_mem_ofNat
  unfold ofInt
  split
  · next neg =>
    refine ⟨true, _, .minus _ (n.holds.signed neg), Nat.toDigits_ne_nil, digits, ?_⟩
    rw [toNat_ofNat, sign, if_pos rfl]
    omega
  · next nonneg =>
    refine ⟨false, _, .none _, Nat.toDigits_ne_nil, digits, ?_⟩
    rw [toNat_ofNat, sign, if_neg Bool.false_ne_true]
    omega

/-- The numeral of a number of a kind is read as that number. -/
theorem read_ofInt (n : Bounded k) : read k (ofInt n.val) = .ok n :=
  read_eq_iff.2 (.number (numeral_ofInt n))

end Digits

end TypedArguments
