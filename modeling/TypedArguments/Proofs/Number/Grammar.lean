import Mathlib.Tactic.Lemma
import TypedArguments.Number.Digits

/-!
# The grammar of numerals

A numeral is one or more digits after an optional sign, where only signed kinds have a minus sign
(`Digits.Numeral`). What a text is read as is described by `Digits.Reads`: a numeral in range is
read as its number, a text whose digits leave the range is out of range whatever comes after them
(`Digits.Overflows`), and any other text has an invalid digit, unless it is empty. The reader
follows this description exactly (`read_eq_iff`).

The digits are read onto a number, and the induction is over them (`accumulate_accumulates`). The
number never leaves the range between zero and the whole (`IntKind.Holds.toward_zero`), and below
zero it counts downwards from the first digit on, so the least number of a signed kind is reached
without its absolute value.
-/

namespace TypedArguments

variable {k : IntKind}

namespace Digits

/-- A natural number with a sign. -/
def sign (negative : Bool) (m : Nat) : Int :=
  if negative then -m else m

/-- One digit more makes the number ten times as large, and the digit adds to it away from zero. -/
lemma push_sign (negative : Bool) (m d : Nat) :
    push negative (sign negative m) d = sign negative (10 * m + d) := by
  cases negative with
  | false => simp only [push, sign, Bool.false_eq_true, if_false]; omega
  | true => simp only [push, sign, if_true]; omega

end Digits

open Digits

/-- A kind that holds a number holds every number between it and zero. -/
lemma IntKind.Holds.toward_zero {negative : Bool} {m n : Nat} (h : k.Holds (sign negative n))
    (le : m ≤ n) : k.Holds (sign negative m) := by
  obtain ⟨least, greatest⟩ := k.holds_zero
  cases negative with
  | false =>
    refine ⟨Int.le_trans least (Int.natCast_nonneg m), Int.le_trans ?_ h.2⟩
    exact Int.ofNat_le.2 le
  | true =>
    refine ⟨Int.le_trans h.1 ?_, Int.le_trans ?_ greatest⟩
    · exact Int.neg_le_neg (Int.ofNat_le.2 le)
    · exact Int.neg_nonpos_of_nonneg (Int.natCast_nonneg m)

/-- Every kind holds zero, with either sign. -/
lemma IntKind.holds_sign_zero (negative : Bool) : k.Holds (sign negative 0) := by
  cases negative with
  | false => exact k.holds_zero
  | true => exact k.holds_zero

namespace Digits

variable {negative : Bool} {c : Char} {cs : List Char} {m : Nat}

/-- The value of a digit is its distance from the zero. -/
lemma value?_of_isDigit (h : c.isDigit = true) : value? c = some (c.toNat - '0'.toNat) :=
  if_pos h

/-- Other characters have no value. -/
lemma value?_of_not_isDigit (h : ¬ c.isDigit = true) : value? c = none :=
  if_neg h

/-- More digits make no smaller number. -/
lemma le_ofDigitChars (cs : List Char) (m : Nat) : m ≤ Nat.ofDigitChars 10 cs m := by
  induction cs generalizing m with
  | nil => exact Nat.le_refl m
  | cons c cs ih =>
    rw [Nat.ofDigitChars_cons]
    calc m ≤ 10 * m + (c.toNat - '0'.toNat) := by omega
      _ ≤ _ := ih _

/-- The fault of a number out of range. -/
def limit (negative : Bool) : IntegerFault :=
  if negative then .tooSmall else .tooLarge

/-- Some of the digits at the beginning, written after the number `m`, make a number out of
range. -/
def Leaves (k : IntKind) (negative : Bool) (m : Nat) (cs : List Char) : Prop :=
  ∃ ds, ds <+: cs ∧ (∀ d ∈ ds, d.isDigit = true) ∧
    ¬ k.Holds (sign negative (Nat.ofDigitChars 10 ds m))

namespace Leaves

/-- A number in range leaves the range only by more digits. -/
lemma ne_nil (h : Leaves k negative m cs) (hm : k.Holds (sign negative m)) : cs ≠ [] := by
  rintro rfl
  obtain ⟨ds, before, _, out⟩ := h
  rw [List.prefix_nil.1 before] at out
  exact out hm

/-- One digit is read before the others, and a character that is no digit ends the reading. -/
lemma cons_iff (hm : k.Holds (sign negative m)) :
    Leaves k negative m (c :: cs) ↔
      c.isDigit = true ∧ Leaves k negative (10 * m + (c.toNat - '0'.toNat)) cs := by
  constructor
  · rintro ⟨ds, before, digits, out⟩
    obtain rfl | ⟨ds, rfl, before'⟩ := List.prefix_cons_iff.1 before
    · exact absurd hm out
    · obtain ⟨hc, digits⟩ := List.forall_mem_cons.1 digits
      exact ⟨hc, ds, before', digits, out⟩
  · rintro ⟨hc, ds, before, digits, out⟩
    exact ⟨c :: ds, List.prefix_cons_iff.2 (.inr ⟨ds, rfl, before⟩),
      List.forall_mem_cons.2 ⟨hc, digits⟩, out⟩

/-- If some digits make a number out of range, all of them do. -/
lemma not_holds (h : Leaves k negative m cs) :
    ¬ k.Holds (sign negative (Nat.ofDigitChars 10 cs m)) := by
  obtain ⟨ds, ⟨rest, rfl⟩, _, out⟩ := h
  intro range
  rw [Nat.ofDigitChars_append] at range
  exact out (range.toward_zero (le_ofDigitChars rest _))

end Leaves

/-- What comes of reading characters onto the number `m`. -/
inductive Accumulates (k : IntKind) (negative : Bool) (m : Nat) (cs : List Char) :
    Except IntegerFault (Bounded k) → Prop where
  | number {n : Bounded k} :
    (∀ c ∈ cs, c.isDigit = true) →
    n.val = sign negative (Nat.ofDigitChars 10 cs m) →
    Accumulates k negative m cs (.ok n)
  | range :
    Leaves k negative m cs →
    Accumulates k negative m cs (.error (limit negative))
  | digit :
    ¬ (∀ c ∈ cs, c.isDigit = true) →
    ¬ Leaves k negative m cs →
    Accumulates k negative m cs (.error .invalidDigit)

/-- A digit is read before the others, after a number in range. -/
lemma Accumulates.cons {r : Except IntegerFault (Bounded k)} (hm : k.Holds (sign negative m))
    (hc : c.isDigit = true)
    (h : Accumulates k negative (10 * m + (c.toNat - '0'.toNat)) cs r) :
    Accumulates k negative m (c :: cs) r := by
  cases h with
  | number digits hn => exact .number (List.forall_mem_cons.2 ⟨hc, digits⟩) hn
  | range leaves => exact .range ((Leaves.cons_iff hm).2 ⟨hc, leaves⟩)
  | digit digits leaves =>
    refine .digit ?_ ?_
    · exact fun all => digits (List.forall_mem_cons.1 all).2
    · exact fun out => leaves ((Leaves.cons_iff hm).1 out).2

/-- The reader gives what comes of reading the characters. -/
lemma accumulate_accumulates {acc : Bounded k} (hacc : acc.val = sign negative m) :
    Accumulates k negative m cs (accumulate k negative acc cs) := by
  -- on the characters, for any number read so far, which is in range since `acc` is
  induction cs generalizing m acc with
  | nil => exact .number nofun hacc
  | cons c cs ih =>
    have hm : k.Holds (sign negative m) := hacc ▸ acc.holds
    by_cases hc : c.isDigit = true
    · rw [accumulate, value?_of_isDigit hc]
      simp only [hacc, push_sign]
      by_cases range : k.Holds (sign negative (10 * m + (c.toNat - '0'.toNat)))
      · simp only [Bounded.ofInt?, dif_pos range]
        exact (ih rfl).cons hm hc
      · simp only [Bounded.ofInt?, dif_neg range]
        have leaves : Leaves k negative (10 * m + (c.toNat - '0'.toNat)) cs :=
          ⟨[], List.nil_prefix, nofun, range⟩
        exact .range ((Leaves.cons_iff hm).2 ⟨hc, leaves⟩)
    · rw [accumulate, value?_of_not_isDigit hc]
      refine .digit ?_ ?_
      · exact fun all => hc (all c List.mem_cons_self)
      · exact fun out => hc ((Leaves.cons_iff hm).1 out).1

/-- The text is the characters `ds` after a sign that the kind has, or without one. -/
inductive Signed (k : IntKind) : List Char → Bool → List Char → Prop where
  | none (ds : List Char) : Signed k ds false ds
  | plus (ds : List Char) : Signed k ('+' :: ds) false ds
  | minus (ds : List Char) : k.signed = true → Signed k ('-' :: ds) true ds

/-- The text is a numeral: digits after an optional sign. It denotes the number `n`. -/
def Numeral (k : IntKind) (cs : List Char) (n : Int) : Prop :=
  ∃ negative ds, Signed k cs negative ds ∧ ds ≠ [] ∧ (∀ d ∈ ds, d.isDigit = true) ∧
    n = sign negative (toNat ds)

/-- The digits at the beginning of the text, after a sign or without one, leave the range of the
kind. -/
def Overflows (k : IntKind) (negative : Bool) (cs : List Char) : Prop :=
  ∃ ds, Signed k cs negative ds ∧ Leaves k negative 0 ds

/-- There is a digit at the beginning. -/
def DigitFirst (cs : List Char) : Prop :=
  ∃ c ∈ cs.head?, c.isDigit = true

/-- Some digits have a digit at the beginning. -/
lemma digitFirst_of_forall {ds : List Char} (some_digit : ds ≠ [])
    (digits : ∀ d ∈ ds, d.isDigit = true) : DigitFirst ds := by
  cases ds with
  | nil => exact absurd rfl some_digit
  | cons d ds => exact ⟨d, rfl, digits d List.mem_cons_self⟩

/-- A text that leaves the range from zero has a digit at the beginning. -/
lemma Leaves.digitFirst (h : Leaves k negative 0 cs) : DigitFirst cs := by
  have hm : k.Holds (sign negative 0) := IntKind.holds_sign_zero negative
  cases cs with
  | nil => exact absurd rfl (h.ne_nil hm)
  | cons c cs => exact ⟨c, rfl, ((Leaves.cons_iff hm).1 h).1⟩

/-- The text is `ds` after a sign or without one, and in no other way if there is to be a digit
first. -/
structure Splits (k : IntKind) (cs : List Char) (negative : Bool) (ds : List Char) : Prop where
  signed : Signed k cs negative ds
  only : ∀ {negative' ds'}, Signed k cs negative' ds' → DigitFirst ds' →
    negative' = negative ∧ ds' = ds

/-- The reader takes off the sign. -/
lemma exists_splits (k : IntKind) (c : Char) (cs : List Char) :
    ∃ negative ds, Splits k (c :: cs) negative ds ∧
      read k (c :: cs) =
        if ds.isEmpty then .error .invalidDigit else accumulate k negative (.zero k) ds := by
  by_cases plus : c = '+'
  · subst plus
    refine ⟨false, cs, ⟨.plus cs, ?_⟩, rfl⟩
    rintro _ _ (_ | _) ⟨d, first, digit⟩
    · cases first
      cases digit
    · exact ⟨rfl, rfl⟩
  · by_cases minus : c = '-' ∧ k.signed = true
    · obtain ⟨rfl, hk⟩ := minus
      refine ⟨true, cs, ⟨.minus cs hk, ?_⟩, ?_⟩
      · rintro _ _ (_ | _) ⟨d, first, digit⟩
        · cases first
          cases digit
        · exact ⟨rfl, rfl⟩
      · rw [read, if_neg plus, if_pos ⟨rfl, hk⟩, read.signed]
    · refine ⟨false, c :: cs, ⟨.none _, ?_⟩, ?_⟩
      · intro _ _ signed _
        cases signed with
        | none => exact ⟨rfl, rfl⟩
        | plus => exact absurd rfl plus
        | minus _ hk => exact absurd ⟨rfl, hk⟩ minus
      · rw [read, if_neg plus, if_neg minus]
        rfl

/-- Every text with a character in it is split at its sign. -/
lemma exists_splits_of_ne_nil (some_char : cs ≠ []) :
    ∃ negative ds, Splits k cs negative ds := by
  obtain ⟨c, cs, rfl⟩ := List.exists_cons_of_ne_nil some_char
  obtain ⟨negative, ds, splits, _⟩ := exists_splits k c cs
  exact ⟨negative, ds, splits⟩

namespace Splits

variable {ds : List Char} (h : Splits k cs negative ds)

include h

/-- A numeral has digits, and nothing else, after its sign. -/
lemma numeral_iff {n : Int} : Numeral k cs n ↔
    ds ≠ [] ∧ (∀ d ∈ ds, d.isDigit = true) ∧ n = sign negative (toNat ds) := by
  constructor
  · rintro ⟨_, _, signed, some_digit, digits, hn⟩
    obtain ⟨rfl, rfl⟩ := h.only signed (digitFirst_of_forall some_digit digits)
    exact ⟨some_digit, digits, hn⟩
  · exact fun numeral => ⟨negative, ds, h.signed, numeral⟩

/-- The text overflows where the characters after its sign leave the range. -/
lemma overflows_iff {negative' : Bool} :
    Overflows k negative' cs ↔ negative' = negative ∧ Leaves k negative 0 ds := by
  constructor
  · rintro ⟨_, signed, leaves⟩
    obtain ⟨rfl, rfl⟩ := h.only signed leaves.digitFirst
    exact ⟨rfl, leaves⟩
  · rintro ⟨rfl, leaves⟩
    exact ⟨ds, h.signed, leaves⟩

end Splits

/-- What a text is read as. -/
inductive Reads (k : IntKind) (cs : List Char) : Except IntegerFault (Bounded k) → Prop where
  | empty :
    cs = [] →
    Reads k cs (.error .empty)
  | number {n : Bounded k} :
    Numeral k cs n.val →
    Reads k cs (.ok n)
  | range {negative : Bool} :
    Overflows k negative cs →
    Reads k cs (.error (limit negative))
  | digit :
    cs ≠ [] →
    (∀ n : Bounded k, ¬ Numeral k cs n.val) →
    (∀ negative, ¬ Overflows k negative cs) →
    Reads k cs (.error .invalidDigit)

/-- The reader reads a text as what it is. -/
lemma read_reads (k : IntKind) (cs : List Char) : Reads k cs (read k cs) := by
  cases cs with
  | nil => exact .empty rfl
  | cons c cs =>
    obtain ⟨negative, ds, splits, e⟩ := exists_splits k c cs
    rw [e]
    by_cases some_digit : ds = []
    · subst some_digit
      refine .digit nofun ?_ ?_
      · exact fun n numeral => (splits.numeral_iff.1 numeral).1 rfl
      · intro negative' out
        exact (splits.overflows_iff.1 out).2.ne_nil (IntKind.holds_sign_zero negative) rfl
    · rw [List.isEmpty_eq_false_iff.2 some_digit, if_neg Bool.false_ne_true]
      have zero : (Bounded.zero k).val = sign negative 0 := by
        cases negative with
        | false => rfl
        | true => rfl
      have comes : Accumulates k negative 0 ds (accumulate k negative (.zero k) ds) :=
        accumulate_accumulates zero
      generalize accumulate k negative (.zero k) ds = r at comes
      cases comes with
      | number digits hn => exact .number (splits.numeral_iff.2 ⟨some_digit, digits, hn⟩)
      | range leaves => exact .range (splits.overflows_iff.2 ⟨rfl, leaves⟩)
      | digit digits leaves =>
        refine .digit nofun ?_ ?_
        · exact fun n numeral => digits (splits.numeral_iff.1 numeral).2.1
        · exact fun _ out => leaves (splits.overflows_iff.1 out).2

/-- A numeral is not empty. -/
lemma Numeral.ne_nil {n : Int} (h : Numeral k cs n) : cs ≠ [] := by
  rintro rfl
  obtain ⟨_, _, _ | _, some_digit, _⟩ := h
  exact some_digit rfl

/-- A text that overflows is not empty. -/
lemma Overflows.ne_nil (h : Overflows k negative cs) : cs ≠ [] := by
  rintro rfl
  obtain ⟨_, _ | _, leaves⟩ := h
  exact leaves.ne_nil (IntKind.holds_sign_zero false) rfl

/-- A numeral denotes one number. -/
lemma Numeral.unique {n n' : Int} (h : Numeral k cs n) (h' : Numeral k cs n') : n = n' := by
  obtain ⟨_, _, splits⟩ := exists_splits_of_ne_nil h.ne_nil
  rw [(splits.numeral_iff.1 h).2.2, (splits.numeral_iff.1 h').2.2]

/-- A text overflows on one side only. -/
lemma Overflows.unique {negative' : Bool} (h : Overflows k negative cs)
    (h' : Overflows k negative' cs) : negative = negative' := by
  obtain ⟨_, _, splits⟩ := exists_splits_of_ne_nil h.ne_nil
  exact (splits.overflows_iff.1 h).1.trans (splits.overflows_iff.1 h').1.symm

/-- The digits of a numeral in range are never out of range. -/
lemma Overflows.not_numeral (h : Overflows k negative cs) (n : Bounded k) :
    ¬ Numeral k cs n.val := by
  intro numeral
  obtain ⟨_, _, splits⟩ := exists_splits_of_ne_nil h.ne_nil
  obtain ⟨_, leaves⟩ := splits.overflows_iff.1 h
  obtain ⟨_, _, hn⟩ := splits.numeral_iff.1 numeral
  -- all the digits make the number that the numeral denotes, which is in range
  apply leaves.not_holds
  rw [← toNat, ← hn]
  exact n.holds

/-- A text is read in one way. -/
lemma Reads.unique {r r' : Except IntegerFault (Bounded k)} (h : Reads k cs r)
    (h' : Reads k cs r') : r = r' := by
  cases h with
  | empty nil =>
    cases h' with
    | empty => rfl
    | number numeral => exact absurd nil numeral.ne_nil
    | range out => exact absurd nil out.ne_nil
    | digit some_char => exact absurd nil some_char
  | number numeral =>
    cases h' with
    | empty nil => exact absurd nil numeral.ne_nil
    | number numeral' => rw [Bounded.ext (numeral.unique numeral')]
    | range out => exact absurd numeral (out.not_numeral _)
    | digit _ none => exact absurd numeral (none _)
  | range out =>
    cases h' with
    | empty nil => exact absurd nil out.ne_nil
    | number numeral => exact absurd numeral (out.not_numeral _)
    | range out' => rw [out.unique out']
    | digit _ _ none => exact absurd out (none _)
  | digit some_char none none' =>
    cases h' with
    | empty nil => exact absurd nil some_char
    | number numeral => exact absurd numeral (none _)
    | range out => exact absurd out (none' _)
    | digit => rfl

/-- What the reader gives is what a text is read as. -/
theorem read_eq_iff {r : Except IntegerFault (Bounded k)} : read k cs = r ↔ Reads k cs r := by
  constructor
  · rintro rfl
    exact read_reads k cs
  · exact (read_reads k cs).unique

/-- The numerals in range are read, each as its number. -/
theorem read_eq_ok_iff {n : Bounded k} : read k cs = .ok n ↔ Numeral k cs n.val := by
  rw [read_eq_iff]
  constructor
  · rintro ⟨⟩
    assumption
  · exact .number

/-- What is wrong with a text that is no numeral in range. -/
def HasFault (k : IntKind) (cs : List Char) : IntegerFault → Prop
  | .empty => cs = []
  | .tooLarge => Overflows k false cs
  | .tooSmall => Overflows k true cs
  | .invalidDigit => cs ≠ [] ∧ ∀ negative, ¬ Overflows k negative cs

/-- All other texts are refused, each for its fault. -/
theorem read_eq_error_iff {fault : IntegerFault} :
    read k cs = .error fault ↔ (∀ n : Bounded k, ¬ Numeral k cs n.val) ∧ HasFault k cs fault := by
  rw [read_eq_iff]
  constructor
  · intro reads
    cases reads with
    | empty nil => exact ⟨fun _ numeral => numeral.ne_nil nil, nil⟩
    | @range negative out =>
      refine ⟨out.not_numeral, ?_⟩
      cases negative with
      | false => exact out
      | true => exact out
    | digit some_char none none' => exact ⟨none, some_char, none'⟩
  · rintro ⟨none, has⟩
    cases fault with
    | empty => exact .empty has
    | tooLarge => exact @Reads.range k cs false has
    | tooSmall => exact @Reads.range k cs true has
    | invalidDigit => exact .digit has.1 none has.2

end Digits

end TypedArguments
