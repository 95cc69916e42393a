import TypedArguments.Proofs.Number.Rational
import TypedArguments.Proofs.Standard.Basic

/-!
# Floating-point numbers in the standard context

A number is read as a floating-point one only where the format holds every number of its kind
(`Scalar.FitsFloat`): the integers that are no longer than a significand, and the short format in
the long one. Then it is read exactly, and otherwise it is refused (`Settings.float_reads`). The
converters are those of the widenings (`Conversion.carries_of_mem_allWidenings`).
-/

namespace TypedArguments

/-- The range of a kind is within its bits, on both sides of zero. -/
lemma IntKind.bits_bound (k : IntKind) :
    -(2 ^ k.bits : ℤ) < k.least ∧ k.greatest < (2 ^ k.bits : ℤ) := by
  cases k <;> decide

/-- The absolute value of a number fits in the bits of its kind. -/
lemma Bounded.natAbs_lt {k : IntKind} (n : Bounded k) : n.val.natAbs < 2 ^ k.bits := by
  have bound := k.bits_bound
  have holds := n.holds
  have least : -((2 ^ k.bits : ℕ) : ℤ) < n.val := by
    exact_mod_cast bound.1.trans_le holds.1
  have greatest : n.val < ((2 ^ k.bits : ℕ) : ℤ) := by
    exact_mod_cast holds.2.trans_lt bound.2
  omega

/-- A kind is widened to the floating-point kinds whose significand is as long as it. -/
lemma IntKind.mem_floats_iff {k : IntKind} {l : FloatKind} :
    l ∈ k.floats ↔ k.bits ≤ l.fractionBits + 1 := by
  cases k <;> cases l <;> decide

namespace Scalar

/-- The floating-point kind holds every number of the scalar. -/
def FitsFloat : Scalar → FloatKind → Prop
  | .int k, l => k.bits ≤ l.fractionBits + 1
  | .float k, l => k = .f32 ∧ l = .f64
  | _, _ => False

/-- The pattern is that of the value: it denotes the integer, with a plain zero for zero, or keeps
what the other pattern is. -/
def Carries {l : FloatKind} : (s : Scalar) → s.Val → Pattern l → Prop
  | .int _, n, p => p.Denotes n.val ∧ (n.val = 0 → p.toBits = 0)
  | .float _, q, p => q.Widens p
  | _, _, _ => False

/-- What a floating-point kind holds is no text. -/
lemma not_isText_of_fitsFloat {κ : Type} {s : Scalar} {l : FloatKind} (h : s.FitsFloat l) :
    ¬ (Ty.scalar s : Ty κ).IsText := by
  rw [Ty.isText_scalar]
  rintro (rfl | rfl)
  · exact h
  · exact h

end Scalar

/-- The pattern made of an integer that fits is that of its value. -/
lemma Pattern.carries_ofInt {k : IntKind} {l : FloatKind} (h : k.bits ≤ l.fractionBits + 1)
    (n : Bounded k) : Scalar.Carries (.int k) n (Pattern.ofInt l n.val) := by
  have short : n.val.natAbs < 2 * l.fractions :=
    calc n.val.natAbs < 2 ^ k.bits := n.natAbs_lt
      _ ≤ 2 ^ (l.fractionBits + 1) := Nat.pow_le_pow_right two_pos h
      _ = 2 * l.fractions := by rw [l.fractions_eq, pow_succ, Nat.mul_comm]
  refine ⟨Pattern.ofInt_denotes short, ?_⟩
  intro zero
  rw [zero]
  exact Pattern.ofInt_zero l

namespace Conversion

variable {κ : Type} [UserTypes κ] {s : Scalar} {l : FloatKind}

/-- The widenings to a floating-point kind start from what it holds, and are exact. -/
lemma carries_of_mem_allWidenings {c : Converter (κ := κ) (.scalar s) (.scalar (.float l))}
    (h : ⟨.scalar s, .scalar (.float l), c⟩ ∈ allWidenings) :
    s.FitsFloat l ∧ ∀ v, ∃ p : Pattern l, c v = .ok p ∧ s.Carries v p := by
  cases mem_allWidenings.1 h with
  | float hl =>
    have fits := IntKind.mem_floats_iff.1 hl
    exact ⟨fits, fun n => ⟨Pattern.ofInt l n.val, rfl, Pattern.carries_ofInt fits n⟩⟩
  | double => exact ⟨⟨rfl, rfl⟩, fun p => ⟨p.convert .f64, rfl, p.convert_widens⟩⟩

/-- There is a widening for everything that a floating-point kind holds. -/
lemma exists_mem_allWidenings_float (h : s.FitsFloat l) :
    ∃ c ∈ allWidenings (κ := κ), c.pair = (.scalar s, .scalar (.float l)) := by
  cases s with
  | int k => exact ⟨_, mem_allWidenings.2 (.float (IntKind.mem_floats_iff.2 h)), rfl⟩
  | float k =>
    obtain ⟨rfl, rfl⟩ := h
    exact ⟨_, mem_allWidenings.2 .double, rfl⟩
  | _ => exact h.elim

end Conversion

variable {κ : Type} [UserTypes κ] [DecidableEq κ]

namespace Settings

variable {a : Settings} {s : Scalar} {l : FloatKind} (f g : Form) (rendering : String)

/-- What a floating-point kind holds is read exactly, in any forms. -/
lemma exists_carries (fits : s.FitsFloat l) (v : s.Val) :
    ∃ p : Pattern l, ((a.context : Context κ).convert
      (.stored ⟨f.type (.scalar s), f.put v⟩ rendering) (g.type (.scalar (.float l)))).result =
        .ok (g.put p) ∧ s.Carries v p := by
  obtain ⟨d, hd, pair⟩ := Conversion.exists_mem_allWidenings_float (κ := κ) fits
  have widened : a.context.contains (.scalar s) (.scalar (.float l) : Ty κ) = true :=
    contains_of_knows (.inl hd) pair
  obtain ⟨c, hc⟩ := Context.contains_iff.1 widened
  have widening := mem_allWidenings_of_find? (Scalar.not_isText_of_fitsFloat fits) hc
  obtain ⟨p, hp, carries⟩ := (Conversion.carries_of_mem_allWidenings widening).2 v
  have ne : s ≠ .float l := by
    rintro rfl
    obtain ⟨rfl, e⟩ := fits
    cases e
  exact ⟨p, convert_of_find? f g rendering ne hc hp, carries⟩

/-- Whatever else is no text is refused. -/
lemma float_refused (notText : ¬ (Ty.scalar s : Ty κ).IsText) (ne : s ≠ .float l)
    (large : ¬ s.FitsFloat l) (v : s.Val) :
    ((a.context : Context κ).convert (.stored ⟨f.type (.scalar s), f.put v⟩ rendering)
      (g.type (.scalar (.float l)))).result =
        .error (.unsupported (f.type (.scalar s) : Ty κ).name
          (g.type (.scalar (.float l)) : Ty κ).name) := by
  apply convert_scalar_unregistered f g rendering v ne
  rw [Context.contains_eq_false, Option.eq_none_iff_forall_ne_some]
  intro c hc
  exact large (Conversion.carries_of_mem_allWidenings (mem_allWidenings_of_find? notText hc)).1

/-- Under any settings and in any forms, an integer is read exactly as a floating-point number whose
significand is as long as its kind, with a plain zero for zero; the numbers of the short format are
read exactly in the long one, with their signs, and so are what is infinite and what is no number;
and no other scalar that is no text is read as a floating-point number of another kind. -/
theorem float_reads (a : Settings) (f g : Form) (rendering : String) :
    (∀ (k : IntKind) (l : FloatKind), k.bits ≤ l.fractionBits + 1 → ∀ n : Bounded k,
      ∃ p : Pattern l, ((a.context : Context κ).convert
        (.stored ⟨f.type (.scalar (.int k)), f.put n⟩ rendering)
        (g.type (.scalar (.float l)))).result = .ok (g.put p) ∧
          p.Denotes n.val ∧ (n.val = 0 → p.toBits = 0)) ∧
    (∀ q : Pattern .f32, ∃ p : Pattern .f64, ((a.context : Context κ).convert
      (.stored ⟨f.type (.scalar (.float .f32)), f.put q⟩ rendering)
      (g.type (.scalar (.float .f64)))).result = .ok (g.put p) ∧ q.Widens p) ∧
    ∀ (s : Scalar) (l : FloatKind), ¬ (Ty.scalar s : Ty κ).IsText → s ≠ .float l →
      ¬ s.FitsFloat l → ∀ v : s.Val, ((a.context : Context κ).convert
        (.stored ⟨f.type (.scalar s), f.put v⟩ rendering) (g.type (.scalar (.float l)))).result =
          .error (.unsupported (f.type (.scalar s) : Ty κ).name
            (g.type (.scalar (.float l)) : Ty κ).name) := by
  refine ⟨?_, ?_, ?_⟩
  · intro k l short n
    exact exists_carries (s := .int k) f g rendering short n
  · intro q
    exact exists_carries (s := .float .f32) f g rendering ⟨rfl, rfl⟩ q
  · intro s l notText ne large v
    exact float_refused f g rendering notText ne large v

namespace Least

/-- The least word of 16 bits. -/
def word : Bounded .i16 := ⟨-32768, by decide⟩

/-- The least byte. -/
def byte : Bounded .u8 := ⟨0, by decide⟩

/-- The least positive number of the short format. -/
def positive : Pattern .f32 := ⟨false, 1, by decide⟩

/-- The number of the least positive pattern is one unit. -/
lemma toRat_positive : positive.toRat = 1 / 2 ^ 149 := by
  have units : positive.units = 1 := rfl
  have sign : positive.sign = 1 := pow_zero (-1)
  have unit : FloatKind.f32.unitExponent = 149 := rfl
  rw [Pattern.toRat_eq, sign, units, FloatKind.one_eq, unit, one_mul, Nat.cast_one, Nat.cast_pow,
    Nat.cast_ofNat]

/-- The least word, optional, is read exactly in the short format, and the least positive number of
the short format in the long one; the zero of a byte is the plain zero; and a word of 32 bits is not
read in the short format. -/
theorem float_reads_least :
    (∃ p : Pattern .f32, (initial.context.convert
      (.stored ⟨(.option (.scalar (.int .i16)) : Ty Empty), some word⟩ "-32768")
      (.scalar (.float .f32))).result = .ok p ∧ p.Denotes (-32768)) ∧
    (∃ p : Pattern .f64, (initial.context.convert
      (.stored ⟨(.scalar (.float .f32) : Ty Empty), positive⟩ "1e-45")
      (.scalar (.float .f64))).result = .ok p ∧ p.Denotes (1 / 2 ^ 149)) ∧
    (∃ p : Pattern .f64, (initial.context.convert
      (.stored ⟨(.scalar (.int .u8) : Ty Empty), byte⟩ "0")
      (.option (.scalar (.float .f64)))).result = .ok (some p) ∧ p.toBits = 0) ∧
    (initial.context.convert (.stored ⟨(.scalar (.int .i32) : Ty Empty), ⟨7, by decide⟩⟩ "7")
      (.scalar (.float .f32))).result = .error (.unsupported "i32" "f32") := by
  have reads := float_reads (κ := Empty) initial
  refine ⟨?_, ?_, ?_, ?_⟩
  · obtain ⟨p, result, denotes, _⟩ :=
      (reads .optional .bare "-32768").1 .i16 .f32 (by decide) word
    refine ⟨p, result, ?_⟩
    rw [word] at denotes
    exact_mod_cast denotes
  · obtain ⟨p, result, widens⟩ := (reads .bare .bare "1e-45").2.1 positive
    rw [← toRat_positive]
    exact ⟨p, result, (widens.finite (by decide)).1⟩
  · obtain ⟨p, result, _, zero⟩ := (reads .bare .optional "0").1 .u8 .f64 (by decide) byte
    exact ⟨p, result, zero rfl⟩
  · have notText : ¬ (Ty.scalar (.int .i32) : Ty Empty).IsText := by
      simp [Ty.isText_scalar]
    have large : ¬ Scalar.FitsFloat (.int .i32) .f32 := by
      show ¬ 32 ≤ 24
      decide
    exact (reads .bare .bare "7").2.2 (.int .i32) .f32 notText (by decide) large ⟨7, by decide⟩

end Least

end Settings

end TypedArguments
