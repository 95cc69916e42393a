import TypedArguments.Proofs.Standard.Basic

/-!
# Integers in the standard context

No read of an integer, or of a character as its code point, changes the number
(`Settings.integer_reads`): where it is announced it gives the same number in the kind that is
wanted, and where it is not it is refused. The announced kinds are those to which a scalar is
widened (`Scalar.widerInts`), since the converters to integers are widenings
(`Settings.mem_allWidenings_of_find?`) and these keep the number
(`Conversion.keeps_of_mem_allWidenings`).
-/

namespace TypedArguments

namespace Scalar

/-- The integer that a value stands for: a number for itself, a character for its code point. -/
def integer? : (s : Scalar) → s.Val → Option Int
  | .int _, n => some n.val
  | .char, c => some c.toNat
  | _, _ => none

/-- The kinds of integer that a scalar is widened to. -/
def widerInts : Scalar → List IntKind
  | .int k => k.wider
  | .char => IntKind.codeKinds
  | _ => []

/-- What has an integer as its value is no text. -/
lemma not_isText_of_integer? {κ : Type} {s : Scalar} {v : s.Val} {n : Int}
    (hn : s.integer? v = some n) : ¬ (Ty.scalar s : Ty κ).IsText := by
  rw [Ty.isText_scalar]
  rintro (rfl | rfl)
  · cases hn
  · cases hn

end Scalar

variable {κ : Type} [UserTypes κ]

namespace Conversion

/-- Widening to an integer keeps the integer that a value stands for. -/
lemma keeps_of_mem_allWidenings {s : Scalar} {l : IntKind}
    {c : Converter (κ := κ) (.scalar s) (.scalar (.int l))}
    (h : ⟨.scalar s, .scalar (.int l), c⟩ ∈ allWidenings) :
    l ∈ s.widerInts ∧ ∀ v, ∃ m : Bounded l, c v = .ok m ∧ s.integer? v = some m.val := by
  cases mem_allWidenings.1 h with
  | int wide => exact ⟨wide, fun n => ⟨n.widen _, rfl, rfl⟩⟩
  | code wide => exact ⟨wide, fun c => ⟨(codePoint c).widen _, rfl, rfl⟩⟩

/-- There is a widening to every wider kind. -/
lemma exists_mem_allWidenings {s : Scalar} {l : IntKind} (h : l ∈ s.widerInts) :
    ∃ c ∈ allWidenings (κ := κ), c.pair = (.scalar s, .scalar (.int l)) := by
  cases s with
  | int k => exact ⟨_, mem_allWidenings.2 (.int h), rfl⟩
  | char => exact ⟨_, mem_allWidenings.2 (.code h), rfl⟩
  | _ => cases h

end Conversion

variable [DecidableEq κ]

namespace Settings

variable {a : Settings} {s : Scalar} {v : s.Val} {n : Int} {l : IntKind}

/-- From a scalar that stands for an integer, the wider kinds are announced, and its own. -/
lemma supports_int (hn : s.integer? v = some n) (f g : Form) :
    (a.context : Context κ).supports (f.type (.scalar s)) (g.type (.scalar (.int l))) = true ↔
      s = .int l ∨ l ∈ s.widerInts := by
  rw [supports_scalar]
  apply or_congr_right
  constructor
  · intro h
    obtain ⟨c, hc⟩ := Context.contains_iff.1 h
    exact (Conversion.keeps_of_mem_allWidenings
      (mem_allWidenings_of_find? (Scalar.not_isText_of_integer? hn) hc)).1
  · intro h
    obtain ⟨c, hc, pair⟩ := Conversion.exists_mem_allWidenings (κ := κ) h
    exact contains_of_knows (.inl hc) pair

/-- The value `v` of a scalar, stored in the form `f`, is read as an integer of the kind `l` in the
form `g`: if that is announced, as the number `n`, and otherwise not at all. -/
structure KeepsNumber (ctx : Context κ) (s : Scalar) (v : s.Val) (n : Int) (l : IntKind)
    (f g : Form) (rendering : String) : Prop where
  kept : ctx.supports (f.type (.scalar s)) (g.type (.scalar (.int l))) = true →
    ∃ m : Bounded l, m.val = n ∧
      (ctx.convert (.stored ⟨f.type (.scalar s), f.put v⟩ rendering)
        (g.type (.scalar (.int l)))).result = .ok (g.put m)
  refused : ctx.supports (f.type (.scalar s)) (g.type (.scalar (.int l))) = false →
    (ctx.convert (.stored ⟨f.type (.scalar s), f.put v⟩ rendering)
      (g.type (.scalar (.int l)))).result =
        .error (.unsupported (f.type (.scalar s) : Ty κ).name
          (g.type (.scalar (.int l)) : Ty κ).name)

/-- What stands for an integer is read as that integer. -/
lemma keepsNumber (hn : s.integer? v = some n) (l : IntKind) (f g : Form) (rendering : String) :
    KeepsNumber (κ := κ) a.context s v n l f g rendering where
  kept h := by
    by_cases e : s = .int l
    · subst e
      exact ⟨v, Option.some.inj hn, convert_scalar_self f g rendering v⟩
    · obtain ⟨c, hc⟩ := Context.contains_iff.1 (((supports_scalar f g).1 h).resolve_left e)
      have widening := mem_allWidenings_of_find? (Scalar.not_isText_of_integer? hn) hc
      obtain ⟨m, hm, same⟩ := (Conversion.keeps_of_mem_allWidenings widening).2 v
      exact ⟨m, Option.some.inj (same.symm.trans hn), convert_of_find? f g rendering e hc hm⟩
  refused h := by
    rw [← Bool.not_eq_true, supports_scalar, not_or, Bool.not_eq_true] at h
    exact convert_scalar_unregistered f g rendering v h.1 h.2

/-- Integers keep their number in every read under any settings, and characters are read as their
code points, in the kinds with at least 32 bits that hold no negative numbers. -/
theorem integer_reads (a : Settings) :
    (∀ (k l : IntKind) (n : Bounded k) (f g : Form) (rendering : String),
      KeepsNumber (κ := κ) a.context (.int k) n n.val l f g rendering ∧
      ((a.context : Context κ).supports (f.type (.scalar (.int k)))
        (g.type (.scalar (.int l))) = true ↔ k = l ∨ l ∈ k.wider)) ∧
    ∀ (l : IntKind) (c : Char) (f g : Form) (rendering : String),
      KeepsNumber (κ := κ) a.context .char c c.toNat l f g rendering ∧
      ((a.context : Context κ).supports (f.type (.scalar .char))
        (g.type (.scalar (.int l))) = true ↔ l = .u32 ∨ l = .u64 ∨ l = .u128) := by
  constructor
  · intro k l n f g rendering
    refine ⟨keepsNumber rfl l f g rendering, ?_⟩
    rw [supports_int (v := n) rfl f g]
    simp [Scalar.widerInts]
  · intro l c f g rendering
    refine ⟨keepsNumber rfl l f g rendering, ?_⟩
    rw [supports_int (v := c) rfl f g]
    simp [Scalar.widerInts, IntKind.codeKinds]

/-- A byte with its highest bit set, optional, is announced as an optional signed word of 16 bits
and keeps its number; as a signed byte it is not announced, and refused. -/
theorem high_byte_reads :
    (initial.context : Context Empty).supports (.option (.scalar (.int .u8)))
      (.option (.scalar (.int .i16))) = true ∧
    (∃ m : Bounded .i16, m.val = 200 ∧
      (initial.context.convert (.stored ⟨.option Context.Detour.byte, some ⟨200, by decide⟩⟩ "200")
        (.option (.scalar (.int .i16)))).result = .ok (some m)) ∧
    (initial.context.convert (.stored ⟨.option Context.Detour.byte, some ⟨200, by decide⟩⟩ "200")
      (.scalar (.int .i8))).result = .error (.unsupported "core::option::Option<u8>" "i8") := by
  have reads := (integer_reads (κ := Empty) initial).1 .u8
  have announced := (reads .i16 ⟨200, by decide⟩ .optional .optional "200").2.2 (by decide)
  have silent := (not_congr (reads .i8 ⟨200, by decide⟩ .optional .bare "200").2).2 (by decide)
  exact ⟨announced, (reads .i16 ⟨200, by decide⟩ .optional .optional "200").1.kept announced,
    (reads .i8 ⟨200, by decide⟩ .optional .bare "200").1.refused (Bool.eq_false_iff.2 silent)⟩

end Settings

end TypedArguments
