import Mathlib.Tactic.Lemma
import TypedArguments.Conversion.Standard

/-!
# What registrations leave in a context

A context knows what it was told: each converter in it was brought by a registration
(`Context.mem_conversions_of_find?_extend`), and its nullable types are the registered ones
(`Context.mem_optionals_extend`). In the standard context the conversions, apart from those of the
nullable types, lead from scalars to scalars and never fail for want of a value
(`standardRegistrations_conversion`).
-/

namespace TypedArguments

variable {κ : Type} [UserTypes κ]

/-- The conversions that a registration brings. -/
def Registration.conversions : Registration κ → List (Conversion κ)
  | .conversion c => [c]
  | .optional s => [.box s, .unbox s]

/-- The conversion never fails for want of a value. -/
def Conversion.NeverNull (c : Conversion κ) : Prop :=
  ∀ v n, c.run v ≠ .error (.null n)

/-- The conversion leads from a scalar to a scalar. -/
def Conversion.BetweenScalars (c : Conversion κ) : Prop :=
  (∃ s, c.source = .scalar s) ∧ ∃ t, c.target = .scalar t

/-- Of the conversions that come with a nullable type, only unboxing fails for want of a value. -/
lemma Registration.neverNull_or_eq_unbox {u : Ty κ} {c : Conversion κ}
    (h : c ∈ (Registration.optional u).conversions) : c.NeverNull ∨ c = .unbox u := by
  rw [conversions, List.mem_cons, List.mem_singleton] at h
  obtain rfl | h := h
  · exact .inl nofun
  · exact .inr h

namespace Conversion

/-- The conversion is a widening. -/
inductive IsWidening : Conversion κ → Prop where
  | int {k l : IntKind} (wide : l ∈ k.wider) :
    IsWidening (widenInt (IntKind.within_of_mem_wider wide))
  | float {k : IntKind} {l : FloatKind} :
    l ∈ k.floats →
    IsWidening (intToFloat k l)
  | double :
    IsWidening (floatToFloat .f32 .f64)
  | code {l : IntKind} (wide : l ∈ IntKind.codeKinds) :
    IsWidening (charToInt (IntKind.within_of_mem_codeKinds wide))

/-- The list of the widenings has exactly the members of the four families. -/
lemma mem_allWidenings {c : Conversion κ} : c ∈ allWidenings ↔ c.IsWidening := by
  simp only [allWidenings, widenings, List.mem_append, List.mem_flatMap, List.mem_map,
    List.mem_singleton]
  constructor
  · rintro ((⟨k, _, ⟨l, _, rfl⟩ | ⟨l, hl, rfl⟩⟩ | rfl) | ⟨l, _, rfl⟩)
    · exact .int l.2
    · exact .float hl
    · exact .double
    · exact .code l.2
  · intro h
    cases h with
    | @int k l wide => exact .inl (.inl ⟨k, k.mem_all, .inl ⟨⟨l, wide⟩, List.mem_attach _ _, rfl⟩⟩)
    | @float k l hl => exact .inl (.inl ⟨k, k.mem_all, .inr ⟨l, hl, rfl⟩⟩)
    | double => exact .inl (.inr rfl)
    | @code l wide => exact .inr ⟨⟨l, wide⟩, List.mem_attach _ _, rfl⟩

/-- Widening leads from scalars to scalars and does not fail. -/
lemma of_mem_allWidenings {c : Conversion κ} (h : c ∈ allWidenings) :
    c.BetweenScalars ∧ c.NeverNull := by
  cases mem_allWidenings.1 h with
  | int => exact ⟨⟨⟨_, rfl⟩, _, rfl⟩, nofun⟩
  | float => exact ⟨⟨⟨_, rfl⟩, _, rfl⟩, nofun⟩
  | double => exact ⟨⟨⟨_, rfl⟩, _, rfl⟩, nofun⟩
  | code => exact ⟨⟨⟨_, rfl⟩, _, rfl⟩, nofun⟩

/-- A text that cannot be read is reported as such. -/
lemma readText_ne_null {s : Scalar} (reader : List Char → Except String s.Val) (text n : String) :
    readText reader text ≠ .error (.null n) := by
  rw [readText]
  cases reader text.toList with
  | ok v => exact nofun
  | error cause => exact nofun

/-- The readings of text: each reader, from owned and from borrowed text. -/
lemma mem_allTextReadings {c : Conversion κ} :
    c ∈ allTextReadings ↔ ∃ s reader, s.reader? = some reader ∧
      (c = ⟨.scalar .string, .scalar s, fun (text : String) => readText reader text⟩ ∨
        c = ⟨.scalar .text, .scalar s, fun (text : String) => readText reader text⟩) := by
  rw [allTextReadings, List.mem_flatMap]
  constructor
  · rintro ⟨s, _, h⟩
    rw [textReadings] at h
    cases hs : s.reader? with
    | none =>
      rw [hs] at h
      cases h
    | some reader =>
      rw [hs, List.mem_cons, List.mem_singleton] at h
      exact ⟨s, reader, hs, h⟩
  · rintro ⟨s, reader, hs, h⟩
    refine ⟨s, s.mem_all, ?_⟩
    rw [textReadings, hs, List.mem_cons, List.mem_singleton]
    exact h

/-- Reading text leads from scalars to scalars, and a missing value is not among its errors. -/
lemma of_mem_allTextReadings {c : Conversion κ} (h : c ∈ allTextReadings) :
    c.BetweenScalars ∧ c.NeverNull := by
  obtain ⟨s, reader, _, rfl | rfl⟩ := mem_allTextReadings.1 h
  · exact ⟨⟨⟨_, rfl⟩, _, rfl⟩, readText_ne_null reader⟩
  · exact ⟨⟨⟨_, rfl⟩, _, rfl⟩, readText_ne_null reader⟩

end Conversion

/-- The conversions of the standard context are the widenings, the copy of borrowed text and, if
that is wished, the readings of text. -/
lemma conversion_mem_standardRegistrations {readsText : Bool} {c : Conversion κ} :
    .conversion c ∈ standardRegistrations readsText ↔
      c ∈ Conversion.allWidenings ∨ c = .textToString ∨
        readsText = true ∧ c ∈ Conversion.allTextReadings := by
  cases readsText with
  | false => simp [standardRegistrations]
  | true => simp [standardRegistrations]

/-- Every conversion of the standard context leads from a scalar to a scalar and never fails for
want of a value. -/
lemma standardRegistrations_conversion {readsText : Bool} {c : Conversion κ}
    (h : .conversion c ∈ standardRegistrations readsText) : c.BetweenScalars ∧ c.NeverNull := by
  obtain h | rfl | ⟨_, h⟩ := conversion_mem_standardRegistrations.1 h
  · exact Conversion.of_mem_allWidenings h
  · exact ⟨⟨⟨_, rfl⟩, _, rfl⟩, nofun⟩
  · exact Conversion.of_mem_allTextReadings h

/-- In the standard context, exactly the scalars are nullable. -/
lemma optional_mem_standardRegistrations {readsText : Bool} {u : Ty κ} :
    .optional u ∈ standardRegistrations readsText ↔ ∃ s, u = .scalar s := by
  have scalars :
      .optional u ∈ standardRegistrations readsText ↔ ∃ s ∈ Scalar.all, .scalar s = u := by
    cases readsText with
    | false => simp [standardRegistrations]
    | true => simp [standardRegistrations]
  rw [scalars]
  constructor
  · rintro ⟨s, _, rfl⟩
    exact ⟨s, rfl⟩
  · rintro ⟨s, rfl⟩
    exact ⟨s, s.mem_all, rfl⟩

variable [DecidableEq κ]

namespace Context

variable {ctx : Context κ}

/-- The conversion that is inserted is found. -/
lemma find?_insert_self (c : Conversion κ) :
    (ctx.insert c).find? c.source c.target = some c.run :=
  Registry.find?_insert_self ctx.registry c

/-- Inserting a conversion changes no other pair. -/
lemma find?_insert_of_ne {c : Conversion κ} {s t : Ty κ} (h : c.pair ≠ (s, t)) :
    (ctx.insert c).find? s t = ctx.find? s t :=
  Registry.find?_insert_of_ne h

/-- After a conversion is inserted, a converter is that of the conversion or one from before. -/
lemma eq_or_find?_of_insert {c : Conversion κ} {s t : Ty κ} {f : Converter s t}
    (h : (ctx.insert c).find? s t = some f) : ⟨s, t, f⟩ = c ∨ ctx.find? s t = some f := by
  by_cases e : c.pair = (s, t)
  · cases e
    cases (find?_insert_self c).symm.trans h
    exact .inl rfl
  · exact .inr ((find?_insert_of_ne e).symm.trans h)

/-- After a registration, a converter was brought by it or is one from before. -/
lemma mem_conversions_of_find?_apply {r : Registration κ} {s t : Ty κ} {f : Converter s t}
    (h : (ctx.apply r).value.find? s t = some f) :
    ⟨s, t, f⟩ ∈ r.conversions ∨ ctx.find? s t = some f := by
  cases r with
  | conversion c => exact (eq_or_find?_of_insert h).imp_left List.mem_singleton.2
  | optional u =>
    have h : ((ctx.insert (.box u)).insert (.unbox u)).find? s t = some f := h
    obtain e | h := eq_or_find?_of_insert h
    · left
      rw [e]
      exact List.mem_cons_of_mem _ (List.mem_singleton_self _)
    · apply (eq_or_find?_of_insert h).imp_left
      intro e
      rw [e]
      exact List.mem_cons_self

/-- After registrations, a converter was brought by one of them or is one from before. -/
lemma mem_conversions_of_find?_extend {rs : List (Registration κ)} {s t : Ty κ}
    {f : Converter s t} (h : (ctx.extend rs).value.find? s t = some f) :
    (∃ r ∈ rs, ⟨s, t, f⟩ ∈ r.conversions) ∨ ctx.find? s t = some f := by
  induction rs generalizing ctx with
  | nil => exact .inr h
  | cons r rs ih =>
    obtain ⟨r', hr', h⟩ | h := ih h
    · exact .inl ⟨r', List.mem_cons_of_mem _ hr', h⟩
    · exact (mem_conversions_of_find?_apply h).imp_left fun h => ⟨r, List.mem_cons_self, h⟩

/-- A pair that is taken stays taken. -/
lemma contains_apply {r : Registration κ} {s t : Ty κ} (h : ctx.contains s t = true) :
    (ctx.apply r).value.contains s t = true := by
  cases r with
  | conversion c => exact Registry.contains_insert h
  | optional u => exact Registry.contains_insert (Registry.contains_insert h)

/-- The pairs of the conversions that a registration brings are taken. -/
lemma contains_apply_of_mem {r : Registration κ} {c : Conversion κ} (h : c ∈ r.conversions) :
    (ctx.apply r).value.contains c.source c.target = true := by
  cases r with
  | conversion d =>
    obtain rfl := List.mem_singleton.1 h
    exact Registry.contains_insert_self ctx.registry c
  | optional u =>
    rw [Registration.conversions, List.mem_cons, List.mem_singleton] at h
    obtain rfl | rfl := h
    · exact Registry.contains_insert (Registry.contains_insert_self ctx.registry (.box u))
    · exact Registry.contains_insert_self (ctx.insert (.box u)).registry (.unbox u)

/-- A pair that is taken stays taken, whatever is registered. -/
lemma contains_extend {rs : List (Registration κ)} {s t : Ty κ} (h : ctx.contains s t = true) :
    (ctx.extend rs).value.contains s t = true := by
  induction rs generalizing ctx with
  | nil => exact h
  | cons r rs ih => exact ih (contains_apply h)

/-- The pairs of the conversions that registrations bring are taken. -/
lemma contains_extend_of_mem {rs : List (Registration κ)} {r : Registration κ} {c : Conversion κ}
    (hr : r ∈ rs) (hc : c ∈ r.conversions) :
    (ctx.extend rs).value.contains c.source c.target = true := by
  induction rs generalizing ctx with
  | nil => cases hr
  | cons r' rs ih =>
    cases hr with
    | head =>
      show ((ctx.apply r).value.extend rs).value.contains c.source c.target = true
      exact contains_extend (contains_apply_of_mem hc)
    | tail _ hr => exact ih hr

/-- A registration makes the optional type over `u` nullable if it says so. -/
lemma mem_optionals_apply {r : Registration κ} {u : Ty κ} :
    u ∈ (ctx.apply r).value.optionals ↔ r = .optional u ∨ u ∈ ctx.optionals := by
  cases r with
  | conversion c => exact (or_iff_right nofun).symm
  | optional s =>
    rw [Registration.optional.injEq, eq_comm]
    exact mem_addOptional

/-- The nullable types are the registered ones and those from before. -/
lemma mem_optionals_extend {rs : List (Registration κ)} {u : Ty κ} :
    u ∈ (ctx.extend rs).value.optionals ↔ .optional u ∈ rs ∨ u ∈ ctx.optionals := by
  induction rs generalizing ctx with
  | nil => exact (or_iff_right List.not_mem_nil).symm
  | cons r rs ih =>
    have h : u ∈ (ctx.extend (r :: rs)).value.optionals ↔
        u ∈ ((ctx.apply r).value.extend rs).value.optionals := Iff.rfl
    rw [h, ih, mem_optionals_apply, List.mem_cons, eq_comm (b := r), or_left_comm, or_assoc]

/-- Where an application starts to register: with nothing, or with a standard context. -/
inductive Start where
  | empty
  | standard (readsText : Bool)

namespace Start

/-- The context to start with. -/
def context : Start → Logged (Context κ)
  | .empty => .pure .empty
  | .standard readsText => Context.standard readsText

/-- The registrations that the context comes with. -/
def registrations : Start → List (Registration κ)
  | .empty => []
  | .standard readsText => standardRegistrations readsText

/-- What an application makes of the context by further registrations. -/
def extend (start : Start) (rs : List (Registration κ)) : Logged (Context κ) :=
  start.context.bind fun ctx => ctx.extend rs

/-- To start from a context is to register first what it comes with. -/
lemma extend_eq (start : Start) (rs : List (Registration κ)) :
    start.extend rs = Context.empty.extend (start.registrations ++ rs) := by
  rw [extend, extend_append]
  cases start with
  | empty => rfl
  | standard readsText => rfl

/-- A converter of an application's context is one that it registered, comes with a nullable type,
or leads from a scalar to a scalar and never fails for want of a value. -/
lemma of_find? (start : Start) {rs : List (Registration κ)} {s t : Ty κ} {f : Converter s t}
    (hf : (start.extend rs).value.find? s t = some f) :
    .conversion ⟨s, t, f⟩ ∈ rs ∨
      (∃ u ∈ (start.extend rs).value.optionals, ⟨s, t, f⟩ ∈ (Registration.optional u).conversions) ∨
      (⟨s, t, f⟩ : Conversion κ).BetweenScalars ∧ (⟨s, t, f⟩ : Conversion κ).NeverNull := by
  rw [start.extend_eq] at hf ⊢
  obtain ⟨r, hr, hc⟩ | hf := mem_conversions_of_find?_extend hf
  · cases r with
    | conversion c =>
      obtain rfl := List.mem_singleton.1 hc
      obtain hr | hr := List.mem_append.1 hr
      · cases start with
        | empty => cases hr
        | standard readsText => exact .inr (.inr (standardRegistrations_conversion hr))
      · exact .inl hr
    | optional u => exact .inr (.inl ⟨u, mem_optionals_extend.2 (.inl hr), hc⟩)
  · cases hf

end Start

end Context

end TypedArguments
