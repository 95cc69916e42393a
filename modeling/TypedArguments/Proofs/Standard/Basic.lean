import TypedArguments.Proofs.Search.Coherence
import TypedArguments.Settings

/-!
# What the standard context does

An application gets its standard context from the settings (`Settings.context`). The scalars are
nullable there, and nothing else is, so a scalar is stored and wanted in two forms, bare and
optional (`Form`). In whichever forms, a conversion between two scalars does what the registered
converter between them does (`convert_scalar`, `convert_of_find?`), and that is one of the standard
conversions (`knows_of_find?`).
-/

namespace TypedArguments

variable {κ : Type} [UserTypes κ]

/-- Text as it is stored: owned or borrowed. -/
inductive TextKind where
  | owned
  | borrowed
  deriving DecidableEq

namespace TextKind

/-- The scalar type of the text. -/
def scalar : TextKind → Scalar
  | .owned => .string
  | .borrowed => .text

/-- The text as a value. -/
def val : (k : TextKind) → String → k.scalar.Val
  | .owned, x => x
  | .borrowed, x => x

end TextKind

/-- The type is text, owned or borrowed. -/
def Ty.IsText (t : Ty κ) : Prop :=
  ∃ k : TextKind, t = .scalar k.scalar

omit [UserTypes κ] in
/-- Two scalars are text. -/
lemma Ty.isText_scalar {s : Scalar} :
    (Ty.scalar s : Ty κ).IsText ↔ s = .string ∨ s = .text := by
  constructor
  · rintro ⟨k, e⟩
    cases k with
    | owned => cases e; exact .inl rfl
    | borrowed => cases e; exact .inr rfl
  · rintro (rfl | rfl)
    · exact ⟨.owned, rfl⟩
    · exact ⟨.borrowed, rfl⟩

namespace Conversion

/-- The text readings start from text. -/
lemma isText_of_mem_allTextReadings {c : Conversion κ} (h : c ∈ allTextReadings) :
    c.source.IsText := by
  obtain ⟨s, reader, _, rfl | rfl⟩ := mem_allTextReadings.1 h
  · exact ⟨.owned, rfl⟩
  · exact ⟨.borrowed, rfl⟩

/-- No widening starts from text. -/
lemma not_isText_of_mem_allWidenings {c : Conversion κ} (h : c ∈ allWidenings) :
    ¬ c.source.IsText := by
  cases mem_allWidenings.1 h with
  | int => exact (not_congr Ty.isText_scalar).2 nofun
  | float => exact (not_congr Ty.isText_scalar).2 nofun
  | double => exact (not_congr Ty.isText_scalar).2 nofun
  | code => exact (not_congr Ty.isText_scalar).2 nofun

end Conversion

/-- The forms of a type that is nullable. -/
inductive Form where
  | bare
  | optional
  deriving DecidableEq

namespace Form

/-- The type in this form. -/
def type : Form → Ty κ → Ty κ
  | .bare, t => t
  | .optional, t => .option t

/-- A value of the type in this form. -/
def put : (f : Form) → {t : Ty κ} → t.Val → (f.type t).Val
  | .bare, _, v => v
  | .optional, _, v => some v

end Form

variable [DecidableEq κ]

namespace Settings

/-- The standard context under the settings, without the records of its making. -/
def context (a : Settings) : Context κ :=
  a.standardContext.value

variable {a : Settings}

/-- The settings matter to the context only through whether text is read. -/
lemma context_eq_standard :
    (a.context : Context κ) = (Context.standard a.readsText.value).value := by
  rw [context, standardContext, Logged.value_bind]

/-- The standard context is what the standard registrations leave. -/
lemma context_eq_extend : (a.context : Context κ) =
    (Context.empty.extend (standardRegistrations a.readsText.value)).value := by
  rw [context_eq_standard, Context.standard]

/-- Only boxing conversions touch the nullable types of the standard context. -/
lemma plain_context : (a.context : Context κ).Plain := by
  rw [context_eq_standard]
  exact (Context.Start.standard _).plain

/-- Exactly the optional types over scalars are nullable. -/
lemma mem_optionals_context {u : Ty κ} :
    u ∈ (a.context : Context κ).optionals ↔ ∃ s, u = .scalar s := by
  rw [context_eq_extend, Context.mem_optionals_extend, ← optional_mem_standardRegistrations]
  exact or_iff_left List.not_mem_nil

/-- The conversions that the standard context takes in: the widenings, the copy of borrowed text
and, where text is read, the readings. -/
def Knows (a : Settings) (c : Conversion κ) : Prop :=
  c ∈ Conversion.allWidenings ∨ c = .textToString ∨
    a.readsText.value = true ∧ c ∈ Conversion.allTextReadings

/-- A converter between types that are not nullable is that of a standard conversion. -/
lemma knows_of_find? {s t : Ty κ} {c : Converter s t} (hs : a.context.acceptsNull s = false)
    (ht : a.context.acceptsNull t = false) (h : a.context.find? s t = some c) :
    a.Knows ⟨s, t, c⟩ := by
  rw [context_eq_extend] at h
  obtain ⟨r, hr, hc⟩ | h := Context.mem_conversions_of_find?_extend h
  · cases r with
    | conversion d =>
      rw [List.mem_singleton.1 hc]
      exact conversion_mem_standardRegistrations.1 hr
    | optional u =>
      -- boxing leads to a nullable type and unboxing from one
      have nullable : (a.context : Context κ).acceptsNull (.option u) = true :=
        Context.acceptsNull_option.2
          (mem_optionals_context.2 (optional_mem_standardRegistrations.1 hr))
      rw [Registration.conversions, List.mem_cons, List.mem_singleton] at hc
      obtain hc | hc := hc
      · cases hc
        cases ht.symm.trans nullable
      · cases hc
        cases hs.symm.trans nullable
  · cases h

/-- The pairs of the standard conversions are taken. -/
lemma contains_of_knows {c : Conversion κ} {s t : Ty κ} (h : a.Knows c) (pair : c.pair = (s, t)) :
    a.context.contains s t = true := by
  obtain ⟨rfl, rfl⟩ := Prod.mk.inj pair
  have mem := conversion_mem_standardRegistrations.2 h
  rw [context_eq_extend]
  exact Context.contains_extend_of_mem mem (List.mem_singleton_self c)

/-- From a scalar that is no text, the converters between scalars are widenings. -/
lemma mem_allWidenings_of_find? {s t : Scalar} (hs : ¬ (Ty.scalar s : Ty κ).IsText)
    {c : Converter (κ := κ) (.scalar s) (.scalar t)}
    (hc : a.context.find? (.scalar s) (.scalar t) = some c) :
    ⟨.scalar s, .scalar t, c⟩ ∈ Conversion.allWidenings := by
  obtain h | h | ⟨_, h⟩ := knows_of_find? rfl rfl hc
  · exact h
  · exact absurd ⟨.borrowed, congrArg Conversion.source h⟩ hs
  · exact absurd (Conversion.isText_of_mem_allTextReadings h) hs

/-- The way in to a scalar from either of its forms. -/
def layers (a : Settings) (f : Form) (s : Scalar) :
    Context.Layers (κ := κ) a.context (f.type (.scalar s)) (.scalar s) :=
  match f with
  | .bare => .refl _
  | .optional => .layer (mem_optionals_context.2 ⟨s, rfl⟩) (.refl _)

/-- Wrapping puts the value in its form. -/
@[simp] lemma wrap_layers {f : Form} {s : Scalar} (v : s.Val) :
    (layers (κ := κ) a f s).wrap v = f.put v := by
  cases f with
  | bare => rfl
  | optional => rfl

/-- Unwrapping takes the value out of its form. -/
@[simp] lemma unwrap_layers {f : Form} {s : Scalar} (v : s.Val) :
    (layers (κ := κ) a f s).unwrap (f.put v) = some v := by
  cases f with
  | bare => rfl
  | optional => rfl

/-- The core of either form is the scalar. -/
lemma core_type (f : Form) (s : Scalar) :
    a.context.core (f.type (.scalar s) : Ty κ) = .scalar s :=
  (a.layers f s).core_eq.symm

/-- A type with a scalar as its core is a form of that scalar. -/
lemma exists_eq_type {t : Ty κ} {s : Scalar} (h : a.context.core t = .scalar s) :
    ∃ f : Form, t = f.type (.scalar s) := by
  cases t with
  | base b => exact ⟨.bare, h⟩
  | option u =>
    by_cases hu : u ∈ (a.context : Context κ).optionals
    · obtain ⟨s', rfl⟩ := mem_optionals_context.1 hu
      rw [Context.core_option hu] at h
      exact ⟨.optional, congrArg Ty.option h⟩
    · rw [Context.core, if_neg hu] at h
      cases h

/-- A value put in a form is populated. -/
lemma populated_put (f : Form) {s : Scalar} (v : s.Val) :
    (a.context : Context κ).populated (f.type (.scalar s)) (f.put v) = true :=
  Context.populated_of_unwrap (a.layers f s) rfl (unwrap_layers v)

variable {s t : Scalar} {v : s.Val} (f g : Form) (rendering : String)

/-- Between scalars in whichever forms, a conversion gives what the bare value gives for the bare
target. -/
lemma convert_scalar (v : s.Val) :
    ((a.context : Context κ).convert (.stored ⟨f.type (.scalar s), f.put v⟩ rendering)
      (g.type (.scalar t))).result.toOption =
        ((a.context : Context κ).bare? (.scalar s) (.scalar t) v).map g.put := by
  rw [plain_context.toOption_convert (a.layers f s) (a.layers g t) rfl rfl
    (unwrap_layers v)]
  congr 1
  exact funext wrap_layers

/-- A scalar is read as itself in either form. -/
lemma convert_scalar_self (v : s.Val) :
    ((a.context : Context κ).convert (.stored ⟨f.type (.scalar s), f.put v⟩ rendering)
      (g.type (.scalar s))).result = .ok (g.put v) := by
  apply Outcome.result_eq_ok_of_toOption
  rw [convert_scalar, Context.bare?_self]
  rfl

/-- What the converter between two scalars gives is what a conversion gives, in the form that is
wanted. -/
lemma convert_of_find? {c : Converter (κ := κ) (.scalar s) (.scalar t)} {w : t.Val} (ne : s ≠ t)
    (hc : a.context.find? (.scalar s) (.scalar t) = some c) (hw : c v = .ok w) :
    ((a.context : Context κ).convert (.stored ⟨f.type (.scalar s), f.put v⟩ rendering)
      (g.type (.scalar t))).result = .ok (g.put w) := by
  have ne : (Ty.scalar s : Ty κ) ≠ .scalar t := by
    intro e
    cases e
    exact ne rfl
  apply Outcome.result_eq_ok_of_toOption
  rw [convert_scalar, Context.bare?_of_ne ne, hc, Option.bind_some, hw]
  rfl

/-- From a scalar there is no conversion to a type that has another core and no converter from that
scalar. -/
lemma convert_unregistered (v : s.Val) {u : Ty κ} (ne : a.context.core u ≠ .scalar s)
    (free : a.context.contains (.scalar s) (a.context.core u) = false) :
    (a.context.convert (.stored ⟨f.type (.scalar s), f.put v⟩ rendering) u).result =
      .error (.unsupported (f.type (.scalar s) : Ty κ).name u.name) := by
  apply plain_context.result_unsupported (populated_put f v)
  · rw [core_type]
    exact ne.symm
  · rw [core_type]
    exact free

/-- Without a converter, one scalar is not converted to another one in any forms. -/
lemma convert_scalar_unregistered (v : s.Val) (ne : s ≠ t)
    (free : a.context.contains (.scalar s) (.scalar t : Ty κ) = false) :
    ((a.context : Context κ).convert (.stored ⟨f.type (.scalar s), f.put v⟩ rendering)
      (g.type (.scalar t))).result =
        .error (.unsupported (f.type (.scalar s) : Ty κ).name
          (g.type (.scalar t) : Ty κ).name) := by
  apply convert_unregistered
  · rw [core_type]
    intro e
    cases e
    exact ne rfl
  · rw [core_type]
    exact free

/-- Between scalars in whichever forms, what is announced depends on the scalars alone. -/
lemma supports_scalar :
    (a.context : Context κ).supports (f.type (.scalar s)) (g.type (.scalar t)) = true ↔
      s = t ∨ (a.context : Context κ).contains (.scalar s) (.scalar t) = true := by
  rw [plain_context.supports_iff_core, core_type, core_type]
  simp

end Settings

end TypedArguments
