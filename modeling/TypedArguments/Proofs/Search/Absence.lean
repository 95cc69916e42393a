import TypedArguments.Proofs.Context.Registrations
import TypedArguments.Proofs.Search.Support

/-!
# Missing values at nullable types

A nullable type can stand for a missing value, so a conversion to it should not fail for want of
one. It does when the search has to take an empty layer off the value, and then alone, if no other
conversion is at fault (`Context.convert_eq_null_iff`). There are two occasions for that
(`Context.Unwraps`): the empty value of the type right over the target, for which the unboxing
converter is the direct one; and a value that is there itself, but with an empty layer inside.
-/

namespace TypedArguments

/-- Restating does not make up that a value is missing. -/
lemma ConversionError.restate_eq_null {e : ConversionError} {s t n : String} :
    e.restate s t = .null n ↔ e = .null n := by
  cases e with
  | unsupported s' t' => exact ⟨nofun, nofun⟩
  | _ => exact Iff.rfl

variable {κ : Type} [DecidableEq κ] [UserTypes κ]

namespace Context

variable {ctx : Context κ}

/-- Only the unboxing conversions of the nullable types fail for want of a value. -/
def Quiet (ctx : Context κ) : Prop :=
  ∀ s t f, ctx.find? s t = some f →
    (⟨s, t, f⟩ : Conversion κ).NeverNull ∨
      ∃ u ∈ ctx.optionals, (⟨s, t, f⟩ : Conversion κ) = .unbox u

/-- If no conversion that an application registers fails for want of a value, only unboxing does. -/
lemma Start.quiet_extend (start : Start) (rs : List (Registration κ))
    (quiet : ∀ c, .conversion c ∈ rs → c.NeverNull) : (start.extend rs).value.Quiet := by
  intro s t f hf
  obtain hc | ⟨u, hu, hc⟩ | ⟨_, never⟩ := start.of_find? hf
  · exact .inl (quiet _ hc)
  · apply (Registration.neverNull_or_eq_unbox hc).imp_right
    exact fun e => ⟨u, hu, e⟩
  · exact .inl never

/-- What the first pair gives is the lack of a value exactly if that is what its converter gives. -/
lemma Hit.result_eq_null {s t s' t' : Ty κ} (hit : Hit ctx s t s' t') {w : s'.Val} {n : String} :
    hit.result w = .error (.null n) ↔ hit.converter w = .error (.null n) := by
  have reported : ∀ e, hit.report e = .null n ↔ e = .null n := by
    intro e
    rw [report]
    split
    · exact Iff.rfl
    · exact ConversionError.restate_eq_null
  rw [result_eq_error_iff]
  constructor
  · rintro ⟨e, he, h⟩
    rw [he, (reported e).1 h.symm]
  · intro he
    exact ⟨_, he, ((reported _).2 rfl).symm⟩

/-- The search from `v` for `t` takes an empty layer off, and the lack of a value is reported for
the type `n`. -/
inductive Unwraps (ctx : Context κ) : (s : Ty κ) → s.Val → Ty κ → String → Prop where
  /-- The empty value of the type right over the target is unboxed. -/
  | direct {t : Ty κ} :
    ctx.find? (.option t) t = some (Conversion.unbox t).run →
    Unwraps ctx (.option t) none t t.name
  /-- The value does not stand for nothing itself but has an empty layer in it, and the first pair
  on the way, if its source can be got at past the layers, is the unboxing of that layer. -/
  | within {s t : Ty κ} {v : s.Val} :
    s ≠ t →
    ctx.isAbsent s v = false →
    ctx.populated s v = false →
    (∀ {s' t' : Ty κ} (hit : Hit ctx s t s' t') (w : s'.Val), hit.source.unwrap v = some w →
      (⟨s', t', hit.converter⟩ : Conversion κ) = .unbox t' ∧ ctx.isAbsent s' w = true) →
    Unwraps ctx s v t (ctx.core t).name

/-- Where unboxing comes first, but not for the source itself, it leads to the target's core. -/
lemma Hit.eq_core {s t u : Ty κ} (hit : Hit ctx s t (.option u) u) (ne : .option u ≠ s) :
    u = ctx.core t :=
  hit.target.eq_core (hit.turn.resolve_left ne)

/-- Unboxing an empty layer within a value reports the lack of a value for the core of the
target. -/
lemma Hit.converter_eq_null {s t s' t' : Ty κ} (hit : Hit ctx s t s' t') {v : s.Val} {w : s'.Val}
    (hw : hit.source.unwrap v = some w) (ha : ctx.isAbsent s v = false)
    (unboxing : (⟨s', t', hit.converter⟩ : Conversion κ) = .unbox t')
    (empty : ctx.isAbsent s' w = true) : hit.converter w = .error (.null (ctx.core t).name) := by
  obtain rfl : s' = .option t' := congrArg Conversion.source unboxing
  have run : hit.converter = (Conversion.unbox t').run := by simpa [Conversion.unbox] using unboxing
  obtain ⟨rfl, _⟩ := isAbsent_option.1 empty
  have inner : .option t' ≠ s := by
    rintro rfl
    rw [hit.source.unique (.refl _)] at hw
    cases hw
    cases ha.symm.trans empty
  rw [run, ← hit.eq_core inner]
  rfl

/-- Where a converter is run on the way to a nullable type and reports the lack of a value, an empty
layer is taken off. -/
lemma Hit.unwraps (quiet : ctx.Quiet) {s t s' t' : Ty κ} (hit : Hit ctx s t s' t') {v : s.Val}
    {w : s'.Val} {n : String} (ne : s ≠ t) (hw : hit.source.unwrap v = some w)
    (only : ctx.isAbsent s v = true → s' = s ∧ t' = t)
    (he : hit.converter w = .error (.null n)) : Unwraps ctx s v t n := by
  obtain never | ⟨u, hu, e⟩ := quiet s' t' hit.converter hit.registered
  · exact absurd he (never w n)
  obtain rfl : s' = .option u := congrArg Conversion.source e
  obtain rfl : t' = u := congrArg Conversion.target e
  have run : hit.converter = (Conversion.unbox t').run := by simpa [Conversion.unbox] using e
  cases w with
  | some y =>
    rw [run] at he
    cases he
  | none =>
    obtain rfl : t'.name = n := by
      rw [run] at he
      cases he
      rfl
    by_cases outer : .option t' = s
    · subst outer
      rw [hit.source.unique (.refl _)] at hw
      cases hw
      have absent : ctx.isAbsent (.option t') none = true := decide_eq_true hu
      obtain ⟨_, rfl⟩ := only absent
      exact .direct (hit.registered.trans (congrArg some run))
    · rw [hit.eq_core outer]
      apply Unwraps.within ne
      · rw [← Bool.not_eq_true]
        exact fun absent => outer (only absent).1
      · exact (populated_eq_of_unwrap hit.source hw).trans (populated_none hu)
      · intro s₁ t₁ hit₁ w₁ hw₁
        obtain ⟨rfl, rfl⟩ := hit.pair_eq hit₁
        obtain rfl := hit.unique hit₁
        cases hw.symm.trans hw₁
        exact ⟨e, isAbsent_option.2 ⟨rfl, hu⟩⟩

/-- A search for a nullable type fails for want of a value exactly if it takes an empty layer
off. -/
lemma Ends.result_eq_null_iff (quiet : ctx.Quiet) {s t : Ty κ} {v : s.Val} {o : Outcome t}
    {n : String} (h : Ends ctx s v t o) (ne : s ≠ t) (ht : ctx.acceptsNull t = true) :
    o.result = .error (.null n) ↔ Unwraps ctx s v t n := by
  constructor
  · intro he
    cases h with
    | ran hit hw only _ result =>
      exact hit.unwraps quiet ne hw only (hit.result_eq_null.1 (result.symm.trans he))
    | absent _ _ _ _ result => cases result.symm.trans he
    | astray _ _ _ result => cases result.symm.trans he
    | empty empty only _ result untaken =>
      cases result.symm.trans he
      apply Unwraps.within ne
      · rw [← Bool.not_eq_true]
        intro absent
        cases ht.symm.trans (only absent)
      · exact empty
      · intro s' t' hit w hw
        cases (untaken hit).symm.trans hw
  · intro hu
    cases hu with
    | direct hf =>
      have unboxed := h.result_of_hit (.direct hf) (fun _ => ⟨rfl, rfl⟩) rfl
      exact unboxed.trans (Hit.result_direct hf none)
    | within _ ha empty taken =>
      cases h with
      | ran hit hw _ _ result =>
        obtain ⟨unboxing, empty⟩ := taken hit _ hw
        exact result.trans (hit.result_eq_null.2 (hit.converter_eq_null hw ha unboxing empty))
      | absent _ ha' => cases ha.symm.trans ha'
      | astray _ full => cases empty.symm.trans full
      | empty _ _ _ result => exact result

/-- In a context in which no conversion that an application registered fails for want of a value,
converting an argument to a nullable type fails for want of one exactly if an empty layer is taken
off a stored value. -/
theorem convert_eq_null_iff (start : Start) {rs : List (Registration κ)}
    (quiet : ∀ c, .conversion c ∈ rs → c.NeverNull) {t : Ty κ}
    (ht : (start.extend rs).value.acceptsNull t = true) (a : Argument κ) (n : String) :
    ((start.extend rs).value.convert a t).result = .error (.null n) ↔
      ∃ s v rendering, a = .stored ⟨s, v⟩ rendering ∧
        (start.extend rs).value.Unwraps s v t n := by
  have quiet := start.quiet_extend rs quiet
  generalize (start.extend rs).value = ctx at *
  cases a with
  | null =>
    obtain ⟨u, hu, rfl⟩ := exists_of_acceptsNull ht
    rw [convert, absent?_option hu]
    exact ⟨nofun, nofun⟩
  | stored d rendering =>
    obtain ⟨s, v⟩ := d
    have stored : (∃ s' v' rendering',
        Argument.stored ⟨s, v⟩ rendering = .stored ⟨s', v'⟩ rendering' ∧ ctx.Unwraps s' v' t n) ↔
        ctx.Unwraps s v t n := by
      constructor
      · rintro ⟨s', v', rendering', e, h⟩
        cases e
        exact h
      · exact fun h => ⟨s, v, rendering, rfl, h⟩
    rw [stored]
    by_cases e : s = t
    · subst e
      rw [convert_self]
      apply iff_of_false nofun
      intro h
      cases h with
      | within ne => exact absurd rfl ne
    · rw [convert_of_ne e]
      exact (ctx.search_searches s v t).ends.result_eq_null_iff quiet e ht

namespace Emptied

open Detour (byte word)
open Nested (registrations context widen)

/-- No conversion among the registrations fails. -/
lemma quiet (c : Conversion Empty) (hc : .conversion c ∈ registrations widen) : c.NeverNull := by
  rw [Nested.eq_of_conversion_mem hc]
  exact nofun

/-- That a value is reported missing tells that an empty layer was taken off. -/
theorem convert_eq_null_iff_unwraps :
    (∀ c, .conversion c ∈ registrations widen → c.NeverNull) ∧
    (context widen).acceptsNull (.option word) = true ∧
    ∃ s v rendering, Argument.stored ⟨.option (.option byte), some none⟩ "Some(None)" =
      .stored ⟨s, v⟩ rendering ∧ (context widen).Unwraps s v (.option word) "u32" :=
  ⟨quiet, by decide, (convert_eq_null_iff .empty quiet (by decide) _ _).1 rfl⟩

/-- Nullable types for which a value is reported missing: the content of the argument's own type,
and one for which the search comes to an empty layer within the argument. -/
theorem convert_eq_null :
    (∀ c, .conversion c ∈ registrations widen → c.NeverNull) ∧
    (context widen).acceptsNull (.option byte) = true ∧
    ((context widen).convert (.stored ⟨.option (.option byte), none⟩ "None")
      (.option byte)).result = .error (.null "core::option::Option<u8>") ∧
    (context widen).acceptsNull (.option word) = true ∧
    ((context widen).convert (.stored ⟨.option (.option byte), some none⟩ "Some(None)")
      (.option word)).result = .error (.null "u32") :=
  ⟨quiet, by decide, rfl, by decide, rfl⟩

end Emptied

end Context

end TypedArguments
