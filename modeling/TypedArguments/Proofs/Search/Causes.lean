import Mathlib.Logic.ExistsUnique
import TypedArguments.Proofs.Search.Coherence

/-!
# What a conversion fails for

A conversion to another type fails for one of three causes (`Context.Cause`): no conversion leads
on, a layer of the value is empty, or a converter that was run has failed. The cause tells which
error there is (`Cause.Explains`), and it can be told from the run (`Cause.of`,
`Cause.Explains.eq_of`), so there is exactly one (`convert_error_explained`). An error of a
converter gets through any number of hops as it is, unless it says that a conversion is missing;
then the types of the whole way are named (`Conveys`).
-/

namespace TypedArguments

/-- The error tells that a conversion is missing. -/
def ConversionError.IsUnsupported (e : ConversionError) : Prop :=
  ∃ s t, e = .unsupported s t

/-- Another error is restated as it is. -/
lemma ConversionError.restate_of_not_isUnsupported {e : ConversionError}
    (h : ¬ e.IsUnsupported) (s t : String) : e.restate s t = e := by
  cases e with
  | unsupported s' t' => exact absurd ⟨s', t', rfl⟩ h
  | _ => rfl

variable {κ : Type} [DecidableEq κ] [UserTypes κ]

namespace Context

variable {ctx : Context κ}

/-- What a conversion fails for. -/
inductive Cause where
  /-- No conversion leads on. -/
  | astray
  /-- A nullable layer of the value is empty. -/
  | empty
  /-- A converter that was run has failed. -/
  | converter
  deriving DecidableEq

/-- The error `e'` of a converter from `s'` to `t'` arrives as the error `e` of the way from `s` to
`t`. It arrives as it is if the converter is the one for the way itself or tells anything else than
that a conversion is missing; a conversion missing further in is missing for the whole way. -/
structure Conveys (s t s' t' : Ty κ) (e' e : ConversionError) : Prop where
  kept : (s' = s ∧ t' = t) ∨ ¬ e'.IsUnsupported → e = e'
  restated : ¬ (s' = s ∧ t' = t) → e'.IsUnsupported → e = .unsupported s.name t.name

/-- A search from the value `v` of `s` for the type `t` that ended with the error `e` has failed for
the cause. -/
def Cause.Explains (ctx : Context κ) (s : Ty κ) (v : s.Val) (t : Ty κ) (o : Outcome t)
    (e : ConversionError) : Cause → Prop
  | .astray => o.runs = [] ∧ ctx.populated s v = true ∧ e = .unsupported s.name t.name
  | .empty => o.runs = [] ∧ ctx.populated s v = false ∧ e = .null (ctx.core t).name
  | .converter => ∃ (s' t' : Ty κ) (w : s'.Val) (f : Converter s' t') (e' : ConversionError),
      o.runs = [.run s' t' w] ∧ ctx.find? s' t' = some f ∧ f w = .error e' ∧
        Conveys s t s' t' e' e

/-- The cause that the run shows. -/
def Cause.of (ctx : Context κ) (s : Ty κ) (v : s.Val) {t : Ty κ} (o : Outcome t) : Cause :=
  if o.runs.isEmpty then
    if ctx.populated s v then .astray else .empty
  else .converter

/-- No other cause explains the error than the one that the run shows. -/
lemma Cause.Explains.eq_of {s t : Ty κ} {v : s.Val} {o : Outcome t} {e : ConversionError}
    {cause : Cause} (h : cause.Explains ctx s v t o e) : cause = .of ctx s v o := by
  cases cause with
  | astray =>
    obtain ⟨idle, full, _⟩ := h
    rw [Cause.of, idle, full]
    rfl
  | empty =>
    obtain ⟨idle, empty, _⟩ := h
    rw [Cause.of, idle, empty]
    rfl
  | converter =>
    obtain ⟨s', t', w, f, e', runs, _⟩ := h
    rw [Cause.of, runs]
    rfl

/-- The report of the first pair conveys the error of its converter. -/
lemma Hit.conveys {s t s' t' : Ty κ} (hit : Hit ctx s t s' t') (e' : ConversionError) :
    Conveys s t s' t' e' (hit.report e') where
  kept h := by
    rw [report]
    split
    case isTrue => rfl
    case isFalse further =>
      exact ConversionError.restate_of_not_isUnsupported (h.resolve_left further) _ _
  restated further := by
    rintro ⟨a, b, rfl⟩
    rw [report, if_neg further]
    rfl

/-- In a plain context a converter between two cores comes first on every way between types with
these cores. -/
lemma Plain.exists_hit (plain : ctx.Plain) {s t c d : Ty κ} (p : Layers ctx s c)
    (q : Layers ctx t d) (hc : ctx.acceptsNull c = false) (hd : ctx.acceptsNull d = false)
    (ne : c ≠ d) {f : Converter c d} (hf : ctx.find? c d = some f) :
    ∃ hit : Hit ctx s t c d, hit.source = p ∧ hit.converter = f := by
  -- a converter to or from a layer that is passed by would lead to the same core
  have past_target : ∀ a ∈ q.passed, ctx.contains s a = false := by
    intro a ha
    obtain ⟨⟨within⟩, nullable, _⟩ := q.of_mem_passed ha
    rw [contains_eq_false, Option.eq_none_iff_forall_ne_some]
    intro f hf
    obtain e | ⟨_, h⟩ := plain.of_find? hf
    · exact ne ((p.eq_core hc).trans (e.trans (within.core_eq.trans (q.eq_core hd).symm)))
    · cases h.symm.trans nullable
  have past_source : ∀ b ∈ p.passed, ctx.contains b d = false := by
    intro b hb
    obtain ⟨⟨within⟩, nullable, _⟩ := p.of_mem_passed hb
    rw [contains_eq_false, Option.eq_none_iff_forall_ne_some]
    intro f hf
    obtain e | ⟨h, _⟩ := plain.of_find? hf
    · rw [core_of_not_acceptsNull hd] at e
      exact ne ((p.eq_core hc).trans (within.core_eq.symm.trans e))
    · cases h.symm.trans nullable
  exact ⟨⟨p, q, f, hf, .inr hd, past_target, past_source⟩, rfl, rfl⟩

/-- In a plain context, an error of a converter between two cores arrives for the whole way. -/
lemma Plain.exists_conveys (plain : ctx.Plain) {s t c d : Ty κ} (p : Layers ctx s c)
    (q : Layers ctx t d) (hc : ctx.acceptsNull c = false) (hd : ctx.acceptsNull d = false)
    (ne : c ≠ d) {f : Converter c d} (hf : ctx.find? c d = some f) {v : s.Val} {w : c.Val}
    (hw : p.unwrap v = some w) {e' : ConversionError} (he : f w = .error e')
    (rendering : String) :
    ∃ e, (ctx.convert (.stored ⟨s, v⟩ rendering) t).result = .error e ∧
      Conveys s t c d e' e := by
  have ne' : s ≠ t := by
    rintro rfl
    exact ne ((p.eq_core hc).trans (q.eq_core hd).symm)
  obtain ⟨hit, rfl, rfl⟩ := plain.exists_hit p q hc hd ne hf
  have full : ctx.isAbsent s v = false := isAbsent_of_populated (populated_of_unwrap _ hc hw)
  have result : (ctx.search s v t).result = hit.result w := by
    apply (ctx.search_searches s v t).ends.result_of_hit hit _ hw
    intro absent
    cases full.symm.trans absent
  rw [convert_of_ne ne', result]
  exact ⟨_, hit.result_eq_error_iff.2 ⟨e', he, rfl⟩, hit.conveys e'⟩

/-- A search that fails does so for some cause. -/
lemma Ends.exists_cause {s t : Ty κ} {v : s.Val} {o : Outcome t} {e : ConversionError}
    (h : Ends ctx s v t o) (failed : o.result = .error e) :
    ∃ cause : Cause, cause.Explains ctx s v t o e := by
  cases h with
  | @ran s' t' hit w _ _ runs result =>
    obtain ⟨e', he, rfl⟩ := hit.result_eq_error_iff.1 (result.symm.trans failed)
    exact ⟨.converter, s', t', w, hit.converter, e', runs, hit.registered, he, hit.conveys e'⟩
  | absent _ _ _ _ result => cases result.symm.trans failed
  | astray _ full runs result =>
    cases result.symm.trans failed
    exact ⟨.astray, runs, full, rfl⟩
  | empty empty _ runs result =>
    cases result.symm.trans failed
    exact ⟨.empty, runs, empty, rfl⟩

/-- A conversion to another type that fails does so for exactly one cause: no converter was run and
no conversion leads on, or no converter was run and a layer of the value is empty, or the one
converter that was run has failed. -/
theorem convert_error_explained {s t : Ty κ} (ne : s ≠ t) (v : s.Val) (rendering : String)
    {e : ConversionError} (failed : (ctx.convert (.stored ⟨s, v⟩ rendering) t).result = .error e) :
    ∃! cause : Cause,
      cause.Explains ctx s v t (ctx.convert (.stored ⟨s, v⟩ rendering) t) e := by
  rw [convert_of_ne ne] at failed ⊢
  obtain ⟨cause, explains⟩ := (ctx.search_searches s v t).ends.exists_cause failed
  refine ⟨cause, explains, ?_⟩
  intro other explains'
  exact explains'.eq_of.trans explains.eq_of.symm

namespace Refusing

open Detour (byte word four)

/-- The conversion between the cores fails with the error `e`. -/
def context (e : ConversionError) : Context Empty :=
  Nested.context fun _ => .error e

/-- What comes of a value under two layers if that conversion fails with the error `e`. -/
def outcome (e : ConversionError) : Outcome (.option word : Ty Empty) :=
  (context e).convert (.stored ⟨.option (.option byte), some (some four)⟩ "4") (.option word)

/-- The conversion between the cores says that a conversion is missing. -/
def missing : ConversionError :=
  .unsupported "inner" "outer"

/-- What is told of that for the types of the whole way. -/
def told : ConversionError :=
  .unsupported "core::option::Option<core::option::Option<u8>>" "core::option::Option<u32>"

/-- The converter under the layers was run and is the one cause. That a conversion is missing is
told for the types of the whole way; another error arrives as it is. -/
theorem unsupported_explained :
    (Ty.option (.option byte) : Ty Empty) ≠ .option word ∧
    (outcome missing).result = .error told ∧
    (outcome missing).runs = [.run byte word four] ∧
    (∀ cause : Cause, cause.Explains (context missing) (.option (.option byte)) (some (some four))
      (.option word) (outcome missing) told ↔ cause = .converter) ∧
    (outcome (.mistyped "inner")).result = .error (.mistyped "inner") ∧
    (outcome (.mistyped "inner")).runs = [.run byte word four] := by
  refine ⟨by decide, rfl, rfl, ?_, rfl, rfl⟩
  have explained : ∃! cause : Cause, cause.Explains (context missing) (.option (.option byte))
      (some (some four)) (.option word) (outcome missing) told :=
    convert_error_explained (by decide) _ _ rfl
  obtain ⟨found, explains, only⟩ := explained
  have shown : found = .converter := explains.eq_of
  intro cause
  constructor
  · intro h
    exact (only cause h).trans shown
  · rintro rfl
    rw [← shown]
    exact explains

end Refusing

end Context

end TypedArguments
