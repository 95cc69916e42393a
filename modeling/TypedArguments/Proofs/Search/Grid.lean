import TypedArguments.Proofs.Search.Order

/-!
# The grid of announced conversions

The types within the source and the types within the target span a grid of pairs, and a conversion
is announced exactly if one of the pairs is of one type only or registered (`supports_grid`). A
context that grows (`Context.Grows`) keeps its grids and their registered pairs, so that no
registration takes an announcement back (`Grows.supports`).
-/

namespace TypedArguments

variable {κ : Type} [DecidableEq κ] [UserTypes κ]

namespace Context

variable {ctx ctx' : Context κ}

/-- The second context has all the nullable types of the first, and converters for all its pairs,
be they the same or others. -/
structure Grows (ctx ctx' : Context κ) : Prop where
  optionals : ctx.optionals ⊆ ctx'.optionals
  contains : ∀ s t, ctx.contains s t = true → ctx'.contains s t = true

/-- Whatever is registered, a context grows. -/
lemma grows_extend (ctx : Context κ) (rs : List (Registration κ)) :
    ctx.Grows (ctx.extend rs).value where
  optionals _ hu := mem_optionals_extend.2 (.inr hu)
  contains _ _ h := contains_extend h

namespace Grows

variable (h : ctx.Grows ctx')

include h

/-- A way through layers stays one. -/
lemma layers {t c : Ty κ} : Nonempty (Layers ctx t c) → Nonempty (Layers ctx' t c)
  | ⟨p⟩ => ⟨p.mono h.optionals⟩

/-- What is announced stays announced. -/
lemma supports {s t : Ty κ} (hs : ctx.supports s t = true) : ctx'.supports s t = true := by
  obtain ⟨s', t', p, q, related⟩ := (supports_iff s t).1 hs
  exact (supports_iff s t).2
    ⟨s', t', h.layers p, h.layers q, related.imp_right (h.contains s' t')⟩

end Grows

/-- A conversion is announced exactly if some type within the source is one within the target, or
has a converter to one. No later registration takes that back. -/
theorem supports_grid (ctx : Context κ) (s t : Ty κ) :
    (ctx.supports s t = true ↔
      ∃ s' ∈ ctx.peeled s, ∃ t' ∈ ctx.peeled t, s' = t' ∨ ctx.contains s' t' = true) ∧
    ∀ rs, ctx.supports s t = true → (ctx.extend rs).value.supports s t = true := by
  refine ⟨?_, fun rs => (ctx.grows_extend rs).supports⟩
  rw [supports_iff]
  constructor
  · rintro ⟨s', t', p, q, related⟩
    exact ⟨s', mem_peeled_iff.2 p, t', mem_peeled_iff.2 q, related⟩
  · rintro ⟨s', hs, t', ht, related⟩
    exact ⟨s', t', mem_peeled_iff.1 hs, mem_peeled_iff.1 ht, related⟩

end Context

end TypedArguments
