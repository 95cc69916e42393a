import TypedArguments.Proofs.Search.Support

/-!
# A new nullable type

What becomes of conversions when the optional type over `r` is made nullable, if neither boxing nor
unboxing was registered for `r` (`Context.Fresh`). The registered converters stay, and so do the
ways through layers, so the first pair on the way of a search is mostly still the first one
(`Hit.exists_insertOptional`). There are two exceptions. From the optional type over `r` to `r`
itself the new unboxing comes first, which refuses the empty value. And to a target with the new
layer in it, a converter that led from within the source to that layer is passed by, since the
search now goes on to `r`. Apart from these, what could be converted still can be
(`Context.convert_registerOptional`).
-/

namespace TypedArguments

variable {κ : Type} [DecidableEq κ] [UserTypes κ]

namespace Context

variable {ctx : Context κ} {r : Ty κ}

/-- Neither boxing nor unboxing is registered for `r`. -/
structure Fresh (ctx : Context κ) (r : Ty κ) : Prop where
  boxing : ctx.contains r (.option r) = false
  unboxing : ctx.contains (.option r) r = false

/-- The optional type over `r` was not made nullable before. -/
lemma Fresh.notMem (fresh : ctx.Fresh r) : r ∉ ctx.optionals := by
  intro h
  cases fresh.boxing.symm.trans (ctx.boxed r h)

namespace Interposed

open Detour (byte word four wide)

/-- Conversions to an optional type that is not nullable and to its content, from the content of one
that is. -/
def context (f : Converter byte word) : Context Empty :=
  (empty.extend [.optional byte, .conversion ⟨byte, .option word, fun _ => .ok (some wide)⟩,
    .conversion ⟨byte, word, f⟩]).value

/-- Neither boxing nor unboxing is registered for the target's content. -/
lemma fresh (f : Converter byte word) : (context f).Fresh word :=
  ⟨rfl, rfl⟩

end Interposed

end Context

end TypedArguments
