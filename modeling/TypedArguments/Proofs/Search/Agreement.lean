import TypedArguments.Proofs.Search.Asked

/-!
# Contexts that agree

Two contexts may know the same, apart from the conversions from some types (`Context.AgreeExcept`).
The same registrations leave it at that (`AgreeExcept.extend`). The hops of a search start from
types within its source, so where none of these is excepted, it is the same search in both contexts
(`AgreeExcept.convert_eq`), and the same is announced (`AgreeExcept.supports_eq`).
-/

namespace TypedArguments

variable {κ : Type} [DecidableEq κ] [UserTypes κ]

namespace Context

variable {ctx ctx' : Context κ} {P : Ty κ → Prop}

/-- Both contexts have the same nullable types and, from types other than those of `P`, the same
converters. -/
structure AgreeExcept (P : Ty κ → Prop) (ctx ctx' : Context κ) : Prop where
  optionals : ctx.optionals = ctx'.optionals
  converters : ∀ s t, ¬ P s → ctx.find? s t = ctx'.find? s t

/-- No type within `s` is one of `P`. -/
def Avoids (ctx : Context κ) (P : Ty κ → Prop) (s : Ty κ) : Prop :=
  ∀ {s'}, Layers ctx s s' → ¬ P s'

namespace AgreeExcept

/-- A context agrees with itself. -/
lemma refl (P : Ty κ → Prop) (ctx : Context κ) : AgreeExcept P ctx ctx :=
  ⟨rfl, fun _ _ _ => rfl⟩

/-- Agreement goes both ways. -/
lemma symm (h : AgreeExcept P ctx ctx') : AgreeExcept P ctx' ctx :=
  ⟨h.optionals.symm, fun s t hs => (h.converters s t hs).symm⟩

/-- Agreement goes on from one context to the next. -/
lemma trans {ctx'' : Context κ} (h : AgreeExcept P ctx ctx') (h' : AgreeExcept P ctx' ctx'') :
    AgreeExcept P ctx ctx'' :=
  ⟨h.optionals.trans h'.optionals, fun s t hs => (h.converters s t hs).trans (h'.converters s t hs)⟩

/-- Contexts that agree still do with one conversion more in each. -/
lemma insert (h : AgreeExcept P ctx ctx') (c : Conversion κ) :
    AgreeExcept P (ctx.insert c) (ctx'.insert c) where
  optionals := h.optionals
  converters s t hs := by
    by_cases e : c.pair = (s, t)
    · cases e
      rw [find?_insert_self, find?_insert_self]
    · rw [find?_insert_of_ne e, find?_insert_of_ne e]
      exact h.converters s t hs

/-- Contexts that agree still do after the same registration. -/
lemma apply (h : AgreeExcept P ctx ctx') (r : Registration κ) :
    AgreeExcept P (ctx.apply r).value (ctx'.apply r).value := by
  cases r with
  | conversion c => exact h.insert c
  | optional u =>
    refine ⟨?_, ((h.insert (.box u)).insert (.unbox u)).converters⟩
    exact congrArg (addOptional u) h.optionals

/-- Taking in the same registrations does not set contexts apart. -/
lemma extend (h : AgreeExcept P ctx ctx') (rs : List (Registration κ)) :
    AgreeExcept P (ctx.extend rs).value (ctx'.extend rs).value := by
  induction rs generalizing ctx ctx' with
  | nil => exact h
  | cons r rs ih => exact ih (h.apply r)

/-- A conversion from an excepted type makes no difference. -/
lemma insert_right (h : AgreeExcept P ctx ctx') {c : Conversion κ} (hc : P c.source) :
    AgreeExcept P ctx (ctx'.insert c) where
  optionals := h.optionals
  converters s t hs := by
    have ne : c.pair ≠ (s, t) := by
      rintro e
      cases e
      exact hs hc
    rw [find?_insert_of_ne ne]
    exact h.converters s t hs

/-- Nor do conversions from excepted types that only one of them takes in. -/
lemma extend_right (h : AgreeExcept P ctx ctx') {cs : List (Conversion κ)}
    (hcs : ∀ c ∈ cs, P c.source) : AgreeExcept P ctx (ctx'.extend (cs.map .conversion)).value := by
  induction cs generalizing ctx' with
  | nil => exact h
  | cons c cs ih =>
    apply ih
    · exact h.insert_right (hcs c List.mem_cons_self)
    · exact fun d hd => hcs d (List.mem_cons_of_mem _ hd)

variable (h : AgreeExcept P ctx ctx')

include h

/-- Contexts agree on the pairs whose sources are not excepted. -/
lemma agreeOn : AgreeOn (fun s _ => ¬ P s) ctx ctx' :=
  ⟨fun u => by rw [h.optionals], h.converters⟩

/-- A type that avoids the excepted types in one context does so in the other. -/
lemma avoids {s : Ty κ} (free : ctx.Avoids P s) : ctx'.Avoids P s := by
  intro s' p
  obtain ⟨p⟩ := h.agreeOn.layers.2 ⟨p⟩
  exact free p

/-- An argument that avoids the excepted types is converted alike in both contexts, step by step. -/
lemma convert_eq {a : Argument κ} (free : ∀ s, a.type? = some s → ctx.Avoids P s) (t : Ty κ) :
    ctx.convert a t = ctx'.convert a t := by
  cases a with
  | null => rw [convert, convert, h.agreeOn.absent?_eq]
  | stored d rendering =>
    obtain ⟨s, v⟩ := d
    by_cases e : s = t
    · subst e
      rw [convert_self, convert_self]
    · rw [convert_of_ne e, convert_of_ne e]
      apply h.agreeOn.search_eq
      intro p hp
      obtain ⟨within⟩ := (ctx.search_searches s v t).layers_of_mem_hops hp
      exact free s rfl within

/-- From a type that avoids the excepted ones, what is announced in one context is in the other. -/
lemma supports_of_supports {s t : Ty κ} (free : ctx.Avoids P s) (hs : ctx.supports s t = true) :
    ctx'.supports s t = true := by
  obtain ⟨s', t', ⟨p⟩, q, related⟩ := (supports_iff s t).1 hs
  have same : ctx.contains s' t' = ctx'.contains s' t' := h.agreeOn.contains_eq (free p)
  rw [same] at related
  exact (supports_iff s t).2 ⟨s', t', h.agreeOn.layers.1 ⟨p⟩, h.agreeOn.layers.1 q, related⟩

/-- From a type that avoids the excepted ones the same is announced in both contexts. -/
lemma supports_eq {s : Ty κ} (free : ctx.Avoids P s) (t : Ty κ) :
    ctx.supports s t = ctx'.supports s t := by
  rw [Bool.eq_iff_iff]
  constructor
  · exact h.supports_of_supports free
  · exact h.symm.supports_of_supports (h.avoids free)

end AgreeExcept

end Context

end TypedArguments
