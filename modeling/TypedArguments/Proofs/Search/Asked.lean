import TypedArguments.Proofs.Search.Descent

/-!
# What a search asks for

A search asks a registry for the pairs of its hops and for nothing else. So two contexts with the
same nullable types and with the same converters for some pairs (`Context.AgreeOn`) have the same
searches as long as these keep to such pairs (`AgreeOn.searches`). The pairs of a search for another
type are of two different types each, which is why a conversion from a type to itself makes no
difference to any conversion (`convert_register_self`).
-/

namespace TypedArguments

variable {κ : Type} [DecidableEq κ] [UserTypes κ]

namespace Context

variable {ctx ctx' : Context κ} {P : Ty κ → Ty κ → Prop}

/-- Both contexts have the same nullable types and, for the pairs of `P`, the same converters. -/
structure AgreeOn (P : Ty κ → Ty κ → Prop) (ctx ctx' : Context κ) : Prop where
  optionals : ∀ u, u ∈ ctx.optionals ↔ u ∈ ctx'.optionals
  converters : ∀ s t, P s t → ctx.find? s t = ctx'.find? s t

namespace AgreeOn

/-- Agreement goes both ways. -/
lemma symm (h : AgreeOn P ctx ctx') : AgreeOn P ctx' ctx :=
  ⟨fun u => (h.optionals u).symm, fun s t hp => (h.converters s t hp).symm⟩

variable (h : AgreeOn P ctx ctx')

include h

/-- The same types have an absent value. -/
lemma absent?_eq (t : Ty κ) : ctx.absent? t = ctx'.absent? t := by
  cases t with
  | base b => rfl
  | option u => simp only [absent?, h.optionals]

/-- The same types accept null. -/
lemma acceptsNull_eq (t : Ty κ) : ctx.acceptsNull t = ctx'.acceptsNull t := by
  rw [acceptsNull, acceptsNull, h.absent?_eq]

/-- The same values are absent. -/
lemma isAbsent_eq (s : Ty κ) (v : s.Val) : ctx.isAbsent s v = ctx'.isAbsent s v := by
  cases s with
  | base b => rfl
  | option u => simp only [isAbsent, h.optionals]

/-- The same ways lead through layers. -/
lemma layers {t c : Ty κ} : Nonempty (Layers ctx t c) ↔ Nonempty (Layers ctx' t c) := by
  constructor
  · rintro ⟨p⟩
    exact ⟨p.mono fun u => (h.optionals u).1⟩
  · rintro ⟨p⟩
    exact ⟨p.mono fun u => (h.optionals u).2⟩

/-- Pairs on which the contexts agree are taken in both or in neither. -/
lemma contains_eq {s t : Ty κ} (hp : P s t) : ctx.contains s t = ctx'.contains s t :=
  congrArg Option.isSome (h.converters s t hp)

/-- A search whose hops are pairs of `P` follows the same rules in both contexts. -/
lemma searches {s t : Ty κ} {v : s.Val} {o : Outcome t} (ho : Searches ctx s v t o)
    (asked : ∀ p ∈ o.hops, P p.1 p.2) : Searches ctx' s v t o := by
  -- each rule asks for the pair of its own hop, and the rest of the search for those of its hops
  induction ho with
  | direct hf =>
    rw [h.converters _ _ (asked _ List.mem_cons_self)] at hf
    exact .direct hf
  | absent hf hu ha =>
    rw [h.converters _ _ (asked _ List.mem_cons_self)] at hf
    rw [h.optionals] at hu
    rw [h.isAbsent_eq] at ha
    exact .absent hf hu ha
  | target hf hu ha _ ih =>
    have later := ih fun p hp => asked p (List.mem_cons_of_mem _ hp)
    rw [h.converters _ _ (asked _ List.mem_cons_self)] at hf
    rw [h.optionals] at hu
    rw [h.isAbsent_eq] at ha
    exact .target hf hu ha later
  | astray hf ht hs =>
    rw [h.converters _ _ (asked _ List.mem_cons_self)] at hf
    rw [h.acceptsNull_eq] at ht hs
    exact .astray hf ht hs
  | empty hf ht hs =>
    rw [h.converters _ _ (asked _ List.mem_cons_self)] at hf
    rw [h.acceptsNull_eq] at ht
    rw [h.optionals] at hs
    exact .empty hf ht hs
  | source hf ht hs _ ih =>
    have later := ih fun p hp => asked p (List.mem_cons_of_mem _ hp)
    rw [h.converters _ _ (asked _ List.mem_cons_self)] at hf
    rw [h.acceptsNull_eq] at ht
    rw [h.optionals] at hs
    exact .source hf ht hs later

/-- A search whose hops are pairs of `P` is the same one in both contexts, step by step. -/
lemma search_eq {s t : Ty κ} {v : s.Val} (asked : ∀ p ∈ (ctx.search s v t).hops, P p.1 p.2) :
    ctx.search s v t = ctx'.search s v t :=
  (h.searches (ctx.search_searches s v t) asked).eq_search.symm

end AgreeOn

/-- Contexts that agree on the pairs of different types convert every argument alike, step by
step. -/
lemma AgreeOn.convert_eq (h : AgreeOn (· ≠ ·) ctx ctx') (a : Argument κ) (t : Ty κ) :
    ctx.convert a t = ctx'.convert a t := by
  cases a with
  | null => rw [convert, convert, h.absent?_eq]
  | stored d rendering =>
    obtain ⟨s, v⟩ := d
    by_cases e : s = t
    · subst e
      rw [convert_self, convert_self]
    · rw [convert_of_ne e, convert_of_ne e]
      exact h.search_eq ((ctx.search_searches s v t).hops_ne e)

/-- What is announced in one context is announced in the other. -/
lemma AgreeOn.supports_of_supports (h : AgreeOn (· ≠ ·) ctx ctx') {s t : Ty κ}
    (hs : ctx.supports s t = true) : ctx'.supports s t = true := by
  obtain ⟨s', t', p, q, related⟩ := (supports_iff s t).1 hs
  refine (supports_iff s t).2 ⟨s', t', h.layers.1 p, h.layers.1 q, ?_⟩
  by_cases e : s' = t'
  · exact .inl e
  · rw [← h.contains_eq e]
    exact related

/-- Contexts that agree on the pairs of different types announce the same. -/
lemma AgreeOn.supports_eq (h : AgreeOn (· ≠ ·) ctx ctx') (s t : Ty κ) :
    ctx.supports s t = ctx'.supports s t := by
  have back : AgreeOn (· ≠ ·) ctx' ctx := h.symm
  exact Bool.eq_iff_iff.2 ⟨h.supports_of_supports, back.supports_of_supports⟩

/-- A conversion from a type to itself is for a pair of one type only. -/
lemma agreeOn_insert_self (ctx : Context κ) {t : Ty κ} (f : Converter t t) :
    AgreeOn (· ≠ ·) (ctx.insert ⟨t, t, f⟩) ctx where
  optionals _ := Iff.rfl
  converters s u ne := by
    apply find?_insert_of_ne
    rintro e
    cases e
    exact ne rfl

/-- A registered conversion from a type to itself makes no difference: every argument is converted
as before, step by step, and the same is announced. A value is read at its own type as it is,
whatever is registered. -/
theorem convert_register_self (ctx : Context κ) (t : Ty κ) (f : Converter t t) :
    (∀ a u, (ctx.register ⟨t, t, f⟩).value.convert a u = ctx.convert a u) ∧
    (∀ s u, (ctx.register ⟨t, t, f⟩).value.supports s u = ctx.supports s u) ∧
    (∀ u, (ctx.register ⟨t, t, f⟩).value.acceptsNull u = ctx.acceptsNull u) ∧
    ∀ (rs : List (Registration κ)) (invocation : Nat) (before after : List (Argument κ))
      (v : t.Val) (rendering : String),
      (ctx.extend rs).value.convert (.stored ⟨t, v⟩ rendering) t = .found v ∧
      ((Accessor.mk invocation (ctx.extend rs).value
        (before ++ .stored ⟨t, v⟩ rendering :: after)).read before.length t).value = .ok v := by
  have agree := ctx.agreeOn_insert_self f
  refine ⟨agree.convert_eq, agree.supports_eq, agree.acceptsNull_eq, ?_⟩
  intro rs invocation before after v rendering
  have here : (before ++ .stored ⟨t, v⟩ rendering :: after)[before.length]? =
      some (.stored ⟨t, v⟩ rendering) := by
    rw [List.getElem?_append_right (Nat.le_refl _), Nat.sub_self, List.getElem?_cons_zero]
  refine ⟨convert_self t v rendering, ?_⟩
  rw [Accessor.read_self here]

end Context

end TypedArguments
