import TypedArguments.Proofs.Search.Absence

/-!
# Missing values

There are two ways for a value to be missing: the null argument, which a conversion deals with at
once, and the empty value of a nullable type, which goes through the search. Unless a converter
takes the empty value, both come to the same at every type (`Context.result_search_none`): the empty
value of a nullable type, and otherwise the error that names the type. `Context.Absence` says how a
context deals with missing values, and `convert_missing` that every context does, its nullable types
being those that were registered.
-/

namespace TypedArguments

variable {κ : Type} [DecidableEq κ] [UserTypes κ]

namespace Context

variable {ctx : Context κ}

/-- The null argument is read as the empty value of a nullable type. -/
lemma result_convert_null {u : Ty κ} (hu : u ∈ ctx.optionals) :
    (ctx.convert .null (.option u)).result = .ok none := by
  rw [convert, absent?_option hu]
  rfl

/-- The null argument is refused by a type that is not nullable. -/
lemma result_convert_null_of_not_acceptsNull {t : Ty κ} (ht : ctx.acceptsNull t = false) :
    (ctx.convert .null t).result = .error (.null t.name) := by
  rw [convert, absent?_eq_none ht]
  rfl

/-- Without a converter that takes it, the empty value of a nullable type is read as the null
argument is. -/
lemma result_search_none {s t : Ty κ} (hs : s ∈ ctx.optionals)
    (hf : ctx.find? (.option s) t = none) :
    (ctx.search (.option s) none t).result = (ctx.convert .null t).result := by
  cases ht : ctx.acceptsNull t with
  | true =>
    obtain ⟨u, hu, rfl⟩ := exists_of_acceptsNull ht
    have absent : ctx.isAbsent (.option s) none = true := isAbsent_option.2 ⟨rfl, hs⟩
    rw [(Searches.absent hf hu absent).eq_search, result_convert_null hu]
    rfl
  | false =>
    rw [(Searches.empty hf ht hs).eq_search, result_convert_null_of_not_acceptsNull ht]
    rfl

/-- How a context deals with missing values, if the contents of its nullable types are those of
`P`. -/
structure Absence (P : Ty κ → Prop) (ctx : Context κ) : Prop where
  nullable : ∀ t, ctx.acceptsNull t = true ↔ ∃ s, P s ∧ t = .option s
  /-- The null argument is read as the empty value of a nullable type. -/
  null : ∀ s, P s → (ctx.convert .null (.option s)).result = .ok none
  /-- Other types refuse it. -/
  refused : ∀ t, ctx.acceptsNull t = false →
    (ctx.convert .null t).result = .error (.null t.name)
  /-- The empty value of a nullable type is read as the null argument is, at any other type to which
  no converter takes it. -/
  empty : ∀ s, P s → ∀ t, t ≠ .option s → ctx.contains (.option s) t = false →
    ∀ rendering, (ctx.convert (.stored ⟨.option s, none⟩ rendering) t).result =
      (ctx.convert .null t).result

/-- Every context deals with missing values in this way. -/
lemma absence {P : Ty κ → Prop} (contents : ∀ s, s ∈ ctx.optionals ↔ P s) : ctx.Absence P where
  nullable t := by
    constructor
    · intro ht
      obtain ⟨u, hu, rfl⟩ := exists_of_acceptsNull ht
      exact ⟨u, (contents u).1 hu, rfl⟩
    · rintro ⟨s, hs, rfl⟩
      exact acceptsNull_option.2 ((contents s).2 hs)
  null s hs := result_convert_null ((contents s).2 hs)
  refused _ ht := result_convert_null_of_not_acceptsNull ht
  empty s hs t ne free rendering := by
    rw [convert_of_ne ne.symm]
    exact result_search_none ((contents s).2 hs) (contains_eq_false.1 free)

/-- A missing value is dealt with alike, be it the null argument or an empty value. The nullable
types are the optional ones over the types registered for that; in a standard context these are the
scalars and the ones registered later. -/
theorem convert_missing (rs : List (Registration κ)) :
    Absence (fun s => .optional s ∈ rs) (empty.extend rs).value ∧
    ∀ readsText, Absence (fun s => (∃ k, s = .scalar k) ∨ .optional s ∈ rs)
      ((standard readsText).value.extend rs).value := by
  constructor
  · apply absence
    intro s
    rw [mem_optionals_extend]
    exact or_iff_left List.not_mem_nil
  · intro readsText
    apply absence
    intro s
    have scalars : s ∈ (standard readsText : Logged (Context κ)).value.optionals ↔
        ∃ k, s = .scalar k := by
      rw [standard, mem_optionals_extend, optional_mem_standardRegistrations]
      exact or_iff_left List.not_mem_nil
    rw [mem_optionals_extend, scalars, or_comm]

/-- An empty value is read as one of another nullable type, though nothing is announced between
them. -/
example :
    ((Nested.context Nested.widen).supports (.option Detour.word) (.option Detour.byte) = false) ∧
    ((Nested.context Nested.widen).convert (.stored ⟨.option Detour.word, none⟩ "None")
      (.option Detour.byte)).result = .ok none :=
  ⟨by decide, rfl⟩

end Context

end TypedArguments
