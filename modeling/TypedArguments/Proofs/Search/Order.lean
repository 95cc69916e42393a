import TypedArguments.Proofs.Search.Coherence

/-!
# The order of a search

The pairs of types that a search looks at stand in one list (`Context.order`): the source with every
type within the target, and then every type within the source with the core of the target. The
first registered pair of the list (`Context.firstPair?`) is the first one on the search's way
(`firstPair?_eq_some_iff`), so its converter, and no other, is the one that a search runs
(`convert_runs_firstPair`).
-/

namespace TypedArguments

variable {κ : Type} [DecidableEq κ] [UserTypes κ]

namespace Context

variable {ctx : Context κ}

/-- A type and, one after the other, the contents of its nullable layers, down to the core. -/
def peeled (ctx : Context κ) : Ty κ → List (Ty κ)
  | .base b => [.base b]
  | .option u => .option u :: if u ∈ ctx.optionals then ctx.peeled u else []

/-- The pairs that a search from `s` to `t` looks at, in this order. -/
def order (ctx : Context κ) (s t : Ty κ) : List (Ty κ × Ty κ) :=
  (ctx.peeled t).map (fun t' => (s, t')) ++ (ctx.peeled s).tail.map fun s' => (s', ctx.core t)

/-- The first of the pairs for which a converter is registered. -/
def firstPair? (ctx : Context κ) (s t : Ty κ) : Option (Ty κ × Ty κ) :=
  (ctx.order s t).find? fun p => ctx.contains p.1 p.2

/-- The types within a nullable type are the type itself and those within its content. -/
lemma peeled_option {u : Ty κ} (hu : u ∈ ctx.optionals) :
    ctx.peeled (.option u) = .option u :: ctx.peeled u := by
  rw [peeled, if_pos hu]

/-- No other type is within a type that is not nullable. -/
lemma peeled_of_not_acceptsNull {t : Ty κ} (ht : ctx.acceptsNull t = false) :
    ctx.peeled t = [t] := by
  cases t with
  | base b => rfl
  | option u => rw [peeled, if_neg (acceptsNull_option_eq_false.1 ht)]

/-- The first type within a type is the type itself. -/
lemma peeled_eq_cons (t : Ty κ) : ctx.peeled t = t :: (ctx.peeled t).tail := by
  cases t with
  | base b => rfl
  | option u => rfl

/-- A type that a way leads to is among the types within. -/
lemma mem_peeled_of_layers {t c : Ty κ} (p : Layers ctx t c) : c ∈ ctx.peeled t := by
  induction p with
  | refl t =>
    rw [peeled_eq_cons]
    exact List.mem_cons_self
  | layer hu p ih =>
    rw [peeled_option hu]
    exact List.mem_cons_of_mem _ ih

/-- A way leads to every type within a type. -/
lemma layers_of_mem_peeled {t c : Ty κ} (h : c ∈ ctx.peeled t) : Nonempty (Layers ctx t c) := by
  induction t with
  | base b =>
    rw [List.mem_singleton.1 h]
    exact ⟨.refl _⟩
  | option u ih =>
    rw [peeled, List.mem_cons] at h
    obtain rfl | h := h
    · exact ⟨.refl _⟩
    · split at h
      case isTrue hu =>
        obtain ⟨p⟩ := ih h
        exact ⟨.layer hu p⟩
      case isFalse => cases h

/-- The types within a type are exactly those that a way leads to. -/
lemma mem_peeled_iff {t c : Ty κ} : c ∈ ctx.peeled t ↔ Nonempty (Layers ctx t c) :=
  ⟨layers_of_mem_peeled, fun ⟨p⟩ => mem_peeled_of_layers p⟩

/-- The search for a nullable type looks at the pair itself and goes on with the content. -/
lemma order_option {s u : Ty κ} (hu : u ∈ ctx.optionals) :
    ctx.order s (.option u) = (s, .option u) :: ctx.order s u := by
  rw [order, order, peeled_option hu, core_option hu]
  rfl

/-- For a type that is not nullable, only the source changes on the way. -/
lemma order_of_not_acceptsNull {s t : Ty κ} (ht : ctx.acceptsNull t = false) :
    ctx.order s t = (ctx.peeled s).map fun s' => (s', t) := by
  rw [order, peeled_of_not_acceptsNull ht, core_of_not_acceptsNull ht, peeled_eq_cons s]
  rfl

/-- From a nullable type to one that is not nullable, the search looks at the pair itself and goes
on from the content. -/
lemma order_from_option {s t : Ty κ} (ht : ctx.acceptsNull t = false) (hs : s ∈ ctx.optionals) :
    ctx.order (.option s) t = (.option s, t) :: ctx.order s t := by
  rw [order_of_not_acceptsNull ht, order_of_not_acceptsNull ht, peeled_option hs]
  rfl

/-- A pair without a converter is not taken. -/
lemma not_contains {s t : Ty κ} (hf : ctx.find? s t = none) : ¬ ctx.contains s t = true := by
  rw [contains_eq_false.2 hf]
  exact Bool.false_ne_true

/-- A registered pair that is asked for is the first one. -/
lemma firstPair?_of_contains {s t : Ty κ} (hc : ctx.contains s t = true) :
    ctx.firstPair? s t = some (s, t) := by
  rw [firstPair?, order, peeled_eq_cons t]
  exact List.find?_cons_of_pos hc

/-- Without a converter for the pair itself, the first pair on the way to a nullable type is that on
the way to its content. -/
lemma firstPair?_option {s u : Ty κ} (hf : ctx.find? s (.option u) = none)
    (hu : u ∈ ctx.optionals) : ctx.firstPair? s (.option u) = ctx.firstPair? s u := by
  rw [firstPair?, order_option hu]
  exact List.find?_cons_of_neg (not_contains hf)

/-- Without a converter for the pair itself, the first pair on the way from a nullable type to one
that is not nullable is that on the way from its content. -/
lemma firstPair?_from_option {s t : Ty κ} (hf : ctx.find? (.option s) t = none)
    (ht : ctx.acceptsNull t = false) (hs : s ∈ ctx.optionals) :
    ctx.firstPair? (.option s) t = ctx.firstPair? s t := by
  rw [firstPair?, firstPair?, order_from_option ht hs]
  exact List.find?_cons_of_neg (not_contains hf)

/-- Where no layer is left on either side and the pair has no converter, there is no first pair. -/
lemma firstPair?_eq_none {s t : Ty κ} (hf : ctx.find? s t = none)
    (ht : ctx.acceptsNull t = false) (hs : ctx.acceptsNull s = false) :
    ctx.firstPair? s t = none := by
  rw [firstPair?, order_of_not_acceptsNull ht, peeled_of_not_acceptsNull hs]
  exact List.find?_cons_of_neg (not_contains hf)

/-- The first pair through the target's layers is one on the search's way, if it is so where the
search goes on from the source. -/
lemma nonempty_hit_of_past {s : Ty κ} {p : Ty κ × Ty κ}
    (past : ∀ t, ctx.find? s t = none → ctx.acceptsNull t = false →
      ctx.firstPair? s t = some p → Nonempty (Hit ctx s t p.1 p.2))
    (t : Ty κ) (h : ctx.firstPair? s t = some p) : Nonempty (Hit ctx s t p.1 p.2) := by
  -- the source stays as it is here; it is left once, at the core of the target
  induction t with
  | base b =>
    cases hf : ctx.find? s (.base b) with
    | some f =>
      cases (firstPair?_of_contains (contains_iff.2 ⟨f, hf⟩)).symm.trans h
      exact ⟨.direct hf⟩
    | none => exact past _ hf rfl h
  | option u ih =>
    cases hf : ctx.find? s (.option u) with
    | some f =>
      cases (firstPair?_of_contains (contains_iff.2 ⟨f, hf⟩)).symm.trans h
      exact ⟨.direct hf⟩
    | none =>
      by_cases hu : u ∈ ctx.optionals
      · obtain ⟨hit⟩ := ih ((firstPair?_option hf hu).symm.trans h)
        exact ⟨hit.throughTarget hf hu⟩
      · exact past _ hf (acceptsNull_option_eq_false.2 hu) h

/-- The first registered pair of the list is on the search's way. -/
lemma nonempty_hit_of_firstPair? {s t : Ty κ} {p : Ty κ × Ty κ}
    (h : ctx.firstPair? s t = some p) : Nonempty (Hit ctx s t p.1 p.2) := by
  induction s generalizing t with
  | base b =>
    refine nonempty_hit_of_past ?_ t h
    intro t hf ht h
    cases (firstPair?_eq_none hf ht rfl).symm.trans h
  | option s ih =>
    refine nonempty_hit_of_past ?_ t h
    intro t hf ht h
    by_cases hs : s ∈ ctx.optionals
    · obtain ⟨hit⟩ := ih ((firstPair?_from_option hf ht hs).symm.trans h)
      exact ⟨hit.throughSource hf ht hs⟩
    · cases (firstPair?_eq_none hf ht (acceptsNull_option_eq_false.2 hs)).symm.trans h

/-- A pair on the search's way is in the list. -/
lemma Hit.mem_order {s t s' t' : Ty κ} (hit : Hit ctx s t s' t') : (s', t') ∈ ctx.order s t := by
  rw [order, List.mem_append]
  by_cases e : s' = s
  · subst e
    exact .inl (List.mem_map_of_mem (mem_peeled_of_layers hit.target))
  · right
    -- only at the core of the target does a search go on from the source
    have ht : t' = ctx.core t := hit.target.eq_core (hit.turn.resolve_left e)
    have mem := mem_peeled_of_layers hit.source
    rw [peeled_eq_cons] at mem
    rw [ht]
    exact List.mem_map_of_mem ((List.mem_cons.1 mem).resolve_left e)

/-- The first registered pair of the list is the first one on the search's way. -/
theorem firstPair?_eq_some_iff {s t s' t' : Ty κ} :
    ctx.firstPair? s t = some (s', t') ↔ Nonempty (Hit ctx s t s' t') := by
  constructor
  · exact nonempty_hit_of_firstPair?
  · rintro ⟨hit⟩
    have registered : ctx.contains s' t' = true := contains_iff.2 ⟨_, hit.registered⟩
    cases h : ctx.firstPair? s t with
    | none => exact absurd registered (List.find?_eq_none.1 h _ hit.mem_order)
    | some p =>
      obtain ⟨first⟩ := nonempty_hit_of_firstPair? h
      obtain ⟨hs, ht⟩ := first.pair_eq hit
      rw [← hs, ← ht]

/-- What a search from the value `v` of `s` for a value of `t` does with the converters: it runs at
most one of them, that of the first registered pair. A value that stands for nothing gets no further
than the pair of `s` and `t` itself. -/
structure RunsFirstPair (ctx : Context κ) (s : Ty κ) (v : s.Val) (t : Ty κ) (o : Outcome t) :
    Prop where
  once : o.runs.length ≤ 1
  /-- The pair itself is run, and its result is the result. -/
  direct : ctx.firstPair? s t = some (s, t) →
    ∃ f, ctx.find? s t = some f ∧ o.runs = [.run s t v] ∧ o.result = f v
  /-- Otherwise a value that stands for nothing does so at a nullable target. -/
  absent : ctx.firstPair? s t ≠ some (s, t) → ctx.isAbsent s v = true →
    o.runs = [] ∧ o.result = match ctx.absent? t with
      | some w => .ok w
      | none => .error (.null t.name)
  /-- Otherwise the first pair is run, if its source can be reached within the value. Its values
  are put into the layers that the way through the target has left behind. -/
  within : ctx.firstPair? s t ≠ some (s, t) → ctx.isAbsent s v = false →
    ∀ {s' t'}, ctx.firstPair? s t = some (s', t') →
      ∃ (p : Layers ctx s s') (q : Layers ctx t t') (f : Converter s' t'),
        ctx.find? s' t' = some f ∧ ∀ w, p.unwrap v = some w →
          o.runs = [.run s' t' w] ∧
          (∀ y, f w = .ok y → o.result = .ok (q.wrap y)) ∧
          ∀ e, f w = .error e → o.result = .error (e.restate s.name t.name)
  /-- In all other cases nothing is run, and the search fails. -/
  idle : ctx.firstPair? s t ≠ some (s, t) → ctx.isAbsent s v = false →
    (∀ {s' t'} (p : Layers ctx s s'), ctx.firstPair? s t = some (s', t') → p.unwrap v = none) →
      o.runs = [] ∧ ∃ e, o.result = .error e

/-- A converter that is run in the end is that of the first pair. -/
lemma Hit.runsFirstPair {s t s' t' : Ty κ} (hit : Hit ctx s t s' t') {v : s.Val} {w : s'.Val}
    {o : Outcome t} (hw : hit.source.unwrap v = some w)
    (only : ctx.isAbsent s v = true → s' = s ∧ t' = t) (runs : o.runs = [.run s' t' w])
    (result : o.result = hit.result w) : RunsFirstPair ctx s v t o := by
  have first : ctx.firstPair? s t = some (s', t') := firstPair?_eq_some_iff.2 ⟨hit⟩
  refine ⟨?_, ?_, ?_, ?_, ?_⟩
  · rw [runs]
    exact Nat.le_refl 1
  · intro h
    cases first.symm.trans h
    obtain ⟨f, hf⟩ : ∃ f, ctx.find? s t = some f := ⟨_, hit.registered⟩
    obtain rfl := hit.unique (.direct hf)
    cases hw
    exact ⟨f, hf, runs, result.trans (Hit.result_direct hf v)⟩
  · intro other absent
    obtain ⟨rfl, rfl⟩ := only absent
    exact absurd first other
  · intro other _ s₁ t₁ h
    cases first.symm.trans h
    refine ⟨hit.source, hit.target, hit.converter, hit.registered, ?_⟩
    intro w' hw'
    cases hw.symm.trans hw'
    refine ⟨runs, ?_, ?_⟩
    · intro y hy
      exact result.trans (hit.result_eq_ok_iff.2 ⟨y, hy, rfl⟩)
    · intro e he
      have restated : hit.report e = e.restate s.name t.name := by
        apply if_neg
        rintro ⟨rfl, rfl⟩
        exact other first
      exact result.trans (hit.result_eq_error_iff.2 ⟨e, he, restated.symm⟩)
  · intro _ _ untaken
    cases (untaken hit.source first).symm.trans hw

/-- However a search ends, it has run at most the converter of the first pair. -/
lemma Ends.runsFirstPair {s t : Ty κ} {v : s.Val} {o : Outcome t} (h : Ends ctx s v t o) :
    RunsFirstPair ctx s v t o := by
  cases h with
  | ran hit hw only runs result => exact hit.runsFirstPair hw only runs result
  | @absent w hf ha hw runs result =>
    refine ⟨?_, ?_, ?_, ?_, ?_⟩
    · rw [runs]
      exact Nat.zero_le 1
    · intro first
      obtain ⟨hit⟩ := firstPair?_eq_some_iff.1 first
      cases hf.symm.trans hit.registered
    · intro _ _
      rw [hw]
      exact ⟨runs, result⟩
    · intro _ ha'
      cases ha.symm.trans ha'
    · intro _ ha'
      cases ha.symm.trans ha'
  | astray lead full runs result =>
    -- every pair of the list that is registered would be on the way
    have none_first : ∀ p, ctx.firstPair? s t ≠ some p := by
      intro p first
      obtain ⟨hit⟩ := nonempty_hit_of_firstPair? first
      exact lead hit.leads
    refine ⟨?_, ?_, ?_, ?_, ?_⟩
    · rw [runs]
      exact Nat.zero_le 1
    · intro first
      exact absurd first (none_first _)
    · intro _ ha
      cases ha.symm.trans (isAbsent_of_populated full)
    · intro _ _ s' t' first
      exact absurd first (none_first _)
    · exact fun _ _ _ => ⟨runs, _, result⟩
  | empty full only runs result untaken =>
    refine ⟨?_, ?_, ?_, ?_, ?_⟩
    · rw [runs]
      exact Nat.zero_le 1
    · intro first
      obtain ⟨hit⟩ := firstPair?_eq_some_iff.1 first
      have taken := untaken hit
      rw [hit.source.unique (.refl s)] at taken
      cases taken
    · intro _ ha
      -- the outermost layer is the empty one, so the target is its own core
      have ht := only ha
      rw [absent?_eq_none ht, result, core_of_not_acceptsNull ht]
      exact ⟨runs, rfl⟩
    · intro _ _ s' t' first
      obtain ⟨hit⟩ := firstPair?_eq_some_iff.1 first
      refine ⟨hit.source, hit.target, hit.converter, hit.registered, ?_⟩
      intro w hw
      cases (untaken hit).symm.trans hw
    · exact fun _ _ _ => ⟨runs, _, result⟩

/-- Converting a value to another type runs at most one converter, that of the first registered pair
in the order of the search. -/
theorem convert_runs_firstPair {s t : Ty κ} (ne : s ≠ t) (v : s.Val) (rendering : String) :
    RunsFirstPair ctx s v t (ctx.convert (.stored ⟨s, v⟩ rendering) t) := by
  rw [convert_of_ne ne]
  exact (ctx.search_searches s v t).ends.runsFirstPair

namespace Nested

open Detour (byte word four wide)

/-- The first registered pair is the last one in the order, and its converter takes what is under
two layers. -/
theorem firstPair?_byte_word :
    (Ty.option (.option byte) : Ty Empty) ≠ .option word ∧
    (context widen).order (.option (.option byte)) (.option word) =
      [(.option (.option byte), .option word), (.option (.option byte), word),
        (.option byte, word), (byte, word)] ∧
    (context widen).firstPair? (.option (.option byte)) (.option word) = some (byte, word) ∧
    RunsFirstPair (context widen) (.option (.option byte)) (some (some four)) (.option word)
      ((context widen).convert (.stored ⟨.option (.option byte), some (some four)⟩ "4")
        (.option word)) ∧
    ((context widen).convert (.stored ⟨.option (.option byte), some (some four)⟩ "4")
      (.option word)).runs = [.run byte word four] ∧
    ((context widen).convert (.stored ⟨.option (.option byte), some (some four)⟩ "4")
      (.option word)).result = .ok (some wide) :=
  ⟨by decide, by decide, by decide, convert_runs_firstPair (by decide) _ _, rfl, rfl⟩

end Nested

end Context

end TypedArguments
