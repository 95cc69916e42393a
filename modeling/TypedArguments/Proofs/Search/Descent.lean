import Mathlib.Data.List.Chain
import TypedArguments.Accessor.Basic
import TypedArguments.Proofs.Search.Order

/-!
# The descent of a search

A search goes down the list of pairs that it looks at (`Context.order`): its hops are a beginning of
that list (`Searches.hops_order`). In the list each pair is got from the one before by taking one
nullable layer off, first from the target and then from the source (`Context.Peels`,
`isChain_order`), so its length is bounded by the number of layers (`length_order`). No hop has the
same type on both sides, though the list may have such a pair: boxing or unboxing is found before it
is reached (`Searches.hops_ne`). A search leaves the records of its hops and no others
(`Searches.records_eq`). `convert_descends` puts this together.
-/

namespace TypedArguments

variable {κ : Type} [UserTypes κ]

/-- The pair of types of a hop. -/
def Step.pair? : Step κ → Option (Ty κ × Ty κ)
  | .hop s t => some (s, t)
  | .null _ | .run .. => none

/-- The pairs of types that a search has come by, in order. -/
def Outcome.hops {t : Ty κ} (o : Outcome t) : List (Ty κ × Ty κ) :=
  o.trail.filterMap Step.pair?

/-- The record of an attempt to read is none of a hop. -/
lemma Record.reading_ne_converting (invocation index : Nat) (t a b : Ty κ) :
    Record.reading invocation index t ≠ .converting a b := by
  intro e
  have first := congrArg (fun r => r.message.toList.head?) e
  simp [reading, converting] at first

variable [DecidableEq κ]

namespace Context

variable {ctx : Context κ}

/-- The number of nullable layers of a type, down to the core. -/
def layerCount (ctx : Context κ) : Ty κ → Nat
  | .base _ => 0
  | .option u => if u ∈ ctx.optionals then ctx.layerCount u + 1 else 0

/-- One pair of types after another: a nullable layer is taken off, from the target as long as it
has one and from the source only after that. -/
inductive Peels (ctx : Context κ) : Ty κ × Ty κ → Ty κ × Ty κ → Prop where
  | target {s u : Ty κ} :
    u ∈ ctx.optionals →
    Peels ctx (s, .option u) (s, u)
  | source {s t : Ty κ} :
    ctx.acceptsNull t = false →
    s ∈ ctx.optionals →
    Peels ctx (.option s, t) (s, t)

/-- There are as many types within as layers, and the type itself. -/
lemma length_peeled (t : Ty κ) : (ctx.peeled t).length = ctx.layerCount t + 1 := by
  induction t with
  | base b => rfl
  | option u ih =>
    by_cases hu : u ∈ ctx.optionals
    · rw [peeled_option hu, List.length_cons, ih, layerCount, if_pos hu]
    · rw [peeled, layerCount, if_neg hu, if_neg hu]
      rfl

/-- There are as many pairs as layers, and the first one. -/
lemma length_order (s t : Ty κ) :
    (ctx.order s t).length = 1 + ctx.layerCount t + ctx.layerCount s := by
  rw [order, List.length_append, List.length_map, List.length_map, List.length_tail,
    length_peeled, length_peeled]
  omega

/-- The order of a search begins with the pair that is asked for. -/
lemma order_eq_cons (s t : Ty κ) : ctx.order s t = (s, t) :: (ctx.order s t).tail := by
  rw [order, peeled_eq_cons t]
  rfl

/-- The first pair is the one that is asked for. -/
lemma head?_order (s t : Ty κ) : (ctx.order s t).head? = some (s, t) := by
  rw [order_eq_cons]
  rfl

/-- The pair that is asked for alone is a beginning of the order. -/
lemma singleton_order (s t : Ty κ) : [(s, t)] <+: ctx.order s t :=
  ⟨_, (order_eq_cons s t).symm⟩

/-- From the core of the target on, a layer of the source is taken off at a time. -/
lemma isChain_order_of_not_acceptsNull {s t : Ty κ} (ht : ctx.acceptsNull t = false) :
    (ctx.order s t).IsChain ctx.Peels := by
  induction s with
  | base b =>
    rw [order_of_not_acceptsNull ht]
    exact .singleton _
  | option s ih =>
    by_cases hs : s ∈ ctx.optionals
    · rw [order_from_option ht hs, List.isChain_cons, head?_order]
      refine ⟨?_, ih⟩
      rintro p ⟨⟩
      exact .source ht hs
    · rw [order_of_not_acceptsNull ht, peeled_of_not_acceptsNull (acceptsNull_option_eq_false.2 hs)]
      exact .singleton _

/-- In the order of a search a layer is taken off at a time. -/
lemma isChain_order (s t : Ty κ) : (ctx.order s t).IsChain ctx.Peels := by
  induction t with
  | base b => exact isChain_order_of_not_acceptsNull rfl
  | option u ih =>
    by_cases hu : u ∈ ctx.optionals
    · rw [order_option hu, List.isChain_cons, head?_order]
      refine ⟨?_, ih⟩
      rintro p ⟨⟩
      exact .target hu
    · exact isChain_order_of_not_acceptsNull (acceptsNull_option_eq_false.2 hu)

/-- Every search begins with the pair that is asked for. -/
lemma Searches.exists_hops {s t : Ty κ} {v : s.Val} {o : Outcome t} (h : Searches ctx s v t o) :
    ∃ rest, o.hops = (s, t) :: rest := by
  cases h with
  | direct => exact ⟨_, rfl⟩
  | absent => exact ⟨_, rfl⟩
  | target => exact ⟨_, rfl⟩
  | astray => exact ⟨_, rfl⟩
  | empty => exact ⟨_, rfl⟩
  | source => exact ⟨_, rfl⟩

/-- The hops of a search are a beginning of the list of pairs that it looks at. -/
lemma Searches.hops_order {s t : Ty κ} {v : s.Val} {o : Outcome t} (h : Searches ctx s v t o) :
    o.hops <+: ctx.order s t := by
  induction h with
  | direct => exact singleton_order _ _
  | absent => exact singleton_order _ _
  | target _ hu _ _ ih =>
    obtain ⟨rest, e⟩ := ih
    rw [order_option hu, ← e]
    exact ⟨rest, rfl⟩
  | astray => exact singleton_order _ _
  | empty => exact singleton_order _ _
  | source _ ht hs _ ih =>
    obtain ⟨rest, e⟩ := ih
    rw [order_from_option ht hs, ← e]
    exact ⟨rest, rfl⟩

/-- Each pair in the order starts from a type within the source. -/
lemma layers_of_mem_order {s t : Ty κ} {p : Ty κ × Ty κ} (h : p ∈ ctx.order s t) :
    Nonempty (Layers ctx s p.1) := by
  rw [order, List.mem_append, List.mem_map, List.mem_map] at h
  obtain ⟨t', _, rfl⟩ | ⟨s', hs, rfl⟩ := h
  · exact ⟨.refl s⟩
  · exact layers_of_mem_peeled (List.mem_of_mem_tail hs)

/-- Each hop starts from a type within the source. -/
lemma Searches.layers_of_mem_hops {s t : Ty κ} {v : s.Val} {o : Outcome t} {p : Ty κ × Ty κ}
    (h : Searches ctx s v t o) (hp : p ∈ o.hops) : Nonempty (Layers ctx s p.1) :=
  layers_of_mem_order (h.hops_order.subset hp)

/-- No hop asks for a type from itself. -/
lemma Searches.hops_ne {s t : Ty κ} {v : s.Val} {o : Outcome t} (h : Searches ctx s v t o)
    (ne : s ≠ t) : ∀ p ∈ o.hops, p.1 ≠ p.2 := by
  induction h with
  | direct => exact List.forall_mem_singleton.2 ne
  | absent => exact List.forall_mem_singleton.2 ne
  | target hf hu _ _ ih => exact List.forall_mem_cons.2 ⟨ne, ih (ne_content hf hu).symm⟩
  | astray => exact List.forall_mem_singleton.2 ne
  | empty => exact List.forall_mem_singleton.2 ne
  | source hf _ hs _ ih => exact List.forall_mem_cons.2 ⟨ne, ih (ne_target hf hs)⟩

/-- A search leaves the records of its hops. -/
lemma Searches.records_eq {s t : Ty κ} {v : s.Val} {o : Outcome t} (h : Searches ctx s v t o) :
    o.records = o.hops.map fun p => .converting p.1 p.2 := by
  induction h with
  | direct => rfl
  | absent => rfl
  | target _ _ _ _ ih => exact congrArg (List.cons _) ih
  | astray => rfl
  | empty => rfl
  | source _ _ _ _ ih => exact congrArg (List.cons _) ih

/-- What the hops of a search from `s` to `t` are like, and what records there are. -/
structure Descends (ctx : Context κ) (s t : Ty κ) (o : Outcome t) : Prop where
  first : o.hops.head? = some (s, t)
  chain : o.hops.IsChain ctx.Peels
  apart : ∀ p ∈ o.hops, p.1 ≠ p.2
  bounded : o.hops.length ≤ 1 + ctx.layerCount t + ctx.layerCount s
  records : o.records = o.hops.map fun p =>
    ⟨.trace, "converting `" ++ p.1.name ++ "` to `" ++ p.2.name ++ "`"⟩

/-- A search for another type descends. -/
lemma Searches.descends {s t : Ty κ} {v : s.Val} {o : Outcome t} (h : Searches ctx s v t o)
    (ne : s ≠ t) : Descends ctx s t o := by
  obtain ⟨rest, e⟩ := h.hops_order
  refine ⟨?_, ?_, h.hops_ne ne, ?_, h.records_eq⟩
  · obtain ⟨later, e'⟩ := h.exists_hops
    rw [e']
    rfl
  · have chain : (ctx.order s t).IsChain ctx.Peels := isChain_order s t
    rw [← e] at chain
    exact chain.left_of_append
  · rw [← length_order, ← e, List.length_append]
    exact Nat.le_add_right _ _

end Context

/-- Reading a value as its own type leaves the record of the attempt and no other. -/
lemma Accessor.read_self {a : Accessor κ} {index : Nat} {s : Ty κ} {v : s.Val} {rendering : String}
    (here : a.arguments[index]? = some (.stored ⟨s, v⟩ rendering)) :
    a.read index s = ⟨.ok v, [a.reading index s]⟩ := by
  rw [read, get, here]
  simp only [readArgument, Context.convert_self]
  rfl

namespace Context

/-- The conversion of a value of `s` to another type descends to their cores. That of a value to its
own type leaves no record, and a read of it none of a hop. -/
theorem convert_descends (ctx : Context κ) {s : Ty κ} (v : s.Val) (rendering : String) :
    (∀ t, s ≠ t → Descends ctx s t (ctx.convert (.stored ⟨s, v⟩ rendering) t)) ∧
    (ctx.convert (.stored ⟨s, v⟩ rendering) s).records = [] ∧
    ∀ invocation arguments index, arguments[index]? = some (.stored ⟨s, v⟩ rendering) →
      ∀ a b : Ty κ, ⟨.trace, "converting `" ++ a.name ++ "` to `" ++ b.name ++ "`"⟩ ∉
        ((Accessor.mk invocation ctx arguments).read index s).records := by
  refine ⟨?_, ?_, ?_⟩
  · intro t ne
    rw [convert_of_ne ne]
    exact (ctx.search_searches s v t).descends ne
  · rw [convert_self]
    rfl
  · intro invocation arguments index here a b
    rw [Accessor.read_self here, List.mem_singleton]
    exact (Record.reading_ne_converting invocation index s a b).symm

/-- The first pair is the last one in the order, so there is a hop for each layer. -/
example :
    ((Nested.context Nested.widen).convert
      (.stored ⟨.option (.option Detour.byte), some (some Detour.four)⟩ "4")
      (.option Detour.word)).hops =
      (Nested.context Nested.widen).order (.option (.option Detour.byte)) (.option Detour.word) :=
  rfl

end Context

end TypedArguments
