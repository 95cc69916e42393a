import TypedArguments.Proofs.Context.Registrations
import TypedArguments.Proofs.Search.Content

/-!
# Boxing among the other conversions

A context is `Context.Plain` if only boxing conversions touch its nullable types. However a search
in it gets through the layers of a populated value and of the target, by boxing, by unboxing, or
layer by layer, it finds the same (`Searches.toOption_result`): what the bare value gives for the
bare target (`Context.bare?`), in the layers of the target. That plain contexts are coherent in this
sense, the standard ones among them, is `Context.coherent_of_plain`.
-/

namespace TypedArguments

namespace Outcome

variable {κ : Type} [UserTypes κ] {t : Ty κ}

/-- Restating an error does not change the value. -/
@[simp] lemma toOption_result_restate (s u : Ty κ) (o : Outcome t) :
    (o.restate s u).result.toOption = o.result.toOption := by
  obtain ⟨trail, result⟩ := o
  cases result with
  | ok v => rfl
  | error e => rfl

/-- A populated result has the value as its content. -/
@[simp] lemma toOption_result_populated (o : Outcome t) :
    o.populated.result.toOption = o.result.toOption.map some := by
  obtain ⟨trail, result⟩ := o
  cases result with
  | ok v => rfl
  | error e => rfl

/-- An outcome with a value is that value. -/
lemma result_eq_ok_of_toOption {o : Outcome t} {v : t.Val} (h : o.result.toOption = some v) :
    o.result = .ok v := by
  obtain ⟨trail, result⟩ := o
  cases result with
  | ok w => exact congrArg Except.ok (Option.some.inj h)
  | error e => cases h

end Outcome

variable {κ : Type} [DecidableEq κ] [UserTypes κ]

namespace Context

variable {ctx : Context κ}

/-- Every conversion other than the boxing ones leads from a type that is not nullable to a type
that is not nullable. -/
def Plain (ctx : Context κ) : Prop :=
  ∀ s t f, ctx.find? s t = some f →
    ctx.Boxes ⟨s, t, f⟩ ∨ ctx.acceptsNull s = false ∧ ctx.acceptsNull t = false

/-- What a value gives for a type while no layer is looked at: the value itself at its own type, and
at another type what the registered converter makes of it. -/
def bare? (ctx : Context κ) (s t : Ty κ) (v : s.Val) : Option t.Val :=
  if h : s = t then some (h ▸ v) else (ctx.find? s t).bind fun f => (f v).toOption

/-- At its own type a value gives itself. -/
@[simp] lemma bare?_self (s : Ty κ) (v : s.Val) : ctx.bare? s s v = some v :=
  dif_pos rfl

/-- At another type a value gives what the registered converter makes of it. -/
lemma bare?_of_ne {s t : Ty κ} (ne : s ≠ t) (v : s.Val) :
    ctx.bare? s t v = (ctx.find? s t).bind fun f => (f v).toOption :=
  dif_neg ne

/-- A way from a nullable type to one that is not starts with a layer. -/
lemma Layers.exists_layer {u c : Ty κ} (p : Layers ctx (.option u) c) (hu : u ∈ ctx.optionals)
    (hc : ctx.acceptsNull c = false) : ∃ p' : Layers ctx u c, p = .layer hu p' := by
  cases p with
  | refl => cases hc.symm.trans (acceptsNull_option.2 hu)
  | layer _ p => exact ⟨p, rfl⟩

/-- Boxing and unboxing do not change the bare value. -/
lemma Boxes.toOption_run {s t c d : Ty κ} {f : Converter s t} (h : ctx.Boxes ⟨s, t, f⟩)
    (p : Layers ctx s c) (q : Layers ctx t d) (hc : ctx.acceptsNull c = false)
    (hd : ctx.acceptsNull d = false) {v : s.Val} {w : c.Val} (hw : p.unwrap v = some w) :
    (f v).toOption = (ctx.bare? c d w).map q.wrap := by
  obtain ⟨u, hu, h | h⟩ := h
  · cases h
    obtain ⟨q, rfl⟩ := q.exists_layer hu hd
    obtain rfl : c = d := (p.eq_core hc).trans (q.eq_core hd).symm
    rw [bare?_self, q.unique p]
    show some (some v) = some (some (p.wrap w))
    rw [p.wrap_of_unwrap hw]
  · cases h
    obtain ⟨p, rfl⟩ := p.exists_layer hu hc
    obtain rfl : c = d := (p.eq_core hc).trans (q.eq_core hd).symm
    cases v with
    | none => cases hw
    | some v =>
      rw [bare?_self, q.unique p]
      show some v = some (p.wrap w)
      rw [p.wrap_of_unwrap hw]

/-- In a plain context a search for another type finds what the bare value gives for the bare
target, in the layers of the target. -/
lemma Searches.toOption_result (plain : ctx.Plain) {s t c d : Ty κ} {v : s.Val} {o : Outcome t}
    (h : Searches ctx s v t o) (ne : s ≠ t) (p : Layers ctx s c) (q : Layers ctx t d)
    (hc : ctx.acceptsNull c = false) (hd : ctx.acceptsNull d = false) {w : c.Val}
    (hw : p.unwrap v = some w) : o.result.toOption = (ctx.bare? c d w).map q.wrap := by
  induction h with
  | @direct s t v f hf =>
    obtain boxes | ⟨hs, ht⟩ := plain s t f hf
    · exact boxes.toOption_run p q hc hd hw
    · obtain rfl := p.eq_of_not_acceptsNull hs
      obtain rfl := q.eq_of_not_acceptsNull ht
      rw [q.unique (.refl _), bare?_of_ne ne, hf]
      rw [p.unique (.refl _)] at hw
      cases hw
      show (f w).toOption = (f w).toOption.map id
      rw [Option.map_id, id]
  | absent _ _ ha =>
    -- a value with a core in it does not stand for nothing
    cases ha.symm.trans (isAbsent_of_populated (populated_of_unwrap p hc hw))
  | target hf hu _ _ ih =>
    obtain ⟨q, rfl⟩ := q.exists_layer hu hd
    have ih := ih (ne_content hf hu).symm p q hw
    rw [Outcome.result_after, Outcome.toOption_result_populated, Outcome.toOption_result_restate,
      ih, Option.map_map]
    rfl
  | astray hf ht hs =>
    obtain rfl := p.eq_of_not_acceptsNull hs
    obtain rfl := q.eq_of_not_acceptsNull ht
    rw [bare?_of_ne ne, hf]
    rfl
  | empty _ _ hs =>
    obtain ⟨p, rfl⟩ := p.exists_layer hs hc
    cases hw
  | source hf _ hs _ ih =>
    obtain ⟨p, rfl⟩ := p.exists_layer hs hc
    rw [Outcome.result_after, Outcome.toOption_result_restate]
    exact ih (ne_target hf hs) p q hw

/-- In a plain context an argument that is populated gives what its bare value gives for the bare
target, in the layers of the target. -/
lemma Plain.toOption_convert (plain : ctx.Plain) {s t c d : Ty κ} {v : s.Val} {w : c.Val}
    (p : Layers ctx s c) (q : Layers ctx t d) (hc : ctx.acceptsNull c = false)
    (hd : ctx.acceptsNull d = false) (hw : p.unwrap v = some w) (rendering : String) :
    (ctx.convert (.stored ⟨s, v⟩ rendering) t).result.toOption =
      (ctx.bare? c d w).map q.wrap := by
  by_cases e : s = t
  · subst e
    obtain rfl : c = d := (p.eq_core hc).trans (q.eq_core hd).symm
    rw [convert_self, bare?_self, q.unique p]
    show some v = some (p.wrap w)
    rw [p.wrap_of_unwrap hw]
  · rw [convert_of_ne e]
    exact (ctx.search_searches s v t).toOption_result plain e p q hc hd hw

/-- In a plain context, a converter that touches a nullable type leads to a type with the same
core, and others lead from core to core. -/
lemma Plain.of_find? (plain : ctx.Plain) {s t : Ty κ} {f : Converter s t}
    (hf : ctx.find? s t = some f) :
    ctx.core s = ctx.core t ∨ ctx.acceptsNull s = false ∧ ctx.acceptsNull t = false := by
  obtain ⟨u, hu, e | e⟩ | bare := plain s t f hf
  · cases e
    exact .inl (core_option hu).symm
  · cases e
    exact .inl (core_option hu)
  · exact .inr bare

/-- In a plain context, an argument that is populated reads as a nullable type if it reads as the
content, and as the same value in one layer more; a missing conversion is reported for the wider
type. -/
lemma Plain.convert_option (plain : ctx.Plain) {s u : Ty κ} (hu : u ∈ ctx.optionals) {v : s.Val}
    (full : ctx.populated s v = true) (rendering : String) :
    (ctx.convert (.stored ⟨s, v⟩ rendering) (.option u)).result =
      ((ctx.convert (.stored ⟨s, v⟩ rendering) u).result.mapError
        (·.restate s.name (Ty.option u).name)).map some := by
  by_cases same : ctx.core s = ctx.core u
  · -- both reads give the value in the core, in their own layers
    obtain ⟨p⟩ := ctx.layers_core s
    obtain ⟨q⟩ := ctx.layers_core u
    obtain ⟨w, hw⟩ := exists_unwrap_of_populated p full
    have core : ctx.acceptsNull (ctx.core s) = false := acceptsNull_core s
    rw [← same] at q
    have narrow := plain.toOption_convert p q core core hw rendering
    have wide := plain.toOption_convert p (.layer hu q) core core hw rendering
    rw [bare?_self] at narrow wide
    rw [Outcome.result_eq_ok_of_toOption narrow, Outcome.result_eq_ok_of_toOption wide]
    rfl
  · have hf : ctx.find? s (.option u) = none := by
      rw [Option.eq_none_iff_forall_ne_some]
      intro f hf
      obtain e | ⟨_, ht⟩ := plain.of_find? hf
      · exact same (e.trans (core_option hu))
      · cases ht.symm.trans (acceptsNull_option.2 hu)
    have ne : s ≠ u := fun e => same (congrArg ctx.core e)
    have ne' : s ≠ .option u := fun e => same ((congrArg ctx.core e).trans (core_option hu))
    have full' := isAbsent_of_populated full
    rw [convert_of_ne ne, convert_of_ne ne',
      (Searches.target hf hu full' (ctx.search_searches s v u)).eq_search]
    rfl

/-- What is announced in a plain context: the cores of both types are the same, or a conversion is
registered between them. -/
lemma Plain.supports_iff_core (plain : ctx.Plain) (s t : Ty κ) :
    ctx.supports s t = true ↔
      ctx.core s = ctx.core t ∨ ctx.contains (ctx.core s) (ctx.core t) = true := by
  rw [supports_iff]
  constructor
  · rintro ⟨s', t', ⟨p⟩, ⟨q⟩, h | h⟩
    · left
      rw [← p.core_eq, ← q.core_eq, h]
    · obtain ⟨f, hf⟩ := contains_iff.1 h
      obtain e | ⟨hs, ht⟩ := plain.of_find? hf
      · left
        rw [← p.core_eq, ← q.core_eq, e]
      · right
        rw [← p.eq_core hs, ← q.eq_core ht]
        exact h
  · intro h
    exact ⟨_, _, ctx.layers_core s, ctx.layers_core t, h⟩

/-- In a plain context, an argument that is populated cannot be converted between types with
different cores that no converter leads between. -/
lemma Plain.result_unsupported (plain : ctx.Plain) {s t : Ty κ} {v : s.Val}
    (full : ctx.populated s v = true) (ne : ctx.core s ≠ ctx.core t)
    (free : ctx.contains (ctx.core s) (ctx.core t) = false) (rendering : String) :
    (ctx.convert (.stored ⟨s, v⟩ rendering) t).result = .error (.unsupported s.name t.name) := by
  have lead : ¬ ctx.Leads s t := by
    intro lead
    obtain same | registered := (plain.supports_iff_core s t).1 lead.supports
    · exact ne same
    · cases free.symm.trans registered
  have ne' : s ≠ t := fun e => ne (congrArg ctx.core e)
  rw [convert_of_ne ne']
  exact ((ctx.search_searches s v t).ends.unannounced lead).unsupported full

/-- Whatever an application registers between types that are not nullable, its context is plain. -/
lemma Start.plain_extend (start : Start) (rs : List (Registration κ))
    (apart : ∀ c, .conversion c ∈ rs → (start.extend rs).value.acceptsNull c.source = false ∧
      (start.extend rs).value.acceptsNull c.target = false) : (start.extend rs).value.Plain := by
  intro s t f hf
  obtain hc | ⟨u, hu, hc⟩ | ⟨⟨⟨s', hs⟩, t', ht⟩, _⟩ := start.of_find? hf
  · exact .inr (apart _ hc)
  · rw [Registration.conversions, List.mem_cons, List.mem_singleton] at hc
    exact .inl ⟨u, hu, hc⟩
  · obtain rfl : s = .scalar s' := hs
    obtain rfl : t = .scalar t' := ht
    exact .inr ⟨rfl, rfl⟩

/-- The context that an application starts with is plain. -/
lemma Start.plain (start : Start) : (start.context : Logged (Context κ)).value.Plain :=
  start.plain_extend [] nofun

/-- Boxing fits in with the other conversions. A populated argument gives what its bare value gives
for the bare target, in the layers of the target, and an error if that is nothing; so it reads alike
as a nullable type and as the content; and what is announced does not depend on the layers. -/
structure Coherent (ctx : Context κ) : Prop where
  convert : ∀ (s : Ty κ) (v : s.Val) (rendering : String) (t : Ty κ),
    ctx.populated s v = true →
      ∃ (p : Layers ctx s (ctx.core s)) (q : Layers ctx t (ctx.core t)) (w : (ctx.core s).Val),
        p.unwrap v = some w ∧
        (ctx.convert (.stored ⟨s, v⟩ rendering) t).result.toOption =
          (ctx.bare? (ctx.core s) (ctx.core t) w).map q.wrap
  option : ∀ (s : Ty κ) (v : s.Val) (rendering : String), ctx.populated s v = true →
    ∀ u ∈ ctx.optionals,
      (ctx.convert (.stored ⟨s, v⟩ rendering) (.option u)).result =
        ((ctx.convert (.stored ⟨s, v⟩ rendering) u).result.mapError
          (·.restate s.name (Ty.option u).name)).map some
  supports : ∀ s t, ctx.supports s t = true ↔
    ctx.core s = ctx.core t ∨ ctx.contains (ctx.core s) (ctx.core t) = true

/-- The standard contexts are plain, and every plain context is coherent. -/
theorem coherent_of_plain :
    (∀ readsText, Plain (standard readsText : Logged (Context κ)).value) ∧
    ∀ ctx : Context κ, ctx.Plain → ctx.Coherent := by
  constructor
  · intro readsText
    exact (Start.standard readsText).plain
  · intro ctx plain
    refine ⟨?_, ?_, plain.supports_iff_core⟩
    · intro s v rendering t full
      obtain ⟨p⟩ := ctx.layers_core s
      obtain ⟨q⟩ := ctx.layers_core t
      obtain ⟨w, hw⟩ := exists_unwrap_of_populated p full
      exact ⟨p, q, w, hw,
        plain.toOption_convert p q (acceptsNull_core s) (acceptsNull_core t) hw rendering⟩
    · intro s v rendering full u hu
      exact plain.convert_option hu full rendering

namespace Nested

open Detour (byte word four wide)

/-- Only boxing conversions touch the nullable types. -/
lemma plain (run : Converter byte word) : (context run).Plain := by
  apply Start.empty.plain_extend (registrations run)
  intro c hc
  rw [eq_of_conversion_mem hc]
  exact ⟨rfl, rfl⟩

/-- From under two layers a value is converted into one layer, like the bare value into none. -/
theorem coherent :
    (context widen).Plain ∧ (context widen).Coherent ∧
    (context widen).populated (.option (.option byte)) (some (some four)) = true ∧
    ((context widen).convert
      (.stored ⟨.option (.option byte), some (some four)⟩ "4") (.option word)).result =
        .ok (some wide) ∧
    (context widen).bare? byte word four = some wide :=
  ⟨plain _, coherent_of_plain.2 _ (plain _), by decide, rfl, rfl⟩

end Nested

end Context

end TypedArguments
