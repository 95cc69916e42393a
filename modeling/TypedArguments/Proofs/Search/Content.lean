import TypedArguments.Proofs.Search.Support

/-!
# Populated values and their contents

How a populated value of a nullable type is converted, compared with its content. Both searches
come down to the core of the target (`search_layers_eq_ok`), so they find the same as long as only
boxing conversions stand on the way (`OnlyBoxed`). Where another converter takes the nullable type
itself, it goes first; and an empty content stands for nothing by itself, but not when it is boxed.
The main statement is `convert_some`.
-/

namespace TypedArguments

variable {κ : Type} [DecidableEq κ] [UserTypes κ]

namespace Context

variable {ctx : Context κ}

/-- A search finds what it finds for a type within the target, put into the layers around it, if no
converter leads into one of these layers. -/
lemma search_layers_eq_ok {s t c : Ty κ} {v : s.Val} (p : Layers ctx t c)
    (there : ctx.isAbsent s v = true → ctx.acceptsNull t = false)
    (free : ∀ a ∈ p.passed, ctx.contains s a = false) (w : t.Val) :
    (ctx.search s v t).result = .ok w ↔
      ∃ y, (ctx.search s v c).result = .ok y ∧ w = p.wrap y := by
  induction p with
  | refl t =>
    constructor
    · exact fun h => ⟨w, h, rfl⟩
    · rintro ⟨y, h, rfl⟩
      exact h
  | @layer u c hu p ih =>
    have ha : ctx.isAbsent s v = false := by
      cases ha : ctx.isAbsent s v with
      | false => rfl
      | true => cases (there ha).symm.trans (acceptsNull_option.2 hu)
    have hf := contains_eq_false.1 (free _ (List.mem_cons_self ..))
    have ih := ih (fun h => by cases ha.symm.trans h)
      (fun a ha => free a (List.mem_cons_of_mem _ ha))
    rw [← (Searches.target hf hu ha (ctx.search_searches s v u)).eq_search.symm,
      Outcome.result_after, Outcome.result_populated_eq_ok]
    constructor
    · rintro ⟨x, h, rfl⟩
      obtain ⟨y, hy, rfl⟩ := (ih x).1 (Outcome.result_restate_eq_ok.1 h)
      exact ⟨y, hy, rfl⟩
    · rintro ⟨y, hy, rfl⟩
      exact ⟨p.wrap y, Outcome.result_restate_eq_ok.2 ((ih _).2 ⟨y, hy, rfl⟩), rfl⟩

/-- A search finds what the first converter on its way through the target gives. -/
lemma search_converter_eq_ok {s t c : Ty κ} {v : s.Val} {f : Converter s c} (p : Layers ctx t c)
    (there : ctx.isAbsent s v = true → ctx.acceptsNull t = false)
    (free : ∀ a ∈ p.passed, ctx.contains s a = false) (hf : ctx.find? s c = some f) (w : t.Val) :
    (ctx.search s v t).result = .ok w ↔ ∃ y, f v = .ok y ∧ w = p.wrap y := by
  rw [search_layers_eq_ok p there free, (Searches.direct hf).eq_search]
  rfl

/-- From a populated value, a search for a type that is not nullable goes on from the content. -/
lemma search_some_eq_ok {s c : Ty κ} (hs : s ∈ ctx.optionals)
    (hc : ctx.contains (.option s) c = false) (core : ctx.acceptsNull c = false) (v : s.Val)
    (y : c.Val) :
    (ctx.search (.option s) (some v) c).result = .ok y ↔ (ctx.search s v c).result = .ok y := by
  have hf := contains_eq_false.1 hc
  rw [(Searches.source hf core hs (ctx.search_searches s v c)).eq_search, Outcome.result_after,
    Outcome.result_restate_eq_ok]

/-- The conversion is one of the pair that comes with a nullable type. -/
def Boxes (ctx : Context κ) (c : Conversion κ) : Prop :=
  ∃ u ∈ ctx.optionals, c = .box u ∨ c = .unbox u

/-- On the way from the optional type over `s`, and from `s` itself, there are only boxing
conversions: from the former into any type within `t`, from the latter into the nullable ones. -/
structure OnlyBoxed (ctx : Context κ) (s t : Ty κ) : Prop where
  outer : ∀ t' f, Nonempty (Layers ctx t t') → ctx.find? (.option s) t' = some f →
    ctx.Boxes ⟨.option s, t', f⟩
  inner : ∀ t' f, Nonempty (Layers ctx t t') → ctx.acceptsNull t' = true →
    ctx.find? s t' = some f → (⟨s, t', f⟩ : Conversion κ) = .box s

/-- A boxing conversion from an optional type leads to its content or to the optional type over
it. -/
lemma Boxes.target_eq {s t : Ty κ} {f : Converter (.option s) t}
    (h : ctx.Boxes ⟨.option s, t, f⟩) :
    t = s ∨ (t = .option (.option s) ∧ .option s ∈ ctx.optionals) := by
  obtain ⟨u, hu, h | h⟩ := h
  · cases h
    exact .inr ⟨rfl, hu⟩
  · cases h
    exact .inl rfl

/-- A boxing conversion into the optional type over its source puts values into it. -/
lemma Boxes.run_eq {s : Ty κ} {f : Converter s (.option s)} (h : ctx.Boxes ⟨s, .option s, f⟩)
    (v : s.Val) : f v = .ok (some v) := by
  obtain ⟨u, _, h | h⟩ := h
  · cases h
    rfl
  · have source : s = .option u := congrArg Conversion.source h
    have target : .option s = u := congrArg Conversion.target h
    subst target
    have depth : s.depth = s.depth + 2 := congrArg Ty.depth source
    omega

namespace OnlyBoxed

variable {s t : Ty κ}

/-- Into a type with more layers than the one right over the optional type there is no converter
from it. -/
lemma outer_free (h : OnlyBoxed ctx s t) {a : Ty κ} (p : Nonempty (Layers ctx t a))
    (deep : s.depth + 2 < a.depth) : ctx.contains (.option s) a = false := by
  rw [contains_eq_false, Option.eq_none_iff_forall_ne_some]
  intro f hf
  obtain e | ⟨e, _⟩ := (h.outer a f p hf).target_eq
  · subst e
    omega
  · subst e
    exact Nat.lt_irrefl _ deep

/-- From the content, only the optional type right over it has a converter among the nullable
types. -/
lemma inner_free (h : OnlyBoxed ctx s t) {a : Ty κ} (p : Nonempty (Layers ctx t a))
    (ha : ctx.acceptsNull a = true) (ne : a ≠ .option s) : ctx.contains s a = false := by
  rw [contains_eq_false, Option.eq_none_iff_forall_ne_some]
  intro f hf
  exact ne (congrArg Conversion.target (h.inner a f p ha hf))

/-- The content is boxed by the converter that is registered for that. -/
lemma inner_run (h : OnlyBoxed ctx s t) (p : Nonempty (Layers ctx t (.option s)))
    (hs : s ∈ ctx.optionals) {f : Converter s (.option s)} (hf : ctx.find? s (.option s) = some f)
    (v : s.Val) : f v = .ok (some v) :=
  Boxes.run_eq ⟨s, hs, .inl (h.inner _ f p (acceptsNull_option.2 hs) hf)⟩ v

/-- Where no converter takes the optional type, both searches come down to that of the content for
the core of the target. -/
lemma search_iff_of_free (h : OnlyBoxed ctx s t) (hs : s ∈ ctx.optionals)
    (free : ∀ a, Nonempty (Layers ctx t a) → ctx.contains (.option s) a = false) {v : s.Val}
    (there : ctx.isAbsent s v = true → ctx.acceptsNull t = false) (w : t.Val) :
    (ctx.search (.option s) (some v) t).result = .ok w ↔ (ctx.search s v t).result = .ok w := by
  obtain ⟨p⟩ := ctx.layers_core t
  have outer : ∀ a ∈ p.passed, ctx.contains (.option s) a = false :=
    fun a ha => free a (p.of_mem_passed ha).1
  have inner : ∀ a ∈ p.passed, ctx.contains s a = false := by
    intro a ha
    obtain ⟨⟨q⟩, hn, _⟩ := p.of_mem_passed ha
    refine h.inner_free ⟨q⟩ hn ?_
    rintro rfl
    -- the content lies in the target as well, and unboxing is registered for it
    have unboxed := free s ⟨q.trans (.layer hs (.refl s))⟩
    exact ne_target (contains_eq_false.1 unboxed) hs rfl
  have populated : ctx.isAbsent (.option s) (some v) = true → ctx.acceptsNull t = false := nofun
  rw [search_layers_eq_ok p populated outer, search_layers_eq_ok p there inner]
  have core : ctx.acceptsNull (ctx.core t) = false := acceptsNull_core t
  constructor
  · rintro ⟨y, hy, rfl⟩
    exact ⟨y, (search_some_eq_ok hs (free _ ⟨p⟩) core v y).1 hy, rfl⟩
  · rintro ⟨y, hy, rfl⟩
    exact ⟨y, (search_some_eq_ok hs (free _ ⟨p⟩) core v y).2 hy, rfl⟩

/-- Where the target has the content under more layers, both searches find the content under all of
them. -/
lemma search_iff_of_layers (h : OnlyBoxed ctx s t) (hs : s ∈ ctx.optionals)
    (hos : .option s ∈ ctx.optionals) (q : Layers ctx t (.option (.option s))) {v : s.Val}
    (there : ctx.isAbsent s v = true → ctx.acceptsNull t = false) (w : t.Val) :
    (ctx.search (.option s) (some v) t).result = .ok w ↔ (ctx.search s v t).result = .ok w := by
  let r := q.trans (.layer hos (.refl (.option s)))
  obtain ⟨f, hf⟩ := contains_iff.1 (ctx.boxed (.option s) hos)
  obtain ⟨g, hg⟩ := contains_iff.1 (ctx.boxed s hs)
  have outer : ∀ a ∈ q.passed, ctx.contains (.option s) a = false := by
    intro a ha
    obtain ⟨p, _, deep⟩ := q.of_mem_passed ha
    exact h.outer_free p deep
  have inner : ∀ a ∈ r.passed, ctx.contains s a = false := by
    intro a ha
    obtain ⟨p, hn, deep⟩ := r.of_mem_passed ha
    refine h.inner_free p hn ?_
    rintro rfl
    exact Nat.lt_irrefl _ deep
  have populated : ctx.isAbsent (.option s) (some v) = true → ctx.acceptsNull t = false := nofun
  rw [search_converter_eq_ok q populated outer hf, search_converter_eq_ok r there inner hg,
    (h.outer _ f ⟨q⟩ hf).run_eq, h.inner_run ⟨r⟩ hs hg]
  have wrapped : r.wrap (some v) = q.wrap (some (some v)) := q.wrap_trans _ _
  constructor
  · rintro ⟨y, hy, rfl⟩
    cases hy
    exact ⟨some v, rfl, wrapped.symm⟩
  · rintro ⟨y, hy, rfl⟩
    cases hy
    exact ⟨some (some v), rfl, wrapped⟩

/-- With only boxing conversions on the way, both searches find the same. -/
lemma search_iff (h : OnlyBoxed ctx s t) (hs : s ∈ ctx.optionals) (ne : t ≠ .option s)
    (direct : ctx.contains (.option s) t = false) {v : s.Val}
    (there : ctx.isAbsent s v = true → ctx.acceptsNull t = false) (w : t.Val) :
    (ctx.search (.option s) (some v) t).result = .ok w ↔ (ctx.search s v t).result = .ok w := by
  by_cases hit : ∃ a, Nonempty (Layers ctx t a) ∧ ctx.contains (.option s) a = true
  · obtain ⟨a, ⟨p⟩, ha⟩ := hit
    obtain ⟨f, hf⟩ := contains_iff.1 ha
    obtain e | ⟨e, hos⟩ := (h.outer a f ⟨p⟩ hf).target_eq
    · subst e
      have ne' : t ≠ a := by
        rintro rfl
        rw [direct] at ha
        cases ha
      -- the optional type and the one over it lie around the content, within the target
      obtain ⟨_, ⟨p'⟩⟩ := p.last ne'
      obtain ⟨hos, ⟨q⟩⟩ := p'.last ne
      exact h.search_iff_of_layers hs hos q there w
    · subst e
      exact h.search_iff_of_layers hs hos p there w
  · refine h.search_iff_of_free hs ?_ there w
    intro a p
    rw [← Bool.not_eq_true]
    exact fun ha => hit ⟨a, p, ha⟩

end OnlyBoxed

/-- A populated value of a nullable type against its content, for a target that no converter takes
the nullable type to. At a target that is not nullable both find the same, and at any target with
only boxing conversions on the way, unless the content stands for nothing there. A converter from
the nullable type to a type within the target goes first. And a content that stands for nothing does
so at a nullable target, where the value around it does not. -/
theorem convert_some {s t : Ty κ} (hs : s ∈ ctx.optionals) (ne : t ≠ .option s)
    (direct : ctx.contains (.option s) t = false) (v : s.Val) (boxed bare : String) :
    (ctx.acceptsNull t = false →
      ∀ w, (ctx.convert (.stored ⟨.option s, some v⟩ boxed) t).result = .ok w ↔
        (ctx.convert (.stored ⟨s, v⟩ bare) t).result = .ok w) ∧
    (OnlyBoxed ctx s t → (ctx.isAbsent s v = true → ctx.acceptsNull t = false) →
      ∀ w, (ctx.convert (.stored ⟨.option s, some v⟩ boxed) t).result = .ok w ↔
        (ctx.convert (.stored ⟨s, v⟩ bare) t).result = .ok w) ∧
    (∀ t' (p : Layers ctx t t') f, ctx.find? (.option s) t' = some f →
      (∀ a ∈ p.passed, ctx.contains (.option s) a = false) →
      ∀ w, (ctx.convert (.stored ⟨.option s, some v⟩ boxed) t).result = .ok w ↔
        ∃ y, f (some v) = .ok y ∧ w = p.wrap y) ∧
    (ctx.isAbsent s v = true → ctx.contains s t = false →
      ∀ w, ctx.absent? t = some w →
        (ctx.convert (.stored ⟨s, v⟩ bare) t).result = .ok w ∧
        (ctx.convert (.stored ⟨.option s, some v⟩ boxed) t).result ≠ .ok w) := by
  have ne' : s ≠ t := ne_target (contains_eq_false.1 direct) hs
  rw [convert_of_ne ne.symm, convert_of_ne ne']
  refine ⟨?_, fun only there => only.search_iff hs ne direct there, ?_, ?_⟩
  · intro ht
    exact search_some_eq_ok hs direct ht v
  · intro t' p f hf free w
    have populated : ctx.isAbsent (.option s) (some v) = true → ctx.acceptsNull t = false := nofun
    exact search_converter_eq_ok p populated free hf w
  · intro ha hf w hw
    obtain ⟨u, hu, rfl⟩ := exists_of_acceptsNull (acceptsNull_of_absent? hw)
    cases (absent?_option hu).symm.trans hw
    constructor
    · rw [(Searches.absent (contains_eq_false.1 hf) hu ha).eq_search]
      rfl
    · rw [(Searches.target (contains_eq_false.1 direct) hu rfl
        (ctx.search_searches (.option s) (some v) u)).eq_search, Outcome.result_after]
      intro found
      obtain ⟨y, _, hy⟩ := Outcome.result_populated_eq_ok.1 found
      cases hy

namespace Precedence

/-- The content of the nullable source. -/
abbrev int : Ty Empty := .scalar (.int .i32)

/-- The content of the nullable target. -/
abbrev long : Ty Empty := .scalar (.int .i64)

/-- A value of `int`. -/
def five : Bounded .i32 := ⟨5, by decide⟩

/-- The value of `long` that the conversion from the content gives. -/
def wideFive : Bounded .i64 := ⟨5, by decide⟩

/-- The value of `long` that the conversion from the nullable type gives. -/
def wideZero : Bounded .i64 := ⟨0, by decide⟩

/-- Two nullable types, and a conversion from the one's content to the other's. -/
def plain : Context Empty :=
  (empty.extend [.optional int, .optional long,
    .conversion ⟨int, long, fun _ => .ok wideFive⟩]).value

/-- One more conversion, from the one nullable type to the other's content. -/
def context : Context Empty :=
  plain.insert ⟨.option int, long, fun _ => .ok wideZero⟩

/-- The types within the nullable type over `long`. -/
lemma eq_of_layers {t : Ty Empty} (p : Layers plain (.option long) t) :
    t = .option long ∨ t = long := by
  cases p with
  | refl => exact .inl rfl
  | layer _ p => exact .inr (p.eq_of_not_acceptsNull rfl)

/-- Only boxing conversions are on the way in `plain`. -/
lemma onlyBoxed : OnlyBoxed plain int (.option long) where
  outer t f := by
    rintro ⟨p⟩ hf
    obtain rfl | rfl := eq_of_layers p
    · cases hf
    · cases hf
  inner t f := by
    rintro ⟨p⟩ hn hf
    obtain rfl | rfl := eq_of_layers p
    · cases hf
    · cases hn

/-- In `plain`, a populated value reads like its content. -/
theorem convert_some_plain :
    int ∈ plain.optionals ∧ Ty.option long ≠ .option int ∧
    plain.contains (.option int) (.option long) = false ∧
    ∀ w, (plain.convert (.stored ⟨.option int, some five⟩ "5") (.option long)).result = .ok w ↔
      (plain.convert (.stored ⟨int, five⟩ "5") (.option long)).result = .ok w :=
  ⟨by decide, by decide, by decide,
    (convert_some (by decide) (by decide) (by decide) five "5" "5").2.1 onlyBoxed nofun⟩

/-- In `context`, a populated value and its content read as different values, though no converter
takes the nullable type to the target. -/
theorem convert_some_ne_content :
    int ∈ context.optionals ∧ Ty.option long ≠ .option int ∧
    context.contains (.option int) (.option long) = false ∧
    (context.convert (.stored ⟨.option int, some five⟩ "5") (.option long)).result =
      .ok (some wideZero) ∧
    (context.convert (.stored ⟨int, five⟩ "5") (.option long)).result = .ok (some wideFive) ∧
    wideZero ≠ wideFive :=
  ⟨by decide, by decide, by decide, rfl, rfl, by decide⟩

end Precedence

end Context

end TypedArguments
