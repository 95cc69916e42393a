import TypedArguments.Proofs.Search.Layers

/-!
# The search, hop by hop

`Context.Searches ctx s v t o` relates a value and a wanted type to the outcome of the search, with
one rule for each thing that a hop can do. The rules describe `Context.search` exactly
(`search_searches`, `Searches.eq_search`), so that facts about searches are inductions over them.
The first of these is `Searches.ends`: a search runs the first converter on its way (`Hit`), or it
stops at an empty value, or no pair on its way is registered.
-/

namespace TypedArguments

variable {κ : Type} [UserTypes κ]

/-- A registered converter is run in the step. -/
def Step.isRun : Step κ → Bool
  | .run .. => true
  | _ => false

namespace Outcome

variable {t : Ty κ}

/-- The runs of registered converters, in order. -/
def runs (o : Outcome t) : List (Step κ) :=
  o.trail.filter Step.isRun

end Outcome

variable [DecidableEq κ]

namespace Context

variable {ctx : Context κ}

/-- A pair is registered exactly if there is a converter for it. -/
lemma contains_iff {s t : Ty κ} : ctx.contains s t = true ↔ ∃ f, ctx.find? s t = some f :=
  Option.isSome_iff_exists

/-- A pair is not registered exactly if there is no converter for it. -/
lemma contains_eq_false {s t : Ty κ} : ctx.contains s t = false ↔ ctx.find? s t = none :=
  Option.isSome_eq_false_iff.trans Option.isNone_iff_eq_none

/-- Without a converter into a nullable type, the source is not its content. -/
lemma ne_content {s u : Ty κ} (hf : ctx.find? s (.option u) = none) (hu : u ∈ ctx.optionals) :
    u ≠ s := by
  rintro rfl
  have boxed : ctx.contains u (.option u) = true := ctx.boxed u hu
  rw [contains_eq_false.2 hf] at boxed
  cases boxed

/-- Without a converter out of a nullable type, the target is not its content. -/
lemma ne_target {s t : Ty κ} (hf : ctx.find? (.option s) t = none) (hs : s ∈ ctx.optionals) :
    s ≠ t := by
  rintro rfl
  have unboxed : ctx.contains (.option s) s = true := ctx.unboxed s hs
  rw [contains_eq_false.2 hf] at unboxed
  cases unboxed

/-- The outcome of the search from a value of `s` for a value of `t`. A hop runs the converter for
its pair. Without one it goes on to the content of a nullable target, unless the value is absent;
and from a target that is not nullable it goes on to the content of the source. -/
inductive Searches (ctx : Context κ) : (s : Ty κ) → s.Val → (t : Ty κ) → Outcome t → Prop where
  | direct {s t : Ty κ} {v : s.Val} {f : Converter s t} :
    ctx.find? s t = some f →
    Searches ctx s v t (.after (.hop s t) (.ran f v))
  | absent {s u : Ty κ} {v : s.Val} :
    ctx.find? s (.option u) = none →
    u ∈ ctx.optionals →
    ctx.isAbsent s v = true →
    Searches ctx s v (.option u) (.after (.hop s (.option u)) (.found none))
  | target {s u : Ty κ} {v : s.Val} {o : Outcome u} :
    ctx.find? s (.option u) = none →
    u ∈ ctx.optionals →
    ctx.isAbsent s v = false →
    Searches ctx s v u o →
    Searches ctx s v (.option u)
      (.after (.hop s (.option u)) (o.restate s (.option u)).populated)
  | astray {s t : Ty κ} {v : s.Val} :
    ctx.find? s t = none →
    ctx.acceptsNull t = false →
    ctx.acceptsNull s = false →
    Searches ctx s v t (.after (.hop s t) (.unsupported s t))
  | empty {s t : Ty κ} :
    ctx.find? (.option s) t = none →
    ctx.acceptsNull t = false →
    s ∈ ctx.optionals →
    Searches ctx (.option s) none t (.after (.hop (.option s) t) (.failed (.null t.name)))
  | source {s t : Ty κ} {w : s.Val} {o : Outcome t} :
    ctx.find? (.option s) t = none →
    ctx.acceptsNull t = false →
    s ∈ ctx.optionals →
    Searches ctx s w t o →
    Searches ctx (.option s) (some w) t (.after (.hop (.option s) t) (o.restate (.option s) t))

/-- The way through the target's layers follows the rules if its continuation does. -/
lemma searchTargets_searches {s : Ty κ} {v : s.Val} {past : (t : Ty κ) → Outcome t}
    (follows : ∀ t, ctx.find? s t = none → ctx.acceptsNull t = false →
      Searches ctx s v t (.after (.hop s t) (past t))) (t : Ty κ) :
    Searches ctx s v t (ctx.searchTargets s v past t) := by
  induction t with
  | base b =>
    rw [searchTargets]
    cases hf : ctx.find? s (.base b) with
    | some f => exact .direct hf
    | none => exact follows _ hf rfl
  | option u ih =>
    rw [searchTargets]
    cases hf : ctx.find? s (.option u) with
    | some f => exact .direct hf
    | none =>
      by_cases hu : u ∈ ctx.optionals
      · simp only [hu, ne_content hf hu, ne_eq, not_false_eq_true, and_self, if_true]
        cases ha : ctx.isAbsent s v with
        | true => exact .absent hf hu ha
        | false => exact .target hf hu ha ih
      · -- the layer is not nullable, so the way through the target ends here
        simp only [hu, false_and, if_false]
        exact follows _ hf (acceptsNull_option_eq_false.2 hu)

/-- The search follows the rules. -/
theorem search_searches (ctx : Context κ) (s : Ty κ) (v : s.Val) (t : Ty κ) :
    Searches ctx s v t (ctx.search s v t) := by
  induction s generalizing t with
  | base b =>
    apply searchTargets_searches
    intro t hf ht
    exact .astray hf ht rfl
  | option s ih =>
    apply searchTargets_searches
    intro t hf ht
    by_cases hs : s ∈ ctx.optionals
    · rw [if_pos hs]
      cases v with
      | none => exact .empty hf ht hs
      | some w =>
        simp only [dif_neg (ne_target hf hs)]
        exact .source hf ht hs (ih w t)
    · rw [if_neg hs]
      exact .astray hf ht (acceptsNull_option_eq_false.2 hs)

/-- The rules leave no choice. -/
lemma Searches.unique {s t : Ty κ} {v : s.Val} {o o' : Outcome t}
    (h : Searches ctx s v t o) (h' : Searches ctx s v t o') : o = o' := by
  -- two rules differ in whether the pair is registered, the target or the source is nullable, or
  -- the value is absent
  induction h with
  | direct hf =>
    cases h' with
    | direct hf' => cases hf.symm.trans hf'; rfl
    | absent hf' => cases hf.symm.trans hf'
    | target hf' => cases hf.symm.trans hf'
    | astray hf' => cases hf.symm.trans hf'
    | empty hf' => cases hf.symm.trans hf'
    | source hf' => cases hf.symm.trans hf'
  | absent hf hu ha =>
    have ht := acceptsNull_option.2 hu
    cases h' with
    | direct hf' => cases hf.symm.trans hf'
    | absent => rfl
    | target _ _ ha' => cases ha.symm.trans ha'
    | astray _ ht' => cases ht.symm.trans ht'
    | empty _ ht' => cases ht.symm.trans ht'
    | source _ ht' => cases ht.symm.trans ht'
  | target hf hu ha _ ih =>
    have ht := acceptsNull_option.2 hu
    cases h' with
    | direct hf' => cases hf.symm.trans hf'
    | absent _ _ ha' => cases ha.symm.trans ha'
    | target _ _ _ h' => rw [ih h']
    | astray _ ht' => cases ht.symm.trans ht'
    | empty _ ht' => cases ht.symm.trans ht'
    | source _ ht' => cases ht.symm.trans ht'
  | astray hf ht hs =>
    cases h' with
    | direct hf' => cases hf.symm.trans hf'
    | absent _ hu => cases ht.symm.trans (acceptsNull_option.2 hu)
    | target _ hu => cases ht.symm.trans (acceptsNull_option.2 hu)
    | astray => rfl
    | empty _ _ hs' => cases hs.symm.trans (acceptsNull_option.2 hs')
    | source _ _ hs' => cases hs.symm.trans (acceptsNull_option.2 hs')
  | empty hf ht hs =>
    cases h' with
    | direct hf' => cases hf.symm.trans hf'
    | absent _ hu => cases ht.symm.trans (acceptsNull_option.2 hu)
    | target _ hu => cases ht.symm.trans (acceptsNull_option.2 hu)
    | astray _ _ hs' => cases hs'.symm.trans (acceptsNull_option.2 hs)
    | empty => rfl
  | source hf ht hs _ ih =>
    cases h' with
    | direct hf' => cases hf.symm.trans hf'
    | absent _ hu => cases ht.symm.trans (acceptsNull_option.2 hu)
    | target _ hu => cases ht.symm.trans (acceptsNull_option.2 hu)
    | astray _ _ hs' => cases hs'.symm.trans (acceptsNull_option.2 hs)
    | source _ _ _ h' => rw [ih h']

/-- What follows the rules is the outcome of the search. -/
lemma Searches.eq_search {s t : Ty κ} {v : s.Val} {o : Outcome t} (h : Searches ctx s v t o) :
    ctx.search s v t = o :=
  (ctx.search_searches s v t).unique h

/-- The first pair with a converter on the way of a search from `s` to `t`: the way goes in through
the target's layers and, from its core, through the source's. -/
structure Hit (ctx : Context κ) (s t s' t' : Ty κ) where
  source : Layers ctx s s'
  target : Layers ctx t t'
  converter : Converter s' t'
  registered : ctx.find? s' t' = some converter
  turn : s' = s ∨ ctx.acceptsNull t' = false
  past_target : ∀ a ∈ target.passed, ctx.contains s a = false
  past_source : ∀ b ∈ source.passed, ctx.contains b t' = false

namespace Hit

variable {s t s' t' u : Ty κ}

/-- A converter for the pair itself is the first one. -/
def direct {f : Converter s t} (hf : ctx.find? s t = some f) : Hit ctx s t s t where
  source := .refl s
  target := .refl t
  converter := f
  registered := hf
  turn := .inl rfl
  past_target := nofun
  past_source := nofun

/-- The first pair on the way to a type is the first one on the way to a nullable type over it. -/
def throughTarget (hf : ctx.find? s (.option u) = none) (hu : u ∈ ctx.optionals)
    (hit : Hit ctx s u s' t') : Hit ctx s (.option u) s' t' where
  source := hit.source
  target := .layer hu hit.target
  converter := hit.converter
  registered := hit.registered
  turn := hit.turn
  past_target a ha := by
    cases ha with
    | head => exact contains_eq_false.2 hf
    | tail _ ha => exact hit.past_target a ha
  past_source := hit.past_source

/-- The first pair on the way from the content of a nullable type is the first one on the way from
that type, once no layer of the target is left. -/
def throughSource (hf : ctx.find? (.option s) t = none) (ht : ctx.acceptsNull t = false)
    (hs : s ∈ ctx.optionals) (hit : Hit ctx s t s' t') : Hit ctx (.option s) t s' t' where
  source := .layer hs hit.source
  target := hit.target
  converter := hit.converter
  registered := hit.registered
  turn := .inr ((hit.target.eq_of_not_acceptsNull ht).symm ▸ ht)
  past_target a ha := by
    rw [hit.target.passed_eq_nil ht] at ha
    cases ha
  past_source b hb := by
    cases hb with
    | head =>
      rw [hit.target.eq_of_not_acceptsNull ht]
      exact contains_eq_false.2 hf
    | tail _ hb => exact hit.past_source b hb

/-- Without a converter for the pair itself, the first pair on the way to a nullable type is the
first one on the way to its content. -/
lemma content (hf : ctx.find? s (.option u) = none) (hu : u ∈ ctx.optionals)
    (hit : Hit ctx s (.option u) s' t') :
    ∃ hit' : Hit ctx s u s' t', hit'.source = hit.source := by
  obtain ⟨p, q, f, registered, turn, past_target, past_source⟩ := hit
  cases q with
  | refl =>
    obtain rfl | ht := turn
    · cases hf.symm.trans registered
    · cases ht.symm.trans (acceptsNull_option.2 hu)
  | layer hu q =>
    exact ⟨⟨p, q, f, registered, turn,
      fun a ha => past_target a (List.mem_cons_of_mem _ ha), past_source⟩, rfl⟩

/-- Without a converter for the pair itself, and once no layer of the target is left, the first pair
on the way from a nullable type is the first one on the way from its content. -/
lemma fromContent (hf : ctx.find? (.option s) t = none) (ht : ctx.acceptsNull t = false)
    (hs : s ∈ ctx.optionals) (hit : Hit ctx (.option s) t s' t') :
    ∃ hit' : Hit ctx s t s' t', hit.source = .layer hs hit'.source := by
  obtain ⟨p, q, f, registered, turn, past_target, past_source⟩ := hit
  obtain rfl := q.eq_of_not_acceptsNull ht
  cases p with
  | refl => cases hf.symm.trans registered
  | layer hs p =>
    have none_passed := q.passed_eq_nil ht
    refine ⟨⟨p, q, f, registered, .inr ht, ?_, ?_⟩, rfl⟩
    · intro a ha
      rw [none_passed] at ha
      cases ha
    · exact fun b hb => past_source b (List.mem_cons_of_mem _ hb)

/-- An error of the first pair's converter, for the way from `s` to `t`: it is restated unless the
pair is `s` and `t` itself. -/
def report (_ : Hit ctx s t s' t') (e : ConversionError) : ConversionError :=
  if s' = s ∧ t' = t then e else e.restate s.name t.name

/-- What the first pair gives for the way from `s` to `t`: the values of its converter, in the
layers that the way has left behind, and its errors. -/
def result (hit : Hit ctx s t s' t') (w : s'.Val) : Except ConversionError t.Val :=
  match hit.converter w with
  | .ok y => .ok (hit.target.wrap y)
  | .error e => .error (hit.report e)

/-- Only the last restatement of an error counts. -/
lemma restate_report (hit : Hit ctx s t s' t') (e : ConversionError) (a b : String) :
    (hit.report e).restate a b = e.restate a b := by
  rw [report]
  split
  · rfl
  · exact ConversionError.restate_restate ..

/-- What the pair itself gives is left as it is. -/
lemma result_direct {f : Converter s t} (hf : ctx.find? s t = some f) (v : s.Val) :
    (direct hf).result v = f v := by
  have same : (direct hf).converter v = f v := rfl
  rw [result, same]
  cases f v with
  | ok y => rfl
  | error e => exact congrArg Except.error (if_pos ⟨rfl, rfl⟩)

/-- Through a layer of the target, values are put into it. -/
lemma result_throughTarget (hf : ctx.find? s (.option u) = none) (hu : u ∈ ctx.optionals)
    (hit : Hit ctx s u s' t') (w : s'.Val) :
    (hit.throughTarget hf hu).result w =
      ((hit.result w).mapError (·.restate s.name (Ty.option u).name)).map some := by
  have same : (hit.throughTarget hf hu).converter w = hit.converter w := rfl
  rw [result, result, same]
  cases hit.converter w with
  | ok y => rfl
  | error e =>
    have restated : (hit.throughTarget hf hu).report e = e.restate s.name (Ty.option u).name :=
      if_neg fun h => hit.target.ne_option h.2
    exact congrArg Except.error (restated.trans (hit.restate_report e _ _).symm)

/-- Through a layer of the source, values stay as they are. -/
lemma result_throughSource (hf : ctx.find? (.option s) t = none) (ht : ctx.acceptsNull t = false)
    (hs : s ∈ ctx.optionals) (hit : Hit ctx s t s' t') (w : s'.Val) :
    (hit.throughSource hf ht hs).result w =
      (hit.result w).mapError (·.restate (Ty.option s).name t.name) := by
  have same : (hit.throughSource hf ht hs).converter w = hit.converter w := rfl
  rw [result, result, same]
  cases hit.converter w with
  | ok y => rfl
  | error e =>
    have restated : (hit.throughSource hf ht hs).report e = e.restate (Ty.option s).name t.name :=
      if_neg fun h => hit.source.ne_option h.1
    exact congrArg Except.error (restated.trans (hit.restate_report e _ _).symm)

/-- The values that the first pair gives are those of its converter, in layers. -/
lemma result_eq_ok_iff {hit : Hit ctx s t s' t'} {x : s'.Val} {w : t.Val} :
    hit.result x = .ok w ↔ ∃ y, hit.converter x = .ok y ∧ w = hit.target.wrap y := by
  rw [result]
  cases hit.converter x with
  | ok y =>
    constructor
    · intro h
      exact ⟨y, rfl, (Except.ok.inj h).symm⟩
    · rintro ⟨y', h, rfl⟩
      cases h
      rfl
  | error e =>
    apply iff_of_false nofun
    rintro ⟨y, h, _⟩
    cases h

/-- The errors that the first pair gives are those of its converter, reported for the way. -/
lemma result_eq_error_iff {hit : Hit ctx s t s' t'} {x : s'.Val} {e : ConversionError} :
    hit.result x = .error e ↔ ∃ e', hit.converter x = .error e' ∧ e = hit.report e' := by
  rw [result]
  cases hit.converter x with
  | ok y =>
    apply iff_of_false nofun
    rintro ⟨e', h, _⟩
    cases h
  | error e' =>
    constructor
    · intro h
      exact ⟨e', rfl, (Except.error.inj h).symm⟩
    · rintro ⟨e'', h, rfl⟩
      cases h
      rfl

/-- The target of the first pair is not passed by on the way into the target. -/
lemma target_notMem_passed {s₁ t₁ : Ty κ} (hit : Hit ctx s t s' t') (hit₁ : Hit ctx s t s₁ t₁) :
    t' ∉ hit₁.target.passed := by
  intro h
  obtain ⟨_, nullable, _⟩ := hit₁.target.of_mem_passed h
  have free := hit₁.past_target t' h
  obtain rfl | ht := hit.turn
  · cases (contains_eq_false.1 free).symm.trans hit.registered
  · cases ht.symm.trans nullable

/-- The source of the first pair is not passed by on the way into the source. -/
lemma source_notMem_passed {s₁ : Ty κ} (hit : Hit ctx s t s' t') (hit₁ : Hit ctx s t s₁ t') :
    s' ∉ hit₁.source.passed := by
  intro h
  have free := hit₁.past_source s' h
  cases (contains_eq_false.1 free).symm.trans hit.registered

/-- There is only one first pair. -/
lemma pair_eq {s₁ t₁ s₂ t₂ : Ty κ} (hit₁ : Hit ctx s t s₁ t₁) (hit₂ : Hit ctx s t s₂ t₂) :
    s₁ = s₂ ∧ t₁ = t₂ := by
  obtain rfl : t₁ = t₂ := by
    obtain e | h | h := hit₁.target.total hit₂.target
    · exact e
    · exact absurd h (hit₁.target_notMem_passed hit₂)
    · exact absurd h (hit₂.target_notMem_passed hit₁)
  obtain e | h | h := hit₁.source.total hit₂.source
  · exact ⟨e, rfl⟩
  · exact absurd h (hit₁.source_notMem_passed hit₂)
  · exact absurd h (hit₂.source_notMem_passed hit₁)

/-- There is only one first pair, in one way. -/
lemma unique (hit₁ hit₂ : Hit ctx s t s' t') : hit₁ = hit₂ := by
  obtain ⟨p₁, q₁, f₁, registered₁, _, _, _⟩ := hit₁
  obtain ⟨p₂, q₂, f₂, registered₂, _, _, _⟩ := hit₂
  obtain rfl := p₁.unique p₂
  obtain rfl := q₁.unique q₂
  cases registered₁.symm.trans registered₂
  rfl

/-- An error of the first pair is one of its converter, as it is or restated for the whole way. -/
lemma exists_of_result_eq_error {hit : Hit ctx s t s' t'} {w : s'.Val} {e : ConversionError}
    (h : hit.result w = .error e) :
    ∃ e', hit.converter w = .error e' ∧ (e = e' ∨ e = e'.restate s.name t.name) := by
  obtain ⟨e', hw, rfl⟩ := result_eq_error_iff.1 h
  refine ⟨e', hw, ?_⟩
  rw [report]
  split
  · exact .inl rfl
  · exact .inr rfl

end Hit

/-- Some pair on the way of a search from `s` to `t` is registered. -/
def Leads (ctx : Context κ) (s t : Ty κ) : Prop :=
  ∃ s' t', Nonempty (Layers ctx s s') ∧ Nonempty (Layers ctx t t') ∧
    ctx.contains s' t' = true ∧ (s' = s ∨ ctx.acceptsNull t' = false)

/-- The first pair on a way is a pair on it. -/
lemma Hit.leads {s t s' t' : Ty κ} (hit : Hit ctx s t s' t') : ctx.Leads s t :=
  ⟨s', t', ⟨hit.source⟩, ⟨hit.target⟩, contains_iff.2 ⟨_, hit.registered⟩, hit.turn⟩

/-- Without a converter for the pair itself, the way to a nullable type is that to its content. -/
lemma leads_content {s u : Ty κ} (hf : ctx.find? s (.option u) = none) (hu : u ∈ ctx.optionals)
    (h : ctx.Leads s (.option u)) : ctx.Leads s u := by
  obtain ⟨s', t', p, ⟨q⟩, hc, turn⟩ := h
  cases q with
  | layer _ q => exact ⟨s', t', p, ⟨q⟩, hc, turn⟩
  | refl =>
    cases turn with
    | inl e =>
      rw [e, contains_eq_false.2 hf] at hc
      cases hc
    | inr ht =>
      rw [acceptsNull_option.2 hu] at ht
      cases ht

/-- Without a converter for the pair itself, the way from a nullable type to one that is not
nullable is the way from its content. -/
lemma leads_from_content {s t : Ty κ} (hf : ctx.find? (.option s) t = none)
    (ht : ctx.acceptsNull t = false) (h : ctx.Leads (.option s) t) : ctx.Leads s t := by
  obtain ⟨s', t', ⟨p⟩, ⟨q⟩, hc, _⟩ := h
  have e := q.eq_of_not_acceptsNull ht
  subst e
  cases p with
  | layer _ p => exact ⟨s', t', ⟨p⟩, ⟨q⟩, hc, .inr ht⟩
  | refl =>
    rw [contains_eq_false.2 hf] at hc
    cases hc

/-- Between types that are not nullable, the way is the pair itself. -/
lemma not_leads {s t : Ty κ} (hf : ctx.find? s t = none) (ht : ctx.acceptsNull t = false)
    (hs : ctx.acceptsNull s = false) : ¬ ctx.Leads s t := by
  rintro ⟨s', t', ⟨p⟩, ⟨q⟩, hc, _⟩
  rw [p.eq_of_not_acceptsNull hs, q.eq_of_not_acceptsNull ht, contains_eq_false.2 hf] at hc
  cases hc

/-- How a search from the value `v` of `s` for a value of `t` ends, with the converters that it
ran. -/
inductive Ends (ctx : Context κ) (s : Ty κ) (v : s.Val) (t : Ty κ) (o : Outcome t) : Prop where
  /-- The first converter on the way is run, on the value found within the source. -/
  | ran {s' t' : Ty κ} (hit : Hit ctx s t s' t') {w : s'.Val} :
    hit.source.unwrap v = some w →
    (ctx.isAbsent s v = true → s' = s ∧ t' = t) →
    o.runs = [.run s' t' w] →
    o.result = hit.result w →
    Ends ctx s v t o
  /-- A value that stands for nothing does so at a nullable target. -/
  | absent {w : t.Val} :
    ctx.find? s t = none →
    ctx.isAbsent s v = true →
    ctx.absent? t = some w →
    o.runs = [] →
    o.result = .ok w →
    Ends ctx s v t o
  /-- No pair on the way is registered. -/
  | astray :
    ¬ ctx.Leads s t →
    ctx.populated s v = true →
    o.runs = [] →
    o.result = .error (.unsupported s.name t.name) →
    Ends ctx s v t o
  /-- A nullable layer of the source is empty, and no first converter on the way takes it. -/
  | empty :
    ctx.populated s v = false →
    (ctx.isAbsent s v = true → ctx.acceptsNull t = false) →
    o.runs = [] →
    o.result = .error (.null (ctx.core t).name) →
    (∀ {s' t' : Ty κ} (hit : Hit ctx s t s' t'), hit.source.unwrap v = none) →
    Ends ctx s v t o

/-- A search for the content of a nullable target ends like the one for the target. -/
lemma Ends.target {s u : Ty κ} {v : s.Val} {o : Outcome u}
    (hf : ctx.find? s (.option u) = none) (hu : u ∈ ctx.optionals)
    (ha : ctx.isAbsent s v = false) (h : Ends ctx s v u o) :
    Ends ctx s v (.option u)
      (.after (.hop s (.option u)) (o.restate s (.option u)).populated) := by
  cases h with
  | @ran s' t' hit w hw hv runs result =>
    refine .ran (hit.throughTarget hf hu) hw ?_ runs ?_
    · intro h
      cases ha.symm.trans h
    · rw [hit.result_throughTarget hf hu, ← result]
      rfl
  | absent _ ha' => cases ha.symm.trans ha'
  | astray lead full runs result =>
    refine .astray (fun h => lead (leads_content hf hu h)) full runs ?_
    simp only [Outcome.result_after, Outcome.populated, Outcome.restate, result]
    rfl
  | empty full _ runs result untaken =>
    refine .empty full (fun h => by cases ha.symm.trans h) runs ?_ ?_
    · simp only [Outcome.result_after, Outcome.populated, Outcome.restate, result]
      rw [core_option hu]
      rfl
    · intro s' t' hit
      obtain ⟨hit', same⟩ := hit.content hf hu
      rw [← same]
      exact untaken hit'

/-- A search from the content of a nullable source ends like the one from the source, once no layer
of the target is left. -/
lemma Ends.source {s t : Ty κ} {w : s.Val} {o : Outcome t}
    (hf : ctx.find? (.option s) t = none) (ht : ctx.acceptsNull t = false)
    (hs : s ∈ ctx.optionals) (h : Ends ctx s w t o) :
    Ends ctx (.option s) (some w) t (.after (.hop (.option s) t) (o.restate (.option s) t)) := by
  cases h with
  | @ran s' t' hit w' hw _ runs result =>
    refine .ran (hit.throughSource hf ht hs) hw nofun runs ?_
    rw [hit.result_throughSource hf ht hs, ← result]
    rfl
  | @absent y _ _ hy =>
    -- the target is not nullable, so nothing can have stood for nothing there
    cases ht.symm.trans (acceptsNull_of_absent? hy)
  | astray lead full runs result =>
    refine .astray (fun h => lead (leads_from_content hf ht h)) ?_ runs ?_
    · rw [populated_some hs]
      exact full
    · simp only [Outcome.result_after, Outcome.restate, result]
      rfl
  | empty full _ runs result untaken =>
    refine .empty ?_ nofun runs ?_ ?_
    · rw [populated_some hs]
      exact full
    · simp only [Outcome.result_after, Outcome.restate, result]
      rfl
    · intro s' t' hit
      obtain ⟨hit', same⟩ := hit.fromContent hf ht hs
      rw [same]
      exact untaken hit'

/-- Every search ends in one of the four ways. -/
theorem Searches.ends {s t : Ty κ} {v : s.Val} {o : Outcome t} (h : Searches ctx s v t o) :
    Ends ctx s v t o := by
  induction h with
  | @direct s t v f hf =>
    exact .ran (.direct hf) rfl (fun _ => ⟨rfl, rfl⟩) rfl (Hit.result_direct hf v).symm
  | absent hf hu ha => exact .absent hf ha (absent?_option hu) rfl rfl
  | target hf hu ha _ ih => exact ih.target hf hu ha
  | astray hf ht hs =>
    exact .astray (not_leads hf ht hs) (populated_of_not_acceptsNull hs _) rfl rfl
  | empty hf ht hs =>
    refine .empty (populated_none hs) (fun _ => ht) rfl ?_ ?_
    · rw [core_of_not_acceptsNull ht]
      rfl
    · intro s' t' hit
      obtain ⟨hit', same⟩ := hit.fromContent hf ht hs
      rw [same]
      rfl
  | source hf ht hs _ ih => exact ih.source hf ht hs

/-- A search whose first pair takes what is there gives what that pair gives, unless the value
stands for nothing before the pair's turn comes. -/
lemma Ends.result_of_hit {s t s' t' : Ty κ} {v : s.Val} {o : Outcome t} (h : Ends ctx s v t o)
    (hit : Hit ctx s t s' t') (only : ctx.isAbsent s v = true → s' = s ∧ t' = t) {w : s'.Val}
    (hw : hit.source.unwrap v = some w) : o.result = hit.result w := by
  cases h with
  | ran hit' hw' _ _ result =>
    obtain ⟨rfl, rfl⟩ := hit.pair_eq hit'
    obtain rfl := hit.unique hit'
    cases hw.symm.trans hw'
    exact result
  | absent hf ha =>
    obtain ⟨rfl, rfl⟩ := only ha
    cases hf.symm.trans hit.registered
  | astray lead => exact absurd hit.leads lead
  | empty _ _ _ _ untaken => cases (untaken hit).symm.trans hw

/-- The first pair on the way decides what a search finds, unless the value stands for nothing. -/
lemma Ends.result_eq_ok_iff {s t s' t' : Ty κ} {v : s.Val} {o : Outcome t} (h : Ends ctx s v t o)
    (hit : Hit ctx s t s' t') (ha : ctx.isAbsent s v = false) (w : t.Val) :
    o.result = .ok w ↔ ∃ x y, hit.source.unwrap v = some x ∧ hit.converter x = .ok y ∧
      w = hit.target.wrap y := by
  cases hx : hit.source.unwrap v with
  | none =>
    apply iff_of_false
    · intro found
      cases h with
      | ran hit' hx' =>
        obtain ⟨rfl, rfl⟩ := hit.pair_eq hit'
        obtain rfl := hit.unique hit'
        cases hx.symm.trans hx'
      | absent _ ha' => cases ha.symm.trans ha'
      | astray lead => exact lead hit.leads
      | empty _ _ _ result => cases result.symm.trans found
    · rintro ⟨x, y, e, _⟩
      cases e
  | some x =>
    rw [h.result_of_hit hit (fun absent => by cases ha.symm.trans absent) hx, hit.result_eq_ok_iff]
    constructor
    · rintro ⟨y, hy, rfl⟩
      exact ⟨x, y, rfl, hy, rfl⟩
    · rintro ⟨x', y, e, hy, rfl⟩
      cases e
      exact ⟨y, hy, rfl⟩

end Context

end TypedArguments
