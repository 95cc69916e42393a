import TypedArguments.Proofs.Search.Hops

/-!
# Announced conversions

`Context.supports` looks at every pair of a type within the source and a type within the target
(`supports_iff`), while a search keeps to one way through these pairs (`Context.Leads`). So a search
that is not announced finds nothing (`convert_unannounced`), but an announced one can go astray:
it answers exactly if a pair on its own way is registered (`convert_answers_iff_leads`).
-/

namespace TypedArguments

variable {κ : Type} [DecidableEq κ] [UserTypes κ]

namespace Context

variable {ctx : Context κ}

/-- One row of the pairs, and what is reached past the source's own row. -/
lemma reaches_iff {s : Ty κ} {past : Ty κ → Bool} (t : Ty κ) :
    ctx.reaches s past t = true ↔
      ∃ t', Nonempty (Layers ctx t t') ∧ (s = t' ∨ ctx.contains s t' = true ∨ past t' = true) := by
  induction t with
  | base b =>
    simp only [reaches, Bool.or_eq_true, decide_eq_true_eq, or_assoc]
    constructor
    · exact fun h => ⟨_, ⟨.refl _⟩, h⟩
    · rintro ⟨t', ⟨p⟩, h⟩
      cases p
      exact h
  | option u ih =>
    simp only [reaches, Bool.or_eq_true, Bool.and_eq_true, decide_eq_true_eq, ih]
    constructor
    · rintro (((h | h) | ⟨⟨hu, -⟩, t', ⟨p⟩, h⟩) | h)
      · exact ⟨_, ⟨.refl _⟩, .inl h⟩
      · exact ⟨_, ⟨.refl _⟩, .inr (.inl h)⟩
      · exact ⟨t', ⟨.layer hu p⟩, h⟩
      · exact ⟨_, ⟨.refl _⟩, .inr (.inr h)⟩
    · rintro ⟨t', ⟨p⟩, h⟩
      cases p with
      | refl =>
        obtain h | h | h := h
        · exact .inl (.inl (.inl h))
        · exact .inl (.inl (.inr h))
        · exact .inr h
      | layer hu p =>
        by_cases e : u = s
        · -- the content is not searched when it is the source, but then boxing is registered
          subst e
          exact .inl (.inl (.inr (ctx.boxed u hu)))
        · exact .inl (.inr ⟨⟨hu, e⟩, t', ⟨p⟩, h⟩)

/-- What is announced: a type within the source and a type within the target are the same, or a
converter is registered between them. -/
theorem supports_iff (s t : Ty κ) :
    ctx.supports s t = true ↔
      ∃ s' t', Nonempty (Layers ctx s s') ∧ Nonempty (Layers ctx t t') ∧
        (s' = t' ∨ ctx.contains s' t' = true) := by
  induction s generalizing t with
  | base b =>
    rw [supports, reaches_iff]
    constructor
    · rintro ⟨t', q, h⟩
      exact ⟨_, t', ⟨.refl _⟩, q, h.imp_right (·.resolve_right Bool.false_ne_true)⟩
    · rintro ⟨s', t', ⟨p⟩, q, h⟩
      cases p
      exact ⟨t', q, h.imp_right .inl⟩
  | option s ih =>
    rw [supports, reaches_iff]
    simp only [Bool.and_eq_true, decide_eq_true_eq, ih]
    constructor
    · rintro ⟨t', ⟨q⟩, h | h | ⟨hs, s'', t'', ⟨p⟩, ⟨q'⟩, h⟩⟩
      · exact ⟨_, t', ⟨.refl _⟩, ⟨q⟩, .inl h⟩
      · exact ⟨_, t', ⟨.refl _⟩, ⟨q⟩, .inr h⟩
      · exact ⟨s'', t'', ⟨.layer hs p⟩, ⟨q.trans q'⟩, h⟩
    · rintro ⟨s', t', ⟨p⟩, q, h⟩
      cases p with
      | refl => exact ⟨t', q, h.imp_right .inl⟩
      | layer hs p => exact ⟨t', q, .inr (.inr ⟨hs, s', t', ⟨p⟩, ⟨.refl _⟩, h⟩)⟩

/-- A way is announced. -/
lemma Leads.supports {s t : Ty κ} (h : ctx.Leads s t) : ctx.supports s t = true := by
  obtain ⟨s', t', p, q, hc, _⟩ := h
  exact (supports_iff s t).2 ⟨s', t', p, q, .inr hc⟩

/-- Every type is announced for itself. -/
lemma supports_self (s : Ty κ) : ctx.supports s s = true :=
  (supports_iff s s).2 ⟨s, s, ⟨.refl s⟩, ⟨.refl s⟩, .inl rfl⟩

/-- Two types with a type in common have a way: boxing leads into the deeper target, unboxing out of
the deeper source. -/
lemma leads_of_common {s t c : Ty κ} (ne : s ≠ t) (p : Layers ctx s c) (q : Layers ctx t c) :
    ctx.Leads s t := by
  obtain ⟨r⟩ := ctx.layers_core c
  by_cases e : s = ctx.core c
  · -- the source has no layers of its own, so the pair is the boxing one into the layer around it
    subst e
    obtain ⟨hs, q'⟩ := (q.trans r).last ne.symm
    exact ⟨_, _, ⟨.refl _⟩, q', ctx.boxed _ hs, .inl rfl⟩
  · obtain ⟨hc, p'⟩ := (p.trans r).last e
    exact ⟨_, _, p', ⟨q.trans r⟩, ctx.unboxed _ hc, .inr (acceptsNull_core c)⟩

/-- What is announced but has no way leads from within the source to a nullable type. -/
lemma exists_of_supports_of_not_leads {s t : Ty κ} (h : ctx.supports s t = true)
    (hn : ¬ (s = t ∨ ctx.Leads s t)) :
    ∃ s' t', Nonempty (Layers ctx s s') ∧ Nonempty (Layers ctx t t') ∧
      ctx.contains s' t' = true ∧ s' ≠ s ∧ ctx.acceptsNull t' = true := by
  rw [not_or] at hn
  obtain ⟨s', t', ⟨p⟩, ⟨q⟩, h | h⟩ := (supports_iff s t).1 h
  · subst h
    exact absurd (leads_of_common hn.1 p q) hn.2
  · refine ⟨s', t', ⟨p⟩, ⟨q⟩, h, ?_, ?_⟩
    · exact fun e => hn.2 ⟨s', t', ⟨p⟩, ⟨q⟩, h, .inl e⟩
    · cases ht : ctx.acceptsNull t' with
      | true => rfl
      | false => exact absurd ⟨s', t', ⟨p⟩, ⟨q⟩, h, .inr ht⟩ hn.2

/-- A converter that was run failed with the error `e`. -/
def Raises (ctx : Context κ) {t : Ty κ} (o : Outcome t) (e : ConversionError) : Prop :=
  ∃ (s' t' : Ty κ) (w : s'.Val) (f : Converter s' t'),
    Step.run s' t' w ∈ o.runs ∧ ctx.find? s' t' = some f ∧ f w = .error e

/-- There is a value, or an error of a converter that was run, as it is or restated for the whole
way. -/
def Answers (ctx : Context κ) (s : Ty κ) {t : Ty κ} (o : Outcome t) : Prop :=
  (∃ w, o.result = .ok w) ∨
    ∃ e, ctx.Raises o e ∧ (o.result = .error e ∨ o.result = .error (e.restate s.name t.name))

/-- A search that runs a converter fails with what that raises, or with its restatement. -/
lemma Hit.raises {s t s' t' : Ty κ} {o : Outcome t} {w : s'.Val} {e : ConversionError}
    (hit : Hit ctx s t s' t') (runs : o.runs = [.run s' t' w]) (he : hit.result w = .error e) :
    ∃ e', ctx.Raises o e' ∧ (e = e' ∨ e = e'.restate s.name t.name) := by
  obtain ⟨e', hw, stated⟩ := hit.exists_of_result_eq_error he
  have mem : Step.run s' t' w ∈ o.runs := by simp [runs]
  exact ⟨e', ⟨s', t', w, hit.converter, mem, hit.registered, hw⟩, stated⟩

/-- A search that runs a converter answers. -/
lemma Hit.answers {s t s' t' : Ty κ} {o : Outcome t} {w : s'.Val} (hit : Hit ctx s t s' t')
    (runs : o.runs = [.run s' t' w]) (result : o.result = hit.result w) : ctx.Answers s o := by
  cases hr : hit.result w with
  | ok y => exact .inl ⟨y, result.trans hr⟩
  | error e =>
    obtain ⟨e', raised, rfl | rfl⟩ := hit.raises runs hr
    · exact .inr ⟨_, raised, .inl (result.trans hr)⟩
    · exact .inr ⟨_, raised, .inr (result.trans hr)⟩

/-- A search that fails without running a converter does not answer. -/
lemma not_answers {s t : Ty κ} {o : Outcome t} {e : ConversionError} (runs : o.runs = [])
    (result : o.result = .error e) : ¬ ctx.Answers s o := by
  rintro (⟨w, h⟩ | ⟨e', ⟨s', t', w, f, mem, _⟩, _⟩)
  · rw [result] at h
    cases h
  · rw [runs] at mem
    cases mem

/-- A value of another type is searched for. -/
lemma convert_of_ne {s t : Ty κ} (ne : s ≠ t) (v : s.Val) (rendering : String) :
    ctx.convert (.stored ⟨s, v⟩ rendering) t = ctx.search s v t :=
  dif_neg ne

/-- A value of the type itself is found at once. -/
lemma convert_self (s : Ty κ) (v : s.Val) (rendering : String) :
    ctx.convert (.stored ⟨s, v⟩ rendering) s = .found v :=
  dif_pos rfl

/-- An announced conversion of a populated value answers exactly if the types are the same or a pair
on the way of the search is registered: one whose source is the source itself, or whose target is
the core of the target. Otherwise a registered pair from within the source to a nullable type
within the target is passed by, and the search goes astray. -/
theorem convert_answers_iff_leads {s t : Ty κ} {v : s.Val} (announced : ctx.supports s t = true)
    (full : ctx.populated s v = true) (rendering : String) :
    (ctx.Answers s (ctx.convert (.stored ⟨s, v⟩ rendering) t) ↔ s = t ∨ ctx.Leads s t) ∧
    (¬ (s = t ∨ ctx.Leads s t) →
      (ctx.convert (.stored ⟨s, v⟩ rendering) t).result = .error (.unsupported s.name t.name) ∧
      (ctx.convert (.stored ⟨s, v⟩ rendering) t).runs = [] ∧
      ∃ s' t', Nonempty (Layers ctx s s') ∧ Nonempty (Layers ctx t t') ∧
        ctx.contains s' t' = true ∧ s' ≠ s ∧ ctx.acceptsNull t' = true) := by
  by_cases e : s = t
  · subst e
    refine ⟨iff_of_true (.inl ⟨v, ?_⟩) (.inl rfl), fun h => absurd (.inl rfl) h⟩
    rw [convert_self]
    rfl
  · rw [convert_of_ne e]
    cases (ctx.search_searches s v t).ends with
    | ran hit hw _ runs result =>
      have answers := hit.answers runs result
      exact ⟨iff_of_true answers (.inr hit.leads), fun h => absurd (.inr hit.leads) h⟩
    | absent _ ha =>
      rw [isAbsent_of_populated full] at ha
      cases ha
    | astray lead _ runs result =>
      have hn : ¬ (s = t ∨ ctx.Leads s t) := not_or.2 ⟨e, lead⟩
      have missed := exists_of_supports_of_not_leads announced hn
      exact ⟨iff_of_false (not_answers runs result) hn, fun _ => ⟨result, runs, missed⟩⟩
    | empty hn =>
      rw [full] at hn
      cases hn

namespace Detour

/-- The type that the conversion takes. -/
abbrev byte : Ty Empty := .scalar (.int .u8)

/-- The content of the nullable type that it leads to. -/
abbrev word : Ty Empty := .scalar (.int .u32)

/-- A value of `byte`. -/
def four : Bounded .u8 := ⟨4, by decide⟩

/-- A value of `word`. -/
def wide : Bounded .u32 := ⟨4, by decide⟩

/-- A context whose only conversion, the boxing ones aside, leads from the content of one nullable
type to the other nullable type. -/
def context : Context Empty :=
  (empty.extend [.optional byte, .optional word,
    .conversion ⟨byte, .option word, fun _ => .ok (some wide)⟩]).value

/-- The search from the one nullable type to the other goes astray. -/
theorem answers_iff_leads :
    context.supports (.option byte) (.option word) = true ∧
    context.populated (.option byte) (some four) = true ∧
    (context.Answers (.option byte)
        (context.convert (.stored ⟨.option byte, some four⟩ "4") (.option word)) ↔
      (Ty.option byte : Ty Empty) = .option word ∨
        context.Leads (.option byte) (.option word)) :=
  ⟨by decide, by decide, (convert_answers_iff_leads (by decide) (by decide) "4").1⟩

/-- A populated value of the one nullable type is announced for the other, whose converter would
take its content, but no converter is run. -/
theorem announced_not_answers :
    context.supports (.option byte) (.option word) = true ∧
    context.populated (.option byte) (some four) = true ∧
    (context.convert (.stored ⟨byte, four⟩ "4") (.option word)).result = .ok (some wide) ∧
    (context.convert (.stored ⟨.option byte, some four⟩ "4") (.option word)).result =
      .error (.unsupported "core::option::Option<u8>" "core::option::Option<u32>") ∧
    (context.convert (.stored ⟨.option byte, some four⟩ "4") (.option word)).runs = [] ∧
    ¬ context.Answers (.option byte)
        (context.convert (.stored ⟨.option byte, some four⟩ "4") (.option word)) :=
  ⟨by decide, by decide, rfl, rfl, rfl, not_answers rfl rfl⟩

end Detour

namespace Nested

open Detour (byte word wide)

/-- A conversion that never fails. -/
def widen : Converter byte word := fun _ => .ok wide

/-- Two nested nullable types, another one, and a conversion between the cores. -/
def registrations (run : Converter byte word) : List (Registration Empty) :=
  [.optional byte, .optional (.option byte), .optional word, .conversion ⟨byte, word, run⟩]

/-- What the registrations make. -/
def context (run : Converter byte word) : Context Empty :=
  (empty.extend (registrations run)).value

/-- There is one conversion among the registrations. -/
lemma eq_of_conversion_mem {run : Converter byte word} {c : Conversion Empty}
    (h : .conversion c ∈ registrations run) : c = ⟨byte, word, run⟩ := by
  simpa [registrations] using h

end Nested

/-- What comes of a conversion that is not announced: no converter is run. A value that stands for
nothing does so at a nullable target; everything else fails, by the lack of a conversion if the
value is populated and by the lack of a value if not. -/
structure Unannounced (ctx : Context κ) (s : Ty κ) (v : s.Val) (t : Ty κ) (o : Outcome t) :
    Prop where
  idle : o.runs = []
  absent : ctx.isAbsent s v = true → ∀ w, ctx.absent? t = some w → o.result = .ok w
  unsupported : ctx.populated s v = true → o.result = .error (.unsupported s.name t.name)
  null : ctx.populated s v = false → (ctx.isAbsent s v = true → ctx.acceptsNull t = false) →
    o.result = .error (.null (ctx.core t).name)

/-- A search without a way is not announced, and ends like that. -/
lemma Ends.unannounced {s t : Ty κ} {v : s.Val} {o : Outcome t} (lead : ¬ ctx.Leads s t)
    (h : Ends ctx s v t o) : Unannounced ctx s v t o := by
  cases h with
  | ran hit => exact absurd hit.leads lead
  | @absent w _ ha hw runs result =>
    have ht := acceptsNull_of_absent? hw
    refine ⟨runs, ?_, ?_, ?_⟩
    · intro _ w' hw'
      cases hw.symm.trans hw'
      exact result
    · intro full
      cases ha.symm.trans (isAbsent_of_populated full)
    · intro _ only
      cases ht.symm.trans (only ha)
  | astray _ full runs result =>
    refine ⟨runs, ?_, fun _ => result, ?_⟩
    · intro ha
      cases ha.symm.trans (isAbsent_of_populated full)
    · intro hn
      cases full.symm.trans hn
  | empty hn only runs result =>
    refine ⟨runs, ?_, ?_, fun _ _ => result⟩
    · intro ha w hw
      have ht := acceptsNull_of_absent? hw
      cases ht.symm.trans (only ha)
    · intro full
      cases full.symm.trans hn

/-- What is not announced does not succeed, except that a value that stands for nothing does so at
every nullable target. -/
lemma Unannounced.absent_of_ok {s t : Ty κ} {v : s.Val} {o : Outcome t} {w : t.Val}
    (h : Unannounced ctx s v t o) (hw : o.result = .ok w) :
    ctx.isAbsent s v = true ∧ ctx.absent? t = some w := by
  cases full : ctx.populated s v with
  | true => cases hw.symm.trans (h.unsupported full)
  | false =>
    by_cases only : ctx.isAbsent s v = true → ctx.acceptsNull t = false
    · cases hw.symm.trans (h.null full only)
    · obtain ⟨ha, ht⟩ := Classical.not_imp.1 only
      rw [Bool.not_eq_false, acceptsNull, Option.isSome_iff_exists] at ht
      obtain ⟨w', hw'⟩ := ht
      cases hw.symm.trans (h.absent ha w' hw')
      exact ⟨ha, hw'⟩

/-- A conversion that is not announced runs nothing and gives at most the absent value; so every
successful conversion is announced, or is one of an absent value to the absent value. -/
theorem convert_unannounced (s : Ty κ) (v : s.Val) (rendering : String) (t : Ty κ) :
    (ctx.supports s t = false →
      Unannounced ctx s v t (ctx.convert (.stored ⟨s, v⟩ rendering) t)) ∧
    ∀ w, (ctx.convert (.stored ⟨s, v⟩ rendering) t).result = .ok w →
      ctx.supports s t = true ∨ (ctx.isAbsent s v = true ∧ ctx.absent? t = some w) := by
  have quiet : ctx.supports s t = false →
      Unannounced ctx s v t (ctx.convert (.stored ⟨s, v⟩ rendering) t) := by
    intro hs
    have ne : s ≠ t := by
      rintro rfl
      rw [supports_self] at hs
      cases hs
    have lead : ¬ ctx.Leads s t := fun h => by cases hs.symm.trans h.supports
    rw [convert_of_ne ne]
    exact (ctx.search_searches s v t).ends.unannounced lead
  refine ⟨quiet, ?_⟩
  intro w hw
  cases hs : ctx.supports s t with
  | true => exact .inl rfl
  | false => exact .inr ((quiet hs).absent_of_ok hw)

end Context

end TypedArguments
