import TypedArguments.Proofs.Search.Support
import TypedArguments.Proofs.Untyped.Engine

/-!
# Soundness of the engine over untyped values

The untyped engine does what the typed one does. An untyped context `Represents` a typed one if its
converters and views are those of the typed conversions and nullable types; registrations keep that
(`Represents.extend`), and a search in such a context is the typed search with the types of its
values forgotten (`Represents.search_eq`). So every value found has the type that was wanted, a
value that does not fit comes from a converter that says so itself, and a read gives what the typed
accessor gives (`Represents.read_eq`): all this is `Context.convert_sound`.
-/

namespace TypedArguments

variable {κ : Type} [UserTypes κ]

/-- Restating does not make up that a value does not fit. -/
lemma ConversionError.eq_mistyped_of_restate {e : ConversionError} {s t n : String}
    (h : e.restate s t = .mistyped n) : e = .mistyped n := by
  cases e with
  | unsupported s' t' => cases h
  | _ => exact h

/-- The step, with an input that has forgotten its type. -/
def Step.erase : Step κ → Untyped.Step κ
  | .null t => .null t
  | .hop s t => .hop s t
  | .run s t v => .run s t ⟨s, v⟩

namespace Outcome

variable {t : Ty κ}

/-- The outcome, with values that have forgotten their types. -/
def erase (o : Outcome t) : Untyped.Outcome κ :=
  ⟨o.trail.map Step.erase, o.result.map (Dynamic.mk t)⟩

/-- Erasing an outcome erases its first step and the rest. -/
@[simp] lemma erase_after (step : Step κ) (o : Outcome t) :
    (o.after step).erase = o.erase.after step.erase := rfl

/-- Restating does not look at values. -/
@[simp] lemma erase_restate (s u : Ty κ) (o : Outcome t) :
    (o.restate s u).erase = o.erase.restate s u := by
  obtain ⟨trail, result⟩ := o
  cases result with
  | ok v => rfl
  | error e => rfl

/-- The runs of converters are still in the trail. -/
lemma mem_trail_erase {o : Outcome t} {s' t' : Ty κ} {w : s'.Val} (h : Step.run s' t' w ∈ o.runs) :
    Untyped.Step.run s' t' ⟨s', w⟩ ∈ o.erase.trail :=
  List.mem_map_of_mem (List.mem_filter.1 h).1

/-- A value found has the type that was wanted. -/
lemma type_of_erase_eq_ok {o : Outcome t} {d : Dynamic κ} (h : o.erase.result = .ok d) :
    d.type = t := by
  obtain ⟨trail, result⟩ := o
  cases result with
  | ok v => cases h; rfl
  | error e => cases h

/-- Erasure keeps errors. -/
lemma result_eq_error_of_erase {o : Outcome t} {e : ConversionError}
    (h : o.erase.result = .error e) : o.result = .error e := by
  obtain ⟨trail, result⟩ := o
  cases result with
  | ok v => cases h
  | error e' => cases h; rfl

variable [DecidableEq κ]

/-- Running a converter is running the function that is registered for it. -/
lemma erase_ran {s : Ty κ} (f : Converter s t) (v : s.Val) :
    (ran f v).erase = .ran s t (.ofConversion ⟨s, t, f⟩) ⟨s, v⟩ := by
  simp [erase, ran, Step.erase, Untyped.Outcome.ran, Untyped.Converter.ofConversion]

/-- A value of the content fits into the nullable type. -/
lemma erase_populated (o : Outcome t) : o.populated.erase = o.erase.wrap (.of t) := by
  obtain ⟨trail, result⟩ := o
  cases result with
  | ok v => simp [erase, populated, Untyped.Outcome.wrap, Untyped.Shape.of, Except.map, Except.bind]
  | error e => rfl

end Outcome

variable [DecidableEq κ]

/-- A search for which a value does not fit has run a converter that says so. -/
lemma Context.Ends.raises_mistyped {ctx : Context κ} {s t : Ty κ} {v : s.Val} {o : Outcome t}
    {n : String} (h : Ends ctx s v t o) (hn : o.result = .error (.mistyped n)) :
    ctx.Raises o (.mistyped n) := by
  cases h with
  | ran hit _ _ runs result =>
    obtain ⟨e, raised, stated | stated⟩ := hit.raises runs (result.symm.trans hn)
    · rw [stated]
      exact raised
    · rw [ConversionError.eq_mistyped_of_restate stated.symm] at raised
      exact raised
  | absent _ _ _ _ result => cases result.symm.trans hn
  | astray _ _ _ result => cases result.symm.trans hn
  | empty _ _ _ result => cases result.symm.trans hn

/-- An argument for which a value does not fit has led to a converter that says so. -/
lemma Context.raises_mistyped {ctx : Context κ} {a : Argument κ} {t : Ty κ} {n : String}
    (hn : (ctx.convert a t).result = .error (.mistyped n)) :
    ctx.Raises (ctx.convert a t) (.mistyped n) := by
  cases a with
  | null =>
    rw [convert, Outcome.result_after] at hn
    cases ha : ctx.absent? t with
    | some v => rw [ha] at hn; cases hn
    | none => rw [ha] at hn; cases hn
  | stored d rendering =>
    obtain ⟨s, v⟩ := d
    by_cases e : s = t
    · subst e
      rw [convert_self] at hn
      cases hn
    · rw [convert_of_ne e] at hn ⊢
      exact (ctx.search_searches s v t).ends.raises_mistyped hn

namespace Untyped

/-- The view of an optional type takes a value of the content. -/
@[simp] lemma Shape.wrap_of {s : Ty κ} (v : s.Val) :
    (Shape.of s).wrap ⟨s, v⟩ = some ⟨.option s, some v⟩ := by
  simp [Shape.of]

/-- The view of an optional type gives the content of its values. -/
@[simp] lemma Shape.unwrap_of {s : Ty κ} (v : Option s.Val) :
    (Shape.of s).unwrap ⟨.option s, v⟩ = v.map (Dynamic.mk s) := by
  simp [Shape.of]

omit [DecidableEq κ] in
/-- A step leaves the same record without types. -/
lemma record?_erase (step : TypedArguments.Step κ) : step.erase.record? = step.record? := by
  cases step with
  | null t => rfl
  | hop s t => rfl
  | run s t v => rfl

omit [DecidableEq κ] in
/-- Forgetting types leaves the records of a search as they are. -/
lemma records_erase {t : Ty κ} (o : TypedArguments.Outcome t) : o.erase.records = o.records := by
  have same : Step.record? ∘ TypedArguments.Step.erase = TypedArguments.Step.record? (κ := κ) :=
    funext record?_erase
  show (o.trail.map TypedArguments.Step.erase).filterMap Step.record? = _
  rw [List.filterMap_map, same]
  rfl

namespace Accessor

variable {a : Accessor κ} {index : Nat} {argument : Argument κ} {t : Ty κ}

/-- A value that the conversion finds is given after the record of the attempt. -/
lemma convert_of_ok {d : Dynamic κ} (found : (a.context.convert argument t).result = .ok d) :
    a.convert index argument t =
      ⟨.ok d, .reading a.invocation index t :: (a.context.convert argument t).records⟩ := by
  simp only [convert, found, Logged.bind, Logged.pure, List.append_nil]

/-- An error of the conversion is reported. -/
lemma convert_of_error {source : ConversionError}
    (failed : (a.context.convert argument t).result = .error source) :
    a.convert index argument t =
      ⟨.error (.conversion index argument.rendering argument.typeName t.name source),
        .reading a.invocation index t :: (a.context.convert argument t).records ++
          [.refused a.invocation index argument t source]⟩ := by
  simp only [convert, failed, Logged.bind, Logged.map, refuse]

/-- A value that the conversion finds is given by a read if it is of the wanted type. -/
lemma read_of_ok (get : a.get index = .ok argument) {v : t.Val}
    (found : (a.context.convert argument t).result = .ok ⟨t, v⟩) :
    a.read index t =
      ⟨.ok v, .reading a.invocation index t :: (a.context.convert argument t).records⟩ := by
  rw [read, get]
  simp only [convert_of_ok found, Logged.bind, Dynamic.downcast?_self, Logged.pure, List.append_nil]

/-- An error of the conversion is reported by a read, once. -/
lemma read_of_error (get : a.get index = .ok argument) {source : ConversionError}
    (failed : (a.context.convert argument t).result = .error source) :
    a.read index t =
      ⟨.error (.conversion index argument.rendering argument.typeName t.name source),
        .reading a.invocation index t :: (a.context.convert argument t).records ++
          [.refused a.invocation index argument t source]⟩ := by
  rw [read, get]
  simp only [convert_of_error failed, Logged.bind, Logged.pure, List.append_nil]

end Accessor

/-- The untyped context knows what the typed one does: for each pair the function of the registered
conversion, and for each nullable type its view. -/
structure Represents (u : Context κ) (ctx : TypedArguments.Context κ) : Prop where
  converters : ∀ s t, u.converters (s, t) = (ctx.find? s t).map fun f => .ofConversion ⟨s, t, f⟩
  base : ∀ b, u.shapes (.base b) = none
  option : ∀ s, u.shapes (.option s) = if s ∈ ctx.optionals then some (.of s) else none

namespace Represents

variable {u : Context κ} {ctx : TypedArguments.Context κ}

/-- Knowing nothing is represented by knowing nothing. -/
lemma empty : Represents (.empty : Context κ) .empty where
  converters _ _ := rfl
  base _ := rfl
  option _ := rfl

/-- Registering a conversion keeps the representation. -/
lemma register (h : Represents u ctx) (c : Conversion κ) :
    Represents (u.register c) (ctx.insert c) where
  converters s t := by
    by_cases e : c.pair = (s, t)
    · obtain ⟨s', t', f⟩ := c
      cases e
      have found : (ctx.insert ⟨s', t', f⟩).find? s' t' = some f :=
        Registry.find?_insert_self ctx.registry ⟨s', t', f⟩
      rw [found]
      exact Function.update_self ..
    · have kept : (ctx.insert c).find? s t = ctx.find? s t := Registry.find?_insert_of_ne e
      rw [kept, ← h.converters]
      exact Function.update_of_ne (Ne.symm e) ..
  base := h.base
  option := h.option

/-- Making an optional type nullable keeps the representation. -/
lemma registerOptional (h : Represents u ctx) (s : Ty κ) :
    Represents (u.registerOptional s) (ctx.insertOptional s) where
  converters := ((h.register (.box s)).register (.unbox s)).converters
  base b := by
    have other : (Ty.base b : Ty κ) ≠ .option s := nofun
    simp only [Context.registerOptional, Function.update_of_ne other, h.base b]
  option r := by
    by_cases e : r = s
    · subst e
      have mem : r ∈ (ctx.insertOptional r).optionals := Context.mem_addOptional.2 (.inl rfl)
      simp only [Context.registerOptional, Function.update_self, mem, if_true]
    · have same : r ∈ (ctx.insertOptional s).optionals ↔ r ∈ ctx.optionals :=
        Context.mem_addOptional.trans (or_iff_right e)
      have other : Ty.option r ≠ .option s := fun he => e (Ty.option.inj he)
      simp only [Context.registerOptional, Function.update_of_ne other, h.option r, same]

/-- Registrations keep the representation. -/
lemma extend (h : Represents u ctx) (rs : List (Registration κ)) :
    Represents (u.extend rs) (ctx.extend rs).value := by
  induction rs generalizing u ctx with
  | nil => exact h
  | cons r rs ih =>
    cases r with
    | conversion c => exact ih (h.register c)
    | optional s => exact ih (h.registerOptional s)

/-- A nullable type has the view of its content. -/
lemma shapes_option (h : Represents u ctx) {s : Ty κ} (hs : s ∈ ctx.optionals) :
    u.shapes (.option s) = some (.of s) := by
  rw [h.option, if_pos hs]

/-- A type that is not nullable has no view. -/
lemma shapes_eq_none (h : Represents u ctx) {s : Ty κ} (hs : ctx.acceptsNull s = false) :
    u.shapes s = none := by
  cases s with
  | base b => exact h.base b
  | option s => rw [h.option, if_neg (Context.acceptsNull_option_eq_false.1 hs)]

/-- The view of the source takes nothing out of a value exactly if that is absent. -/
lemma any_unwrap (h : Represents u ctx) {s : Ty κ} (v : s.Val) :
    ((u.shapes s).any fun shape => (shape.unwrap ⟨s, v⟩).isNone) = ctx.isAbsent s v := by
  cases s with
  | base b =>
    rw [h.base]
    rfl
  | option s =>
    by_cases hs : s ∈ ctx.optionals
    · rw [h.shapes_option hs]
      simp [TypedArguments.Context.isAbsent, hs]
    · rw [h.option, if_neg hs]
      simp [TypedArguments.Context.isAbsent, hs]

/-- Without a converter for the pair itself, a search for a nullable type gives its empty value to
an absent value, and otherwise wraps what it finds for the content. -/
lemma search_option (h : Represents u ctx) {s r : Ty κ} (hf : ctx.find? s (.option r) = none)
    (hr : r ∈ ctx.optionals) (v : s.Val) :
    u.search ⟨s, v⟩ s (.option r) =
      .after (.hop s (.option r)) (if ctx.isAbsent s v then .found ⟨.option r, none⟩
        else ((u.search ⟨s, v⟩ s r).restate s (.option r)).wrap (.of r)) := by
  -- the content is not the source, for which boxing is registered, so the view is not passed over
  have ne : (Shape.of r).content ≠ s := Context.ne_content hf hr
  rw [Context.search, h.converters, hf, h.shapes_option hr]
  simp only [Option.map_none, Option.filter_some, ne, ne_eq, not_false_eq_true, decide_true,
    if_true, h.any_unwrap v]
  rfl

/-- A search over untyped values is the typed one. -/
lemma search_eq (h : Represents u ctx) {s t : Ty κ} {v : s.Val} {o : TypedArguments.Outcome t}
    (ho : ctx.Searches s v t o) : u.search ⟨s, v⟩ s t = o.erase := by
  induction ho with
  | @direct s t v f hf =>
    rw [Context.search, h.converters, hf, TypedArguments.Outcome.erase_after,
      TypedArguments.Outcome.erase_ran]
    rfl
  | absent hf hu ha =>
    rw [h.search_option hf hu, ha]
    rfl
  | target hf hu ha _ ih =>
    rw [h.search_option hf hu, ha, ih, TypedArguments.Outcome.erase_after,
      TypedArguments.Outcome.erase_populated, TypedArguments.Outcome.erase_restate]
    rfl
  | astray hf ht hs =>
    rw [Context.search, h.converters, hf, h.shapes_eq_none ht, h.shapes_eq_none hs]
    rfl
  | empty hf ht hs =>
    rw [Context.search, h.converters, hf, h.shapes_eq_none ht, h.shapes_option hs]
    simp only [Option.map_none, Option.filter_none, Shape.unwrap_of]
    rfl
  | @source s t w o hf ht hs _ ih =>
    have ne : (Shape.of s).content ≠ t := Context.ne_target hf hs
    have ih : u.search ⟨s, w⟩ (Shape.of s).content t = o.erase := ih
    rw [Context.search, h.converters, hf, h.shapes_eq_none ht, h.shapes_option hs]
    simp only [Option.map_none, Option.map_some, Option.filter_none, Shape.unwrap_of, ne, if_false,
      ih, TypedArguments.Outcome.erase_after, TypedArguments.Outcome.erase_restate]
    rfl

/-- Reading an argument from untyped values is reading it from typed ones. -/
lemma convert_eq (h : Represents u ctx) (a : Argument κ) (t : Ty κ) :
    u.convert a t = (ctx.convert a t).erase := by
  cases a with
  | null =>
    cases t with
    | base b =>
      rw [Context.convert, h.base]
      rfl
    | option s =>
      by_cases hs : s ∈ ctx.optionals
      · rw [Context.convert, h.shapes_option hs, TypedArguments.Context.convert,
          TypedArguments.Context.absent?_option hs]
        rfl
      · rw [Context.convert, h.option, if_neg hs, TypedArguments.Context.convert,
          TypedArguments.Context.absent?, if_neg hs]
        rfl
  | stored d rendering =>
    obtain ⟨s, v⟩ := d
    by_cases e : s = t
    · subst e
      rw [TypedArguments.Context.convert_self]
      exact if_pos rfl
    · rw [TypedArguments.Context.convert_of_ne e, ← h.search_eq (ctx.search_searches s v t)]
      exact if_neg e

/-- A read from untyped values is the one from typed values, with its records. -/
lemma read_eq {a : Accessor κ} (h : Represents a.context ctx) (index : Nat) (t : Ty κ) :
    a.read index t = (TypedArguments.Accessor.mk a.invocation ctx a.arguments).read index t := by
  rw [TypedArguments.Accessor.read, TypedArguments.Accessor.get]
  cases here : a.arguments[index]? with
  | none =>
    rw [Accessor.read, Accessor.get, here]
    rfl
  | some argument =>
    have get : a.get index = .ok argument := by rw [Accessor.get, here]
    have converted := h.convert_eq argument t
    show a.read index t = TypedArguments.Accessor.readArgument _ index argument t
    cases result : (ctx.convert argument t).result with
    | ok v =>
      have found : (a.context.convert argument t).result = .ok ⟨t, v⟩ := by
        rw [converted, TypedArguments.Outcome.erase, result]
        rfl
      rw [Accessor.read_of_ok get found, converted, records_erase]
      simp only [TypedArguments.Accessor.readArgument, result]
      rfl
    | error source =>
      have failed : (a.context.convert argument t).result = .error source := by
        rw [converted, TypedArguments.Outcome.erase, result]
        rfl
      rw [Accessor.read_of_error get failed, converted, records_erase]
      simp only [TypedArguments.Accessor.readArgument, result]
      rfl

/-- What a search finds for the content of a nullable type can be put into that type. -/
lemma exists_wrap (h : Represents u ctx) {d d' : Dynamic κ} {t : Ty κ} {shape : Shape t}
    (ht : u.shapes t = some shape) (hd : (u.search d d.type shape.content).result = .ok d') :
    ∃ w, shape.wrap d' = some w := by
  cases t with
  | base b =>
    rw [h.base] at ht
    cases ht
  | option s =>
    have hs : s ∈ ctx.optionals := by
      by_contra hs
      rw [h.option, if_neg hs] at ht
      cases ht
    rw [h.shapes_option hs] at ht
    cases ht
    have found : u.search d d.type (Shape.of s).content = (ctx.search d.type d.value s).erase :=
      h.search_eq (ctx.search_searches d.type d.value s)
    rw [found] at hd
    obtain ⟨s', v⟩ := d'
    cases TypedArguments.Outcome.type_of_erase_eq_ok hd
    exact ⟨_, Shape.wrap_of v⟩

end Represents

namespace Context

/-- A function that was run failed with the error `e`. -/
def Raises (u : Context κ) (o : Outcome κ) (e : ConversionError) : Prop :=
  ∃ (s t : Ty κ) (d : Dynamic κ) (f : Converter κ),
    Step.run s t d ∈ o.trail ∧ u.converters (s, t) = some f ∧ f d = .error e

/-- Nothing goes wrong for the lack of types: what is found has the type that was wanted, and a
value of another type is only reported if a function that was run reports it. In particular a value
found for the content of a nullable type can always be put into it, and the value found for an
argument passes the last check of a read. -/
structure Sound (u : Context κ) : Prop where
  typed : ∀ a t d, (u.convert a t).result = .ok d → d.type = t
  mistyped : ∀ a t n, (u.convert a t).result = .error (.mistyped n) →
    u.Raises (u.convert a t) (.mistyped n)
  rewraps : ∀ d t (shape : Shape t) d', u.shapes t = some shape →
    (u.search d d.type shape.content).result = .ok d' → ∃ w, shape.wrap d' = some w
  downcasts : ∀ a t d, (u.convert a t).result = .ok d → ∃ v, d.downcast? t = some v

end Context

/-- If a value does not fit in a typed search, a function that was run over untyped values said
so. -/
lemma Represents.raises {u : Context κ} {ctx : TypedArguments.Context κ} (h : Represents u ctx)
    {t : Ty κ} {o : TypedArguments.Outcome t} {e : ConversionError} (he : ctx.Raises o e) :
    u.Raises o.erase e := by
  obtain ⟨s', t', w, f, mem, hf, hw⟩ := he
  refine ⟨s', t', ⟨s', w⟩, .ofConversion ⟨s', t', f⟩, TypedArguments.Outcome.mem_trail_erase mem,
    ?_, ?_⟩
  · rw [h.converters, hf]
    rfl
  · simp [Converter.ofConversion, hw, Except.map]

/-- Representing a typed context makes an untyped one sound. -/
lemma Represents.sound {u : Context κ} {ctx : TypedArguments.Context κ} (h : Represents u ctx) :
    u.Sound where
  typed a t d hd := by
    rw [h.convert_eq] at hd
    exact TypedArguments.Outcome.type_of_erase_eq_ok hd
  mistyped a t n hn := by
    rw [h.convert_eq] at hn ⊢
    exact h.raises (TypedArguments.Context.raises_mistyped
      (TypedArguments.Outcome.result_eq_error_of_erase hn))
  rewraps d t shape d' ht hd := h.exists_wrap ht hd
  downcasts a t d hd := by
    rw [h.convert_eq] at hd
    obtain ⟨s, v⟩ := d
    cases TypedArguments.Outcome.type_of_erase_eq_ok hd
    exact ⟨v, Dynamic.downcast?_self s v⟩

/-- After any registrations, those of the standard context among them, the engine over untyped
values is sound: it does what the typed engine does, in searches as well as in reads. -/
theorem Context.convert_sound (rs : List (Registration κ)) :
    (empty.extend rs).Sound ∧
    (∀ a t, (empty.extend rs).convert a t =
      ((TypedArguments.Context.empty.extend rs).value.convert a t).erase) ∧
    ∀ invocation arguments index t,
      (Accessor.mk invocation (empty.extend rs) arguments).read index t =
        (TypedArguments.Accessor.mk invocation (TypedArguments.Context.empty.extend rs).value
          arguments).read index t := by
  have same := Represents.empty.extend rs
  refine ⟨same.sound, same.convert_eq, ?_⟩
  intro invocation arguments index t
  exact Represents.read_eq (a := ⟨invocation, _, arguments⟩) same index t

end Untyped

end TypedArguments
