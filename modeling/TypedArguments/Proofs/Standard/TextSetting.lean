import TypedArguments.Proofs.Search.Agreement
import TypedArguments.Proofs.Standard.Basic

/-!
# The setting for text

The settings decide whether the standard context reads text. Contexts that start under different
settings and take in the same registrations agree except on text (`agree_extend`), so they convert
everything else alike. Where text is not read, a text that is stored can be had as text only
(`Settings.ReadsTextOnly`). Both are in `Settings.setting_affects_text`.
-/

namespace TypedArguments

variable {κ : Type} [UserTypes κ] [DecidableEq κ]

/-- Text lies within the type, under nullable layers. -/
def Context.HoldsText (ctx : Context κ) (t : Ty κ) : Prop :=
  ∃ k : TextKind, Nonempty (ctx.Layers t (.scalar k.scalar))

/-- A type with no text within it avoids text. -/
lemma Context.avoids_isText {ctx : Context κ} {t : Ty κ} (h : ¬ ctx.HoldsText t) :
    ctx.Avoids Ty.IsText t := by
  rintro _ p ⟨k, rfl⟩
  exact h ⟨k, ⟨p⟩⟩

/-- A standard context agrees with the one that does not read text. -/
lemma Context.agree_standard (readsText : Bool) :
    AgreeExcept (κ := κ) Ty.IsText (standard false).value (standard readsText).value := by
  cases readsText with
  | false => exact .refl _ _
  | true =>
    have more : standardRegistrations (κ := κ) true =
        standardRegistrations false ++ Conversion.allTextReadings.map .conversion := by
      simp [standardRegistrations]
    rw [standard, standard, more, extend_append, Logged.value_bind]
    exact (AgreeExcept.refl _ _).extend_right fun c => Conversion.isText_of_mem_allTextReadings

namespace Settings

variable {a b : Settings}

/-- Whatever the settings were, after the same registrations the contexts agree except on text. -/
lemma agree_extend (a b : Settings) (rs : List (Registration κ)) :
    Context.AgreeExcept Ty.IsText (a.context.extend rs).value (b.context.extend rs).value := by
  rw [context_eq_standard, context_eq_standard]
  exact ((Context.agree_standard _).symm.trans (Context.agree_standard _)).extend rs

/-- Where text is not read, the one conversion from text is the copy of borrowed text. -/
lemma eq_textToString (off : a.readsText.value = false) {k : TextKind} {t : Ty κ}
    {c : Converter (.scalar k.scalar) t} (ht : a.context.acceptsNull t = false)
    (hc : a.context.find? (.scalar k.scalar) t = some c) :
    (⟨.scalar k.scalar, t, c⟩ : Conversion κ) = .textToString := by
  obtain h | h | ⟨on, _⟩ := knows_of_find? rfl ht hc
  · exact absurd ⟨k, rfl⟩ (Conversion.not_isText_of_mem_allWidenings h)
  · exact h
  · cases off.symm.trans on

/-- The text `x`, stored in any form, is had as text of its own kind and as owned text, in any form,
and as nothing else. -/
structure ReadsTextOnly (ctx : Context κ) (k : TextKind) (x : String) (f : Form)
    (rendering : String) : Prop where
  text : ∀ (g : Form) (k' : TextKind), k' = k ∨ k' = .owned →
    (ctx.convert (.stored ⟨f.type (.scalar k.scalar), f.put (k.val x)⟩ rendering)
      (g.type (.scalar k'.scalar))).result = .ok (g.put (k'.val x))
  other : ∀ t, (∀ (g : Form) (k' : TextKind), k' = k ∨ k' = .owned →
      t ≠ g.type (.scalar k'.scalar)) →
    (ctx.convert (.stored ⟨f.type (.scalar k.scalar), f.put (k.val x)⟩ rendering) t).result =
      .error (.unsupported (f.type (.scalar k.scalar) : Ty κ).name t.name)

/-- Where text is not read, a stored text is had as text only. -/
lemma readsTextOnly (off : a.readsText.value = false) (k : TextKind) (x : String) (f : Form)
    (rendering : String) : ReadsTextOnly (κ := κ) a.context k x f rendering where
  text g k' h := by
    by_cases e : k' = k
    · subst e
      exact convert_scalar_self f g rendering _
    · obtain rfl := h.resolve_left e
      cases k with
      | owned => exact absurd rfl e
      | borrowed =>
        have copied : a.context.contains (.scalar .text) (.scalar .string : Ty κ) = true :=
          contains_of_knows (.inr (.inl rfl)) rfl
        obtain ⟨c, hc⟩ := Context.contains_iff.1 copied
        have copy : (⟨.scalar .text, .scalar .string, c⟩ : Conversion κ) = .textToString :=
          eq_textToString (k := .borrowed) off rfl hc
        cases copy
        exact convert_of_find? f g rendering (by decide) hc rfl
  other t h := by
    apply convert_unregistered
    · intro e
      obtain ⟨g, rfl⟩ := exists_eq_type e
      exact h g k (.inl rfl) rfl
    · rw [Context.contains_eq_false, Option.eq_none_iff_forall_ne_some]
      intro c hc
      have copy := eq_textToString off (Context.acceptsNull_core t) hc
      have owned : a.context.core t = .scalar TextKind.owned.scalar :=
        congrArg Conversion.target copy
      obtain ⟨g, rfl⟩ := exists_eq_type owned
      exact h g .owned (.inr rfl) rfl

/-- The setting for text affects text only. Whatever the settings are, and whatever is registered
afterwards, an argument of a type without text in it is converted alike, and the same is announced
for it; and where the setting is off, a stored text is had as text only. -/
theorem setting_affects_text (a b : Settings) (rs : List (Registration κ)) :
    (∀ argument t, (∀ s, argument.type? = some s → ¬ (a.context.extend rs).value.HoldsText s) →
      (a.context.extend rs).value.convert argument t =
        (b.context.extend rs).value.convert argument t) ∧
    (∀ s t, ¬ (a.context.extend rs).value.HoldsText s →
      (a.context.extend rs).value.supports s t = (b.context.extend rs).value.supports s t) ∧
    (a.readsText.value = false →
      ∀ k x f rendering, ReadsTextOnly (κ := κ) a.context k x f rendering) := by
  have agree := agree_extend a b rs
  refine ⟨?_, ?_, readsTextOnly⟩
  · intro argument t free
    exact agree.convert_eq (fun s hs => Context.avoids_isText (free s hs)) t
  · intro s t free
    exact agree.supports_eq (Context.avoids_isText free) t

namespace Overridden

open Context.Detour (byte word four wide)

/-- Settings that switch the reading of text on or off. -/
def reading (on : Bool) : Settings :=
  ⟨some on, none⟩

/-- What an application registers, also from text. -/
def registrations : List (Registration Empty) :=
  [.conversion ⟨.scalar .text, word, fun _ => .ok wide⟩, .optional (.option byte)]

/-- There is no text in an optional byte, in any context. -/
lemma not_holdsText (ctx : Context Empty) : ¬ ctx.HoldsText (.option byte) := by
  rintro ⟨k, ⟨p⟩⟩
  cases p with
  | layer _ p =>
    cases k with
    | owned => cases p
    | borrowed => cases p

/-- An optional byte widens alike under both settings, and with the setting off an optional text is
not read as a byte. -/
theorem byte_affected_alike :
    (reading true).readsText.value = true ∧ (reading false).readsText.value = false ∧
    ¬ ((reading true).context.extend registrations).value.HoldsText (.option byte) ∧
    ((reading true).context.extend registrations).value.convert
      (.stored ⟨.option byte, some four⟩ "4") (.option word) =
        ((reading false).context.extend registrations).value.convert
          (.stored ⟨.option byte, some four⟩ "4") (.option word) ∧
    ((reading false).context.convert (.stored ⟨.option (.scalar .text), some "4"⟩ "4")
      byte).result = .error (.unsupported "core::option::Option<&str>" "u8") := by
  refine ⟨rfl, rfl, not_holdsText _, ?_, ?_⟩
  · apply (setting_affects_text (reading true) (reading false) registrations).1
    intro s hs
    cases hs
    exact not_holdsText _
  · apply ((setting_affects_text (reading false) (reading true) []).2.2 rfl .borrowed "4" .optional
      "4").other
    intro g k _
    cases g with
    | bare => cases k <;> decide
    | optional => cases k <;> decide

end Overridden

end Settings

end TypedArguments
