import TypedArguments.Proofs.Untyped.Soundness

/-!
# Reads over untyped values

Where values have forgotten their types, a read has a failure of its own for a value of another
type. Since the engine is sound, that failure does not occur: all reads agree, each gives what the
context's conversion gives, and each reports the attempt and a failure once (`Accessor.Serves`).
They are the reads of the typed accessor (`reads_faithful`).
-/

namespace TypedArguments.Untyped

variable {κ : Type} [UserTypes κ]

namespace Accessor

variable [DecidableEq κ]

/-- Every read at the index fails for want of an argument there, and leaves no record. -/
structure Misses (a : Accessor κ) (index : Nat) (t : Ty κ) : Prop where
  get : a.get index = .error (.outOfBounds index a.arguments.length)
  dynamic : a.readDynamic index t = .pure (.error (.outOfBounds index a.arguments.length))
  explicit : a.read index t = .pure (.error (.outOfBounds index a.arguments.length))
  inferred : a.readInferred index (t := t) =
    .pure (.error (.outOfBounds index a.arguments.length))
  getter : ∀ g, a.readBy g index = .pure (.error (.outOfBounds index a.arguments.length))

/-- The reads of the argument at the index as a value of `t` are all the same, and do what the
context's conversion does: they give its value or its error, between a record of the attempt and,
after an error, one of the failure. -/
structure Serves (a : Accessor κ) (index : Nat) (argument : Argument κ) (t : Ty κ) : Prop where
  get : a.get index = .ok argument
  dynamic : a.readDynamic index t = (a.read index t).map (·.map (Dynamic.mk t))
  inferred : a.readInferred index (t := t) = a.read index t
  ok_iff : ∀ v, (a.read index t).value = .ok v ↔ (a.context.convert argument t).result = .ok ⟨t, v⟩
  error_iff : ∀ e, (a.read index t).value = .error e ↔
    ∃ source, (a.context.convert argument t).result = .error source ∧
      e = .conversion index argument.rendering argument.typeName t.name source
  records_of_ok : ∀ d, (a.context.convert argument t).result = .ok d →
    (a.read index t).records =
      ⟨.trace, "invocation " ++ String.ofList (Digits.ofNat a.invocation) ++ ": reading argument "
        ++ String.ofList (Digits.ofNat index) ++ " as `" ++ t.name ++ "`"⟩ ::
      (a.context.convert argument t).records
  records_of_error : ∀ source, (a.context.convert argument t).result = .error source →
    (a.read index t).records =
      ⟨.trace, "invocation " ++ String.ofList (Digits.ofNat a.invocation) ++ ": reading argument "
        ++ String.ofList (Digits.ofNat index) ++ " as `" ++ t.name ++ "`"⟩ ::
      (a.context.convert argument t).records ++
      [⟨.debug, "invocation " ++ String.ofList (Digits.ofNat a.invocation) ++ ": argument "
        ++ String.ofList (Digits.ofNat index) ++ " of type `" ++ argument.typeName
        ++ "` is not a `" ++ t.name ++ "`: " ++ source.message⟩]

variable {a : Accessor κ} {index : Nat} {argument : Argument κ} {t : Ty κ}

/-- No read goes past the end of the arguments. -/
lemma misses (h : a.arguments.length ≤ index) : a.Misses index t := by
  have get : a.get index = .error (.outOfBounds index a.arguments.length) := by
    rw [Accessor.get, List.getElem?_eq_none h]
  have explicit : ∀ t, a.read index t =
      .pure (.error (.outOfBounds index a.arguments.length)) := by
    intro t
    rw [read, get]
  refine ⟨get, ?_, explicit t, explicit t, fun g => explicit (.scalar g.scalar)⟩
  rw [readDynamic, get]

/-- The reads of an argument that has a value of the wanted type give it. -/
lemma serves_of_ok (get : a.get index = .ok argument) {v : t.Val}
    (found : (a.context.convert argument t).result = .ok ⟨t, v⟩) : a.Serves index argument t := by
  have given := read_of_ok get found
  refine ⟨get, ?_, rfl, ?_, ?_, ?_, ?_⟩
  · rw [readDynamic, get, given]
    exact convert_of_ok found
  · intro w
    rw [given, found]
    constructor
    · rintro ⟨⟩
      rfl
    · rintro ⟨⟩
      rfl
  · intro e
    rw [given, found]
    apply iff_of_false nofun
    rintro ⟨source, h, _⟩
    cases h
  · intro d _
    rw [given]
    rfl
  · intro source h
    cases found.symm.trans h

/-- The reads of an argument that cannot be converted report that. -/
lemma serves_of_error (get : a.get index = .ok argument) {source : ConversionError}
    (failed : (a.context.convert argument t).result = .error source) :
    a.Serves index argument t := by
  have reported := read_of_error get failed
  refine ⟨get, ?_, rfl, ?_, ?_, ?_, ?_⟩
  · rw [readDynamic, get, reported]
    exact convert_of_error failed
  · intro w
    rw [reported, failed]
    exact iff_of_false nofun nofun
  · intro e
    rw [reported, failed]
    constructor
    · rintro ⟨⟩
      exact ⟨source, rfl, rfl⟩
    · rintro ⟨source', h, rfl⟩
      cases h
      rfl
  · intro d h
    cases failed.symm.trans h
  · intro source' h
    cases failed.symm.trans h
    rw [reported]
    rfl

/-- If the engine is sound, the reads of an argument do what its conversion does. -/
lemma serves (sound : a.context.Sound) (here : a.arguments[index]? = some argument) :
    a.Serves index argument t := by
  have get : a.get index = .ok argument := by rw [Accessor.get, here]
  cases result : (a.context.convert argument t).result with
  | ok d =>
    -- soundness is what keeps a read from its own failure
    obtain ⟨s, v⟩ := d
    obtain rfl : s = t := sound.typed argument t _ result
    exact serves_of_ok get result
  | error source => exact serves_of_error get result

/-- The reads at the index are those of the typed accessor. -/
structure Agrees (a : Accessor κ) (b : TypedArguments.Accessor κ) (index : Nat) (t : Ty κ) :
    Prop where
  get : a.get index = b.get index
  dynamic : a.readDynamic index t = b.readDynamic index t
  read : a.read index t = b.read index t
  getter : ∀ g, a.readBy g index = b.readBy g index

section

variable {ctx : TypedArguments.Context κ} (same : Represents a.context ctx)

include same

/-- All the reads from untyped values are those from typed values. -/
lemma agrees (index : Nat) (t : Ty κ) :
    a.Agrees ⟨a.invocation, ctx, a.arguments⟩ index t where
  get := rfl
  dynamic := by
    rw [TypedArguments.Accessor.readDynamic, ← same.read_eq]
    cases here : a.arguments[index]? with
    | none =>
      have missed : a.Misses index t := misses (List.getElem?_eq_none_iff.1 here)
      rw [missed.dynamic, missed.explicit]
      rfl
    | some argument => exact (serves same.sound here).dynamic
  read := same.read_eq index t
  getter g := same.read_eq index (.scalar g.scalar)

end

/-- What reads at the index come to: they miss or serve the argument, as those of the typed accessor
do. -/
structure Faithful (a : Accessor κ) (b : TypedArguments.Accessor κ) (index : Nat) (t : Ty κ) :
    Prop where
  misses : a.arguments.length ≤ index → a.Misses index t
  serves : ∀ argument, a.arguments[index]? = some argument → a.Serves index argument t
  getter : ∀ g : Getter, a.readBy g index = a.read index (.scalar g.scalar)
  agrees : a.Agrees b index t

/-- After any registrations, those of the standard context among them, reads do what the context's
conversion does. -/
theorem reads_faithful (rs : List (Registration κ)) (invocation : Nat)
    (arguments : List (Argument κ)) (index : Nat) (t : Ty κ) :
    (Accessor.mk invocation (.extend .empty rs) arguments).Faithful
      ⟨invocation, (TypedArguments.Context.empty.extend rs).value, arguments⟩ index t := by
  have same := Represents.empty.extend rs
  exact ⟨misses, fun _ => serves same.sound, fun _ => rfl, agrees same index t⟩

end Accessor

end TypedArguments.Untyped
