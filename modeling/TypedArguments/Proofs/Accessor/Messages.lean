import TypedArguments.Accessor.Basic
import TypedArguments.Proofs.Accessor.TypeNames

/-!
# Messages of failed reads

The message of a failed read tells all that the failure is about. The index comes first and ends
with its digits (`Digits.eq_of_append`). The rendering of the argument can be any text, also one
that looks like the rest of a message, but the names of the types come after it and have no
separator in them, so the last separators of a message are its own. Hence two failed reads have the
same message if and only if they fail alike (`message_eq_iff`).
-/

namespace TypedArguments

namespace Digits

/-- Different numbers have different digits. -/
lemma ofNat_injective : Function.Injective ofNat :=
  Function.LeftInverse.injective toNat_ofNat

/-- The digits at the beginning are those of the number, up to a character that is none. -/
lemma takeWhile_append {c : Char} (hc : c.isDigit = false) (n : Nat) (cs : List Char) :
    (ofNat n ++ c :: cs).takeWhile Char.isDigit = ofNat n := by
  have digits : ∀ d ∈ ofNat n, d.isDigit = true := fun _ => isDigit_of_mem_ofNat
  rw [List.takeWhile_append_of_pos digits, List.takeWhile_cons, hc]
  exact List.append_nil _

/-- A number ends where its digits end. -/
lemma eq_of_append {m n : Nat} {c : Char} (hc : c.isDigit = false) {cs ds : List Char}
    (h : ofNat m ++ c :: cs = ofNat n ++ c :: ds) : m = n ∧ cs = ds := by
  have same : ofNat m = ofNat n := by
    rw [← takeWhile_append hc m cs, h, takeWhile_append hc n ds]
  rw [same] at h
  exact ⟨ofNat_injective same, (List.cons.inj (List.append_cancel_left h)).2⟩

end Digits

namespace AccessError

/-- A message of a missing argument has the index and, at its end, the count. -/
lemma toList_message_outOfBounds (index count : Nat) :
    (outOfBounds index count).message.toList =
      "argument index ".toList ++ (Digits.ofNat index ++ ' ' ::
        ("is out of range: index must be >= 0 and < ".toList ++ Digits.ofNat count)) := by
  have shape : (outOfBounds index count).message =
    "argument index " ++ String.ofList (Digits.ofNat index)
      ++ " is out of range: index must be >= 0 and < " ++ String.ofList (Digits.ofNat count) := rfl
  have middle : " is out of range: index must be >= 0 and < ".toList =
    ' ' :: "is out of range: index must be >= 0 and < ".toList := by simp
  rw [shape]
  simp only [String.toList_append, String.toList_ofList, middle, List.append_assoc,
    List.cons_append]

/-- A conversion failure has three separators of its own: after the index, after the rendering, and
between the names of the types. -/
lemma toList_message_conversion (index : Nat) (value actual expected : String)
    (source : ConversionError) : (conversion index value actual expected source).message.toList =
      "Argument at index [".toList ++ (Digits.ofNat index ++ ']' :: (" with value [".toList ++
        ((value.toList ++ ']' :: ' ' :: ("and type [".toList ++ actual.toList)) ++ ']' :: ' ' ::
          ("could not be converted or cast to type [".toList ++
            (expected.toList ++ "].".toList))))) := by
  have shape : (conversion index value actual expected source).message =
    "Argument at index [" ++ String.ofList (Digits.ofNat index) ++ "] with value [" ++ value
      ++ "] and type [" ++ actual ++ "] could not be converted or cast to type ["
      ++ expected ++ "]." := rfl
  have first : "] with value [".toList = ']' :: " with value [".toList := by simp
  have second : "] and type [".toList = ']' :: ' ' :: "and type [".toList := by simp
  have third : "] could not be converted or cast to type [".toList =
    ']' :: ' ' :: "could not be converted or cast to type [".toList := by simp
  rw [shape]
  simp only [String.toList_append, String.toList_ofList, first, second, third, List.append_assoc,
    List.cons_append]

/-- The message of a missing argument tells the index and the count. -/
lemma outOfBounds_inj {index index' count count' : Nat}
    (h : (outOfBounds index count).message = (outOfBounds index' count').message) :
    index = index' ∧ count = count' := by
  have texts := congrArg String.toList h
  rw [toList_message_outOfBounds, toList_message_outOfBounds] at texts
  obtain ⟨indices, rest⟩ := Digits.eq_of_append rfl (List.append_cancel_left texts)
  exact ⟨indices, Digits.ofNat_injective (List.append_cancel_left rest)⟩

/-- If the names of the types have no separator in them, then a message tells all that it is made
of. The rendering may be any text. -/
lemma conversion_inj {index index' : Nat} {value value' actual actual' expected expected' : String}
    {source source' : ConversionError}
    (h : (conversion index value actual expected source).message =
      (conversion index' value' actual' expected' source').message)
    (ha : Text.Unbroken actual.toList) (ha' : Text.Unbroken actual'.toList)
    (he : Text.Unbroken expected.toList) (he' : Text.Unbroken expected'.toList) :
    index = index' ∧ value = value' ∧ actual = actual' ∧ expected = expected' := by
  have opened {n : String} (hn : Text.Unbroken n.toList) :
      Text.Unbroken ("and type [".toList ++ n.toList) :=
    Text.Unbroken.append (by decide) hn (.inl (by decide))
  have closed {n : String} (hn : Text.Unbroken n.toList) :
      Text.Unbroken ("could not be converted or cast to type [".toList ++
        (n.toList ++ "].".toList)) :=
    Text.Unbroken.append (by decide) (hn.append (by decide) (.inr (by decide))) (.inl (by decide))
  have texts := congrArg String.toList h
  rw [toList_message_conversion, toList_message_conversion] at texts
  obtain ⟨indices, rest⟩ := Digits.eq_of_append rfl (List.append_cancel_left texts)
  -- from here on the text is taken apart from its end
  obtain ⟨before, targets⟩ := Text.separator_inj (closed he) (closed he')
    (List.append_cancel_left rest)
  obtain ⟨values, types⟩ := Text.separator_inj (opened ha) (opened ha') before
  refine ⟨indices, String.toList_inj.1 values, ?_, ?_⟩
  · exact String.toList_inj.1 (List.append_cancel_left types)
  · exact String.toList_inj.1 (List.append_cancel_right (List.append_cancel_left targets))

/-- The two kinds of messages differ in their first letter. -/
lemma message_outOfBounds_ne {index count index' : Nat} {value actual expected : String}
    {source : ConversionError} : (outOfBounds index count).message ≠
      (conversion index' value actual expected source).message := by
  intro h
  have texts := congrArg String.toList h
  rw [toList_message_outOfBounds, toList_message_conversion] at texts
  cases (List.cons.inj texts).1

end AccessError

namespace Accessor

variable {κ : Type} [DecidableEq κ] [UserTypes κ]

/-- An access to the argument at the index fails with `e`: a look at the argument, or a read of it
as a value of `t`. -/
inductive Fails (a : Accessor κ) (index : Nat) (t : Ty κ) (e : AccessError) : Prop
  | get (h : a.get index = .error e)
  | read (h : (a.read index t).value = .error e)
  | dynamic (h : (a.readDynamic index t).value = .error e)

/-- Two failures are about the same: both miss an argument at the same index among as many, or both
have an argument at the same index, of the same type and shown alike, and want the same of it. -/
inductive FailAlike (a b : Accessor κ) :
    Nat → Nat → Ty κ → Ty κ → AccessError → AccessError → Prop
  | outOfBounds {index : Nat} {t u : Ty κ} (size : a.size = b.size) :
    FailAlike a b index index t u (.outOfBounds index a.size) (.outOfBounds index b.size)
  | conversion {index : Nat} {t : Ty κ} {x y : Argument κ} {source source' : ConversionError}
    (left : a.get index = .ok x) (right : b.get index = .ok y)
    (rendering : x.rendering = y.rendering) (type : x.type? = y.type?) :
    FailAlike a b index index t t (.conversion index x.rendering x.typeName t.name source)
      (.conversion index y.rendering y.typeName t.name source')

variable {a b : Accessor κ} {index index' : Nat} {t u : Ty κ} {e f : AccessError}

/-- A look at an argument fails only for want of it. -/
lemma eq_outOfBounds (h : a.get index = .error e) : e = .outOfBounds index a.size := by
  rw [get] at h
  split at h
  · cases h
  · exact (Except.error.inj h).symm

/-- A read fails for want of an argument, or since the argument could not be converted. -/
lemma read_error (h : (a.read index t).value = .error e) :
    e = .outOfBounds index a.size ∨ ∃ x source, a.get index = .ok x ∧
      e = .conversion index x.rendering x.typeName t.name source := by
  rw [read] at h
  split at h
  case h_1 x found =>
    rw [readArgument] at h
    split at h
    · cases h
    · exact .inr ⟨x, _, found, (Except.error.inj h).symm⟩
  case h_2 e' missing =>
    cases h
    exact .inl (eq_outOfBounds missing)

/-- Every access fails for want of an argument, or since the argument could not be converted. -/
lemma Fails.error (h : a.Fails index t e) :
    e = .outOfBounds index a.size ∨ ∃ x source, a.get index = .ok x ∧
      e = .conversion index x.rendering x.typeName t.name source := by
  cases h with
  | get h => exact .inl (eq_outOfBounds h)
  | read h => exact read_error h
  | dynamic h =>
    apply read_error
    rw [readDynamic, Logged.value_map] at h
    cases value : (a.read index t).value with
    | ok v =>
      rw [value] at h
      cases h
    | error e' =>
      rw [value] at h
      cases h
      rfl

/-- Failures that are alike have the same message. -/
lemma FailAlike.message_eq (h : FailAlike a b index index' t u e f) : e.message = f.message := by
  cases h with
  | outOfBounds size => rw [size]
  | conversion left right rendering type =>
    rw [rendering, Argument.typeName_congr type]
    rfl

/-- Two failed reads, by any accessors, at any indices, of any arguments and as any types, have the
same message if and only if they fail alike. -/
theorem message_eq_iff (distinct : UserTypes.Distinct κ) (he : a.Fails index t e)
    (hf : b.Fails index' u f) :
    e.message = f.message ↔ FailAlike a b index index' t u e f := by
  refine ⟨?_, FailAlike.message_eq⟩
  intro same
  obtain rfl | ⟨x, source, left, rfl⟩ := he.error
  · obtain rfl | ⟨y, source', right, rfl⟩ := hf.error
    · obtain ⟨rfl, size⟩ := AccessError.outOfBounds_inj same
      exact .outOfBounds size
    · exact absurd same AccessError.message_outOfBounds_ne
  · obtain rfl | ⟨y, source', right, rfl⟩ := hf.error
    · exact absurd same.symm AccessError.message_outOfBounds_ne
    · obtain ⟨rfl, rendering, name, target⟩ := AccessError.conversion_inj same
        (x.unbroken_typeName distinct) (y.unbroken_typeName distinct) (t.unbroken_name distinct)
        (u.unbroken_name distinct)
      obtain rfl := Ty.name_injective distinct target
      exact .conversion left right rendering (Argument.type?_eq_of_typeName_eq distinct name)

namespace Lookalike

/-- The types of an application. -/
inductive Own where
  | point
  | celsius
  | colour
  deriving DecidableEq

instance : UserTypes Own where
  Val _ := Unit
  name
    | .point => "application::types::Point"
    | .celsius => "application::types::Celsius"
    | .colour => "application::types::Colour"
  debug _ _ := "()"

/-- The types of the application have names of their own. -/
lemma distinct : UserTypes.Distinct Own where
  injective c d := by cases c <;> cases d <;> decide
  notMem c := by cases c <;> decide
  not_opening c := by cases c <;> decide
  unbroken c := by cases c <;> decide

/-- An accessor to one argument, which is text, shown in some way. -/
def showing (rendering : String) : Accessor Own :=
  ⟨0, .empty, [.stored ⟨.scalar .string, rendering⟩ rendering]⟩

/-- The type that is asked for. -/
abbrev wanted : Ty Own := .option (.base (.user .point))

/-- How a read of the argument fails. -/
def failure (rendering : String) : AccessError :=
  .conversion 0 rendering (Ty.name (.scalar .string : Ty Own)) wanted.name
    (.unsupported (Ty.name (.scalar .string : Ty Own)) wanted.name)

/-- The text is not read as what is asked for. -/
lemma fails (rendering : String) : (showing rendering).Fails 0 wanted (failure rendering) :=
  .read rfl

/-- A rendering that goes on like a message does not make the message that of another argument. -/
theorem messages_differ :
    UserTypes.Distinct Own ∧
    (showing "5").Fails 0 wanted (failure "5") ∧
    (showing "5] and type [bool").Fails 0 wanted (failure "5] and type [bool") ∧
    (failure "5").message ≠ (failure "5] and type [bool").message := by
  refine ⟨distinct, fails _, fails _, ?_⟩
  intro same
  have alike := (message_eq_iff distinct (fails _) (fails _)).1 same
  generalize he : failure "5" = e, failure "5] and type [bool" = f at alike
  cases alike with
  | outOfBounds size => cases he
  | conversion left right rendering type =>
    cases left
    cases right
    exact absurd rendering (by decide)

end Lookalike

end Accessor

end TypedArguments
