import TypedArguments.Proofs.Search.Causes
import TypedArguments.Proofs.Standard.Rendering

/-!
# Which texts are read

Where text is read, an integer is read from the numerals of its kind whose number is in range, a
truth value from its name in any case of letters, and a character from the text that has it alone.
Any other text is refused, and the error has the text as it is, the name of the scalar, and the
cause (`Settings.reads_grammar`). In whichever forms text is stored and wanted, what comes of it is
what the reader of the scalar makes of it (`Settings.result_convert_text`), so that the grammar of
a reader is that of the reads (`Settings.accepts`).
-/

namespace TypedArguments

/-- The causes are told apart by their wordings. -/
lemma IntegerFault.message_inj {a b : IntegerFault} : a.message = b.message ↔ a = b := by
  refine ⟨?_, congrArg message⟩
  intro h
  cases a <;> cases b <;> first | rfl | exact absurd h (by decide)

/-- Wording the faults does not change what is read. -/
lemma mapError_eq_ok {ε ε' α : Type} {r : Except ε α} {f : ε → ε'} {v : α} :
    r.mapError f = .ok v ↔ r = .ok v := by
  cases r with
  | ok w =>
    constructor
    · rintro ⟨⟩
      rfl
    · rintro ⟨⟩
      rfl
  | error e =>
    constructor
    · rintro ⟨⟩
    · rintro ⟨⟩

/-- Mapping the error keeps the failures. -/
lemma mapError_eq_error {ε ε' α : Type} {r : Except ε α} {f : ε → ε'} {e' : ε'} :
    r.mapError f = .error e' ↔ ∃ e, r = .error e ∧ e' = f e := by
  cases r with
  | ok w => exact ⟨nofun, nofun⟩
  | error e =>
    constructor
    · rintro ⟨⟩
      exact ⟨e, rfl, rfl⟩
    · rintro ⟨_, ⟨⟩, rfl⟩
      rfl

/-- A truth value is read from its name, in any case of letters. -/
lemma readBool_eq_ok_iff {cs : List Char} {b : Bool} :
    readBool cs = .ok b ↔ cs.map Char.toLower = (if b then "true" else "false").toList := by
  have word (t : String) : String.ofList (cs.map Char.toLower) = t ↔
      cs.map Char.toLower = t.toList := by
    constructor
    · intro e
      rw [← e, String.toList_ofList]
    · intro e
      rw [e, String.ofList_toList]
  simp only [readBool, word]
  by_cases yes : cs.map Char.toLower = "true".toList
  · rw [if_pos yes, yes]
    cases b with
    | false => exact ⟨nofun, fun e => absurd e (by decide)⟩
    | true => exact iff_of_true rfl rfl
  · rw [if_neg yes]
    by_cases no : cs.map Char.toLower = "false".toList
    · rw [if_pos no, no]
      cases b with
      | false => exact iff_of_true rfl rfl
      | true => exact ⟨nofun, fun e => absurd e (by decide)⟩
    · rw [if_neg no]
      cases b with
      | false => exact iff_of_false nofun no
      | true => exact iff_of_false nofun yes

/-- There is one fault of a text that is no truth value. -/
lemma eq_boolFault {cs : List Char} {cause : String} (h : readBool cs = .error cause) :
    cause = boolFault := by
  rw [readBool] at h
  split at h
  · cases h
  · split at h
    · cases h
    · exact (Except.error.inj h).symm

/-- A single character is read as itself. -/
lemma readChar_eq_ok_iff {cs : List Char} {c : Char} : readChar cs = .ok c ↔ cs = [c] := by
  cases cs with
  | nil => exact ⟨nofun, nofun⟩
  | cons d cs =>
    cases cs with
    | nil =>
      rw [readChar, Except.ok.injEq, List.cons.injEq, and_iff_left rfl]
    | cons d' cs => exact ⟨nofun, nofun⟩

/-- The fault of a text that is no single character tells if it is empty. -/
lemma readChar_fault {cs : List Char} {fault : CharFault} (h : readChar cs = .error fault) :
    fault = if cs = [] then .empty else .tooMany := by
  cases cs with
  | nil => exact (Except.error.inj h).symm
  | cons d cs =>
    cases cs with
    | nil => cases h
    | cons d' cs => exact (Except.error.inj h).symm

/-- What comes of reading a text as a scalar: the texts of the grammar are read, each as its value
and put into the form that is wanted; any other text is refused, and the error has the text as it
is, the name of the scalar and the cause. -/
structure Accepts (κ : Type) [UserTypes κ] (s : Scalar) (x : String) (g : Form)
    (Grammar : s.Val → Prop) (Cause : String → Prop)
    (result : Except ConversionError (g.type (.scalar s : Ty κ)).Val) : Prop where
  read : ∀ v, Grammar v → result = .ok (g.put v)
  only : ∀ w, result = .ok w → ∃ v, Grammar v ∧ w = g.put v
  refused : (¬ ∃ v, Grammar v) → ∃ cause, result = .error (.parse x s.name cause) ∧ Cause cause

variable {κ : Type} [UserTypes κ] [DecidableEq κ]

namespace Settings

variable {a : Settings} {s : Scalar}

/-- Where text is read, what comes of a text is what the reader makes of it. -/
lemma result_convert_text (on : a.readsText.value = true)
    {reader : List Char → Except String s.Val} (hr : s.reader? = some reader) (k : TextKind)
    (x : String) (f g : Form) (rendering : String) :
    ((a.context : Context κ).convert
      (.stored ⟨f.type (.scalar k.scalar), f.put (k.val x)⟩ rendering)
      (g.type (.scalar s))).result = (Conversion.readText reader x).map g.put := by
  obtain ⟨c, hc, reads⟩ := exists_find?_text (κ := κ) on hr k
  have ne : k.scalar ≠ s := by
    rintro rfl
    cases k with
    | owned => cases hr
    | borrowed => cases hr
  have read : c (k.val x) = Conversion.readText reader x := reads x
  cases h : reader x.toList with
  | ok v =>
    rw [Conversion.readText, h] at read ⊢
    exact convert_of_find? f g rendering ne hc read
  | error cause =>
    rw [Conversion.readText, h] at read ⊢
    have apart : (Ty.scalar k.scalar : Ty κ) ≠ .scalar s := by
      intro e
      cases e
      exact ne rfl
    obtain ⟨e, he, conveys⟩ := (plain_context (a := a)).exists_conveys
      (a.layers f k.scalar) (a.layers g s) rfl rfl apart hc (unwrap_layers _) read rendering
    have parsed : ¬ (ConversionError.parse x s.name cause).IsUnsupported := by rintro ⟨_, _, ⟨⟩⟩
    rw [he, conveys.kept (.inr parsed)]
    rfl

/-- Where text is read, the texts of the reader's grammar are accepted. -/
lemma accepts (on : a.readsText.value = true) {reader : List Char → Except String s.Val}
    (hr : s.reader? = some reader) {x : String} {Grammar : s.Val → Prop} {Cause : String → Prop}
    (reads : ∀ v, reader x.toList = .ok v ↔ Grammar v)
    (refuses : ∀ cause, reader x.toList = .error cause → Cause cause) (k : TextKind)
    (f g : Form) (rendering : String) :
    Accepts κ s x g Grammar Cause ((a.context : Context κ).convert
      (.stored ⟨f.type (.scalar k.scalar), f.put (k.val x)⟩ rendering)
      (g.type (.scalar s))).result := by
  rw [result_convert_text on hr, Conversion.readText]
  cases h : reader x.toList with
  | ok v =>
    refine ⟨?_, ?_, ?_⟩
    · intro v' grammar
      cases h.symm.trans ((reads v').2 grammar)
      rfl
    · rintro w ⟨⟩
      exact ⟨v, (reads v).1 h, rfl⟩
    · exact fun none => absurd ⟨v, (reads v).1 h⟩ none
  | error cause =>
    refine ⟨?_, ?_, ?_⟩
    · intro v grammar
      cases h.symm.trans ((reads v).2 grammar)
    · rintro w ⟨⟩
    · exact fun _ => ⟨cause, rfl, refuses cause h⟩

/-- Where text is read, exactly the texts of three grammars are read as integers, as truth values
and as characters, from owned and from borrowed text and in any forms. The cause that an integer is
refused for is the one fault that the text has. -/
theorem reads_grammar (on : a.readsText.value = true) (k : TextKind) (x : String) (f g : Form)
    (rendering : String) :
    (∀ l : IntKind, Accepts κ (.int l) x g (fun n => Digits.Numeral l x.toList n.val)
      (fun cause => ∀ fault : IntegerFault,
        cause = fault.message ↔ Digits.HasFault l x.toList fault)
      ((a.context : Context κ).convert
        (.stored ⟨f.type (.scalar k.scalar), f.put (k.val x)⟩ rendering)
        (g.type (.scalar (.int l)))).result) ∧
    Accepts κ .bool x g
      (fun b => x.toList.map Char.toLower = (if b then "true" else "false").toList)
      (fun cause => cause = boolFault)
      ((a.context : Context κ).convert
        (.stored ⟨f.type (.scalar k.scalar), f.put (k.val x)⟩ rendering)
        (g.type (.scalar .bool))).result ∧
    Accepts κ .char x g (fun c => x.toList = [c])
      (fun cause => cause = (if x.toList = [] then CharFault.empty else .tooMany).message)
      ((a.context : Context κ).convert
        (.stored ⟨f.type (.scalar k.scalar), f.put (k.val x)⟩ rendering)
        (g.type (.scalar .char))).result := by
  refine ⟨?_, ?_, ?_⟩
  · intro l
    apply accepts on rfl
    · exact fun n => mapError_eq_ok.trans Digits.read_eq_ok_iff
    · intro cause refused fault
      obtain ⟨fault', h, rfl⟩ := mapError_eq_error.1 refused
      obtain ⟨none, has⟩ := Digits.read_eq_error_iff.1 h
      rw [IntegerFault.message_inj]
      constructor
      · rintro rfl
        exact has
      · intro has'
        exact Except.error.inj (h.symm.trans (Digits.read_eq_error_iff.2 ⟨none, has'⟩))
  · apply accepts on rfl
    · exact fun b => readBool_eq_ok_iff
    · exact fun cause => eq_boolFault
  · apply accepts on rfl
    · exact fun c => mapError_eq_ok.trans readChar_eq_ok_iff
    · intro cause refused
      obtain ⟨fault, h, rfl⟩ := mapError_eq_error.1 refused
      rw [readChar_fault h]

namespace TooLarge

open Context.Detour (byte)

/-- A text with a number that is too large for a byte, and with a character after it that is no
digit. -/
def text : String := "300x"

/-- The digits before the last character are too large a number for a byte. -/
lemma overflows : Digits.Overflows .u8 false text.toList :=
  ⟨text.toList, .none _, ['3', '0', '0'], ⟨['x'], rfl⟩, List.all_eq_true.1 rfl, by decide⟩

/-- An optional text with too large a number is refused for that, though it has an invalid digit. -/
theorem text_refused : initial.readsText.value = true ∧
    (initial.context.convert (.stored ⟨(.option (.scalar .text) : Ty Empty), some text⟩ text)
      (.option byte)).result =
        .error (.parse "300x" "u8" "number too large to fit in target type") := by
  refine ⟨rfl, ?_⟩
  obtain ⟨cause, refused, faults⟩ :=
    ((reads_grammar (κ := Empty) (a := initial) rfl .borrowed text .optional .optional text).1
      .u8).refused fun ⟨n, numeral⟩ => overflows.not_numeral n numeral
  rw [(faults .tooLarge).2 overflows] at refused
  exact refused

end TooLarge

end Settings

end TypedArguments
