import TypedArguments.Proofs.Number.Numerals
import TypedArguments.Proofs.Standard.Basic

/-!
# Rendering and reading

The text that stands for a truth value, a character or an integer in messages is read back as that
value (`Settings.reads_rendering`), so such values of one type are never rendered alike. Reading a
text in a standard context is what the reader of the scalar does with it
(`Settings.exists_find?_text`), and the reader undoes `Scalar.display` (`Scalar.exists_reader`).
-/

namespace TypedArguments

namespace Scalar

/-- The truth values, the characters and the integers. -/
def IsDiscrete : Scalar → Prop
  | .bool | .char | .int _ => True
  | .float _ | .string | .text => False

/-- The discrete scalars have readers, and these undo how the values are shown. -/
lemma exists_reader {s : Scalar} (hs : s.IsDiscrete) :
    ∃ reader, s.reader? = some reader ∧ ∀ v, reader (s.display v).toList = .ok v := by
  cases s with
  | bool =>
    refine ⟨readBool, rfl, ?_⟩
    intro v
    cases v with
    | false => rfl
    | true => rfl
  | char =>
    refine ⟨_, rfl, ?_⟩
    intro c
    rw [display, String.toList_singleton]
    rfl
  | int k =>
    refine ⟨_, rfl, ?_⟩
    intro n
    rw [display, String.toList_ofList, Digits.read_ofInt]
    rfl
  | _ => exact hs.elim

end Scalar

/-- The text `x` stands in messages for the value `v` of a scalar, given as it is or as an optional
value. -/
inductive Renders (κ : Type) [UserTypes κ] (s : Scalar) (v : s.Val) : String → Prop
  | bare : Renders κ s v (Argument.ofScalar (κ := κ) s v).rendering
  | optional : Renders κ s v (Argument.ofScalar? (κ := κ) s (some v)).rendering

variable {κ : Type} [UserTypes κ]

/-- There is a reading from either kind of text for every scalar that is read. -/
lemma Conversion.exists_mem_allTextReadings {s : Scalar}
    {reader : List Char → Except String s.Val} (hr : s.reader? = some reader) (k : TextKind) :
    ∃ c ∈ allTextReadings (κ := κ), c.pair = (.scalar k.scalar, .scalar s) := by
  cases k with
  | owned => exact ⟨_, mem_allTextReadings.2 ⟨s, reader, hr, .inl rfl⟩, rfl⟩
  | borrowed => exact ⟨_, mem_allTextReadings.2 ⟨s, reader, hr, .inr rfl⟩, rfl⟩

/-- In messages a scalar stands as it is displayed, also in an optional value. -/
lemma Renders.eq_display {s : Scalar} {v : s.Val} {x : String} (h : Renders κ s v x) :
    x = s.display v := by
  cases h with
  | bare => rfl
  | optional => rfl

variable [DecidableEq κ]

namespace Settings

variable {a : Settings} {s : Scalar}

/-- Where text is read, the converter from text to a scalar with a reader reads by it. -/
lemma exists_find?_text (on : a.readsText.value = true)
    {reader : List Char → Except String s.Val} (hr : s.reader? = some reader) (k : TextKind) :
    ∃ c : Converter (κ := κ) (.scalar k.scalar) (.scalar s),
      a.context.find? (.scalar k.scalar) (.scalar s) = some c ∧
        ∀ x, c (k.val x) = Conversion.readText reader x := by
  obtain ⟨d, hd, pair⟩ := Conversion.exists_mem_allTextReadings (κ := κ) hr k
  have read : a.context.contains (.scalar k.scalar) (.scalar s : Ty κ) = true :=
    contains_of_knows (.inr (.inr ⟨on, hd⟩)) pair
  obtain ⟨c, hc⟩ := Context.contains_iff.1 read
  refine ⟨c, hc, ?_⟩
  obtain h | h | ⟨_, h⟩ := knows_of_find? rfl rfl hc
  · exact absurd ⟨k, rfl⟩ (Conversion.not_isText_of_mem_allWidenings h)
  · -- owned text has no reader
    cases congrArg Conversion.target h
    cases hr
  · obtain ⟨s', reader', hr', e⟩ := Conversion.mem_allTextReadings.1 h
    cases k with
    | owned =>
      obtain e | e := e
      · cases e
        cases hr.symm.trans hr'
        exact fun x => rfl
      · cases e
    | borrowed =>
      obtain e | e := e
      · cases e
      · cases e
        cases hr.symm.trans hr'
        exact fun x => rfl

/-- The text that stands for a truth value, a character or an integer is read back as that value
where text is read, from owned and from borrowed text and in any forms, and it stands for no other
value of the type. -/
theorem reads_rendering (on : a.readsText.value = true) (hs : s.IsDiscrete) {v : s.Val}
    {x : String} (hx : Renders κ s v x) :
    (∀ (k : TextKind) (f g : Form) (rendering : String),
      (a.context.convert (.stored ⟨f.type (.scalar k.scalar), f.put (k.val x)⟩ rendering)
        (g.type (.scalar s) : Ty κ)).result = .ok (g.put v)) ∧
    ∀ w : s.Val, Renders κ s w x → w = v := by
  obtain ⟨reader, hr, undo⟩ := Scalar.exists_reader hs
  constructor
  · intro k f g rendering
    obtain ⟨c, hc, reads⟩ := exists_find?_text (κ := κ) on hr k
    have ne : k.scalar ≠ s := by
      rintro rfl
      cases k with
      | owned => exact hs
      | borrowed => exact hs
    apply convert_of_find? f g rendering ne hc
    rw [reads, Conversion.readText, hx.eq_display, undo]
    rfl
  · intro w hw
    have same : s.display w = s.display v := hw.eq_display.symm.trans hx.eq_display
    have read : Except.ok (ε := String) w = .ok v :=
      calc Except.ok w = reader (s.display w).toList := (undo w).symm
        _ = reader (s.display v).toList := by rw [same]
        _ = .ok v := undo v
    exact Except.ok.inj read

/-- The least signed byte is shown as `-128` and read back from that text. -/
theorem least_byte_reads_rendering :
    (Argument.ofScalar? (κ := Empty) (.int .i8) (some ⟨-128, by decide⟩)).rendering = "-128" ∧
    (initial.context.convert (.stored ⟨(.scalar .text : Ty Empty), "-128"⟩ "-128")
      (.scalar (.int .i8))).result = .ok ⟨-128, by decide⟩ := by
  have shown : Renders Empty (.int .i8) ⟨-128, by decide⟩ "-128" := .optional
  have read := (reads_rendering (a := initial) (s := .int .i8) rfl trivial shown).1
  exact ⟨rfl, read .borrowed .bare .bare "-128"⟩

end Settings

end TypedArguments
