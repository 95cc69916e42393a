import Mathlib.Data.List.Chain
import Mathlib.Data.List.Nodup
import TypedArguments.Argument

/-!
# Type names

A message names types, and it puts `] ` between its parts. If the types of the application have
names that differ from each other and from all other names (`UserTypes.Distinct`), then a type is
known by its name under any number of optional layers (`Ty.name_injective`), and so is the type of
an argument, where the null argument counts as a type of its own
(`Argument.type?_eq_of_typeName_eq`). No name has a separator in it (`Ty.unbroken_name`), so two
texts can be compared part by part from their ends (`Text.separator_inj`).
-/

namespace TypedArguments

namespace Text

/-- No closing bracket is followed by a blank: the text has no separator in it. -/
def Unbroken (cs : List Char) : Prop :=
  cs.IsChain fun c d => c = ']' → d ≠ ' '

instance (cs : List Char) : Decidable (Unbroken cs) :=
  inferInstanceAs (Decidable (cs.IsChain fun c d => c = ']' → d ≠ ' '))

variable {xs ys as bs : List Char}

/-- Joining two texts makes no separator, unless its halves meet there. -/
lemma Unbroken.append (hx : Unbroken xs) (hy : Unbroken ys)
    (apart : xs.getLast? ≠ some ']' ∨ ys.head? ≠ some ' ') : Unbroken (xs ++ ys) := by
  refine List.isChain_append.2 ⟨hx, hy, ?_⟩
  rintro c hc d hd rfl rfl
  exact apart.elim (fun ne => ne hc) fun ne => ne hd

/-- A text with a separator in it is broken. -/
lemma not_unbroken_separator : ¬ Unbroken (as ++ ']' :: ' ' :: xs) := by
  intro h
  exact (List.isChain_append_cons_cons.1 h).2.1 rfl rfl

/-- A text that starts with its last separator has no other one. -/
lemma eq_nil_of_separator (hx : Unbroken xs)
    (h : ']' :: ' ' :: xs = as ++ ']' :: ' ' :: ys) : as = [] := by
  match as, h with
  | [], _ => rfl
  | [c], h =>
    -- the two separators would overlap
    cases (List.cons.inj (List.cons.inj h).2).1
  | c :: d :: as, h =>
    obtain ⟨_, rfl⟩ := List.cons.inj (List.cons.inj h).2
    exact absurd hx not_unbroken_separator

/-- Two texts that are equal are equal before and after their last separators. -/
lemma separator_inj (hx : Unbroken xs) (hy : Unbroken ys)
    (h : as ++ ']' :: ' ' :: xs = bs ++ ']' :: ' ' :: ys) : as = bs ∧ xs = ys := by
  obtain ⟨more, rfl, e⟩ | ⟨more, rfl, e⟩ := List.append_eq_append_iff.1 h
  · cases eq_nil_of_separator hx e
    exact ⟨(List.append_nil as).symm, (List.cons.inj (List.cons.inj e).2).2⟩
  · cases eq_nil_of_separator hy e
    exact ⟨List.append_nil bs, (List.cons.inj (List.cons.inj e).2).2.symm⟩

end Text

variable {κ : Type} [UserTypes κ]

namespace Base

/-- The base types that every application has. -/
def builtIn : List (Base κ) :=
  Scalar.all.map .scalar ++ [.unit, .bytes, .unsizedText, .unsizedBytes]

/-- Their names. -/
def builtInNames : List String :=
  Scalar.all.map Scalar.name ++ ["()", "alloc::vec::Vec<u8>", "str", "[u8]"]

omit [UserTypes κ] in
/-- A base type is built in, or it is one of the application. -/
lemma mem_builtIn (b : Base κ) : b ∈ builtIn ∨ ∃ c, b = .user c := by
  cases b with
  | scalar s => exact .inl (List.mem_append_left _ (List.mem_map_of_mem (Scalar.mem_all s)))
  | user c => exact .inr ⟨c, rfl⟩
  | _ => exact .inl (List.mem_append_right _ (by simp))

/-- The names listed are those of the built-in types, in the same order. -/
lemma map_name_builtIn : (builtIn : List (Base κ)).map name = builtInNames := rfl

/-- The name of a built-in type is listed. -/
lemma name_mem {b : Base κ} (h : b ∈ builtIn) : b.name ∈ builtInNames := by
  rw [← map_name_builtIn (κ := κ)]
  exact List.mem_map_of_mem h

/-- What is true of the built-in names and of those of the application is true of all names. -/
lemma forall_name {P : String → Prop} (builtIn : ∀ n ∈ Argument.nullText :: builtInNames, P n)
    (own : ∀ c : κ, P (UserTypes.name c)) (b : Base κ) : P b.name := by
  obtain hb | ⟨c, rfl⟩ := mem_builtIn b
  · exact builtIn _ (List.mem_cons_of_mem _ (name_mem hb))
  · exact own c

end Base

/-- What the name of an optional type starts with. -/
def Ty.opening : String := "core::option::Option<"

namespace Base

/-- The built-in names, and the one of the null argument, are different. -/
lemma nodup_builtInNames : (Argument.nullText :: builtInNames).Nodup := by decide

/-- No built-in name starts like that of an optional type. -/
lemma not_opening_of_mem :
    ∀ n ∈ Argument.nullText :: builtInNames, ¬ Ty.opening.toList <+: n.toList := by
  decide

/-- No built-in name has a separator in it. -/
lemma unbroken_of_mem : ∀ n ∈ Argument.nullText :: builtInNames, Text.Unbroken n.toList := by
  decide

end Base

/-- The application's types can be told from each other and from all other types by their names, and
a name can be told from the text around it. -/
structure UserTypes.Distinct (κ : Type) [UserTypes κ] : Prop where
  injective : ∀ c d : κ, UserTypes.name c = UserTypes.name d → c = d
  notMem : ∀ c : κ, UserTypes.name c ∉ Argument.nullText :: Base.builtInNames
  not_opening : ∀ c : κ, ¬ Ty.opening.toList <+: (UserTypes.name c).toList
  unbroken : ∀ c : κ, Text.Unbroken (UserTypes.name c).toList

namespace Base

variable (distinct : UserTypes.Distinct κ)

include distinct

/-- A base type is known by its name. -/
lemma name_injective {b c : Base κ} (h : b.name = c.name) : b = c := by
  have apart {b : Base κ} (hb : b ∈ builtIn) (d : κ) : b.name ≠ UserTypes.name d := by
    intro e
    apply distinct.notMem d
    rw [← e]
    exact List.mem_cons_of_mem _ (name_mem hb)
  obtain hb | ⟨d, rfl⟩ := mem_builtIn b
  · obtain hc | ⟨d, rfl⟩ := mem_builtIn c
    · have nodup : ((builtIn : List (Base κ)).map name).Nodup := by
        rw [map_name_builtIn]
        exact nodup_builtInNames.of_cons
      exact List.inj_on_of_nodup_map nodup hb hc h
    · exact absurd h (apart hb d)
  · obtain hc | ⟨e, rfl⟩ := mem_builtIn c
    · exact absurd h.symm (apart hc d)
    · rw [distinct.injective d e h]

/-- No base type is named like the type of the null argument. -/
lemma name_ne_nullText (b : Base κ) : b.name ≠ Argument.nullText := by
  intro e
  obtain hb | ⟨c, rfl⟩ := mem_builtIn b
  · have mem := name_mem hb
    rw [e] at mem
    exact (List.nodup_cons.1 nodup_builtInNames).1 mem
  · exact distinct.notMem c (e ▸ List.mem_cons_self)

/-- No name of a base type starts like that of an optional type. -/
lemma not_opening_name (b : Base κ) : ¬ Ty.opening.toList <+: b.name.toList :=
  forall_name not_opening_of_mem distinct.not_opening b

/-- No name of a base type has a separator in it. -/
lemma unbroken_name (b : Base κ) : Text.Unbroken b.name.toList :=
  forall_name unbroken_of_mem distinct.unbroken b

end Base

namespace Ty

/-- The name of an optional type has that of its content between the opening and a bracket. -/
lemma toList_name_option (t : Ty κ) :
    (option t).name.toList = opening.toList ++ (t.name.toList ++ ['>']) := by
  have shape : (option t).name = opening ++ t.name ++ ">" := rfl
  have closing : ">".toList = ['>'] := rfl
  rw [shape, String.toList_append, String.toList_append, List.append_assoc, closing]

/-- The name of an optional type starts with the opening. -/
lemma opening_name_option (t : Ty κ) : opening.toList <+: (option t).name.toList := by
  rw [toList_name_option]
  exact List.prefix_append _ _

variable (distinct : UserTypes.Distinct κ)

include distinct

/-- A type is known by its name. -/
lemma name_injective {t u : Ty κ} (h : t.name = u.name) : t = u := by
  induction t generalizing u with
  | base b =>
    cases u with
    | base c => rw [b.name_injective distinct h]
    | option u =>
      have same : b.name = (option u).name := h
      refine absurd ?_ (b.not_opening_name distinct)
      rw [same]
      exact u.opening_name_option
  | option t ih =>
    cases u with
    | base c =>
      have same : (option t).name = c.name := h
      refine absurd ?_ (c.not_opening_name distinct)
      rw [← same]
      exact t.opening_name_option
    | option u =>
      have same := congrArg String.toList h
      rw [toList_name_option, toList_name_option] at same
      have inner := List.append_cancel_right (List.append_cancel_left same)
      rw [ih (String.toList_inj.1 inner)]

/-- No type is named like the type of the null argument. -/
lemma name_ne_nullText (t : Ty κ) : t.name ≠ Argument.nullText := by
  cases t with
  | base b => exact b.name_ne_nullText distinct
  | option t =>
    intro e
    apply Base.not_opening_of_mem Argument.nullText List.mem_cons_self
    rw [← e]
    exact t.opening_name_option

/-- No name has a separator in it. -/
lemma unbroken_name (t : Ty κ) : Text.Unbroken t.name.toList := by
  induction t with
  | base b => exact b.unbroken_name distinct
  | option t ih =>
    rw [toList_name_option]
    have closed : Text.Unbroken (t.name.toList ++ ['>']) := ih.append (by decide) (.inr (by decide))
    exact Text.Unbroken.append (by decide) closed (.inl (by decide))

end Ty

namespace Argument

/-- Arguments of one type show the same type name. -/
lemma typeName_congr {x y : Argument κ} (h : x.type? = y.type?) : x.typeName = y.typeName := by
  have name (x : Argument κ) : x.typeName = (x.type?.map Ty.name).getD nullText := by
    cases x with
    | null => rfl
    | stored d r => rfl
  rw [name x, name y, h]

variable (distinct : UserTypes.Distinct κ)

include distinct

/-- The type of an argument is known by its name, also for the null argument. -/
lemma type?_eq_of_typeName_eq {x y : Argument κ} (h : x.typeName = y.typeName) :
    x.type? = y.type? := by
  cases x with
  | null =>
    cases y with
    | null => rfl
    | stored d r => exact absurd h.symm (d.type.name_ne_nullText distinct)
  | stored d r =>
    cases y with
    | null => exact absurd h (d.type.name_ne_nullText distinct)
    | stored e s => exact congrArg some (Ty.name_injective distinct h)

/-- The type name of an argument has no separator in it. -/
lemma unbroken_typeName (x : Argument κ) : Text.Unbroken x.typeName.toList := by
  cases x with
  | null => exact Base.unbroken_of_mem _ List.mem_cons_self
  | stored d r => exact d.type.unbroken_name distinct

end Argument

end TypedArguments
