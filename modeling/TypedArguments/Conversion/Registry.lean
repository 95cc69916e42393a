import TypedArguments.Conversion.Error
import TypedArguments.Type.Value

/-!
# Registries of conversions

A conversion turns the values of one type into values of another or fails. A registry holds at
most one conversion for each pair of types; inserting one for a pair that is taken replaces the
other (`find?_insert_self`, `find?_insert_of_ne`).
-/

namespace TypedArguments

/-- A function that turns values of `s` into values of `t` or fails. -/
abbrev Converter {κ : Type} [UserTypes κ] (s t : Ty κ) : Type :=
  s.Val → Except ConversionError t.Val

/-- A conversion between two types. -/
structure Conversion (κ : Type) [UserTypes κ] where
  source : Ty κ
  target : Ty κ
  run : Converter source target

namespace Conversion

variable {κ : Type} [UserTypes κ]

/-- The pair of types that a conversion is registered under. -/
def pair (c : Conversion κ) : Ty κ × Ty κ :=
  (c.source, c.target)

/-- Puts a value into the optional type over its own. -/
def box (s : Ty κ) : Conversion κ where
  source := s
  target := .option s
  run v := .ok (some v)

/-- Takes the value out of an optional one, unless that is empty. -/
def unbox (s : Ty κ) : Conversion κ where
  source := .option s
  target := s
  run
    | some v => .ok v
    | none => .error (.null s.name)

end Conversion

variable {κ : Type} [DecidableEq κ] [UserTypes κ]

/-- The converter for a pair of types among the conversions, the first of them. -/
def findConverter? : List (Conversion κ) → (s t : Ty κ) → Option (Converter s t)
  | [], _, _ => none
  | c :: cs, s, t =>
    if h : c.source = s ∧ c.target = t then some (h.1 ▸ h.2 ▸ c.run) else findConverter? cs s t

/-- Conversions, no two of them for the same pair of types. -/
structure Registry (κ : Type) [UserTypes κ] where
  conversions : List (Conversion κ)
  nodup : (conversions.map Conversion.pair).Nodup

namespace Registry

/-- No conversions. -/
def empty : Registry κ :=
  ⟨[], List.nodup_nil⟩

/-- The number of conversions. -/
def size (r : Registry κ) : Nat :=
  r.conversions.length

/-- The converter for a pair of types. -/
def find? (r : Registry κ) (s t : Ty κ) : Option (Converter s t) :=
  findConverter? r.conversions s t

/-- There is a conversion for a pair of types. -/
def contains (r : Registry κ) (s t : Ty κ) : Bool :=
  (r.find? s t).isSome

/-- Adds a conversion, in the place of another for the same pair. -/
def insert (r : Registry κ) (c : Conversion κ) : Registry κ where
  conversions := c :: r.conversions.filter fun d => d.pair ≠ c.pair
  nodup := by
    rw [List.map_cons, List.nodup_cons]
    constructor
    · simp
    · exact r.nodup.sublist (List.filter_sublist.map _)

/-- The first conversion is found for its pair. -/
theorem findConverter?_cons_self (c : Conversion κ) (cs : List (Conversion κ)) :
    findConverter? (c :: cs) c.source c.target = some c.run := by
  simp [findConverter?]

/-- The first conversion does not matter for other pairs. -/
theorem findConverter?_cons_of_ne {c : Conversion κ} {s t : Ty κ} (h : c.pair ≠ (s, t))
    (cs : List (Conversion κ)) : findConverter? (c :: cs) s t = findConverter? cs s t := by
  have h : ¬ (c.source = s ∧ c.target = t) := fun ⟨hs, ht⟩ => h (by simp [Conversion.pair, hs, ht])
  simp [findConverter?, h]

/-- Conversions of other pairs do not matter for a pair. -/
theorem findConverter?_filter {s t : Ty κ} {p : Ty κ × Ty κ} (h : p ≠ (s, t))
    (cs : List (Conversion κ)) :
    findConverter? (cs.filter fun d => d.pair ≠ p) s t = findConverter? cs s t := by
  induction cs with
  | nil => rfl
  | cons c cs ih =>
    by_cases hc : c.pair = p
    · rw [List.filter_cons_of_neg (by simpa using hc), ih,
        findConverter?_cons_of_ne (by rw [hc]; exact h)]
    · rw [List.filter_cons_of_pos (by simpa using hc)]
      by_cases hp : c.source = s ∧ c.target = t
      · obtain ⟨rfl, rfl⟩ := hp
        rw [findConverter?_cons_self, findConverter?_cons_self]
      · simp only [findConverter?, hp, dite_false, ih]

/-- The conversion inserted last is found. -/
@[simp] theorem find?_insert_self (r : Registry κ) (c : Conversion κ) :
    (r.insert c).find? c.source c.target = some c.run :=
  findConverter?_cons_self _ _

/-- Inserting a conversion changes no other pair. -/
theorem find?_insert_of_ne {r : Registry κ} {c : Conversion κ} {s t : Ty κ}
    (h : c.pair ≠ (s, t)) : (r.insert c).find? s t = r.find? s t := by
  simp only [find?, insert]
  rw [findConverter?_cons_of_ne h, findConverter?_filter h]

/-- The pair of an inserted conversion is taken. -/
@[simp] theorem contains_insert_self (r : Registry κ) (c : Conversion κ) :
    (r.insert c).contains c.source c.target = true := by
  simp [contains]

/-- A pair that is taken stays taken. -/
theorem contains_insert {r : Registry κ} {c : Conversion κ} {s t : Ty κ}
    (h : r.contains s t = true) : (r.insert c).contains s t = true := by
  by_cases hp : c.pair = (s, t)
  · cases hp
    exact contains_insert_self r c
  · rw [contains, find?_insert_of_ne hp]
    exact h

end Registry

end TypedArguments
