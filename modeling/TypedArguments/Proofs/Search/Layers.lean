import Mathlib.Tactic.Lemma
import TypedArguments.Conversion.Search

/-!
# Nullable layers

A search takes nullable layers off types and values. `Context.Layers ctx t c` is the way from the
type `t` in to the type `c`, a nullable layer at a time; a value is carried along it in both
directions (`Layers.wrap`, `Layers.unwrap`). The innermost type on the way is `Context.core`
(`layers_core`, `acceptsNull_core`), and a value is `Context.populated` if none of the layers on
the way to the core is empty.
-/

namespace TypedArguments

variable {κ : Type}

/-- The number of optional layers of a type, nullable or not. -/
def Ty.depth : Ty κ → Nat
  | .base _ => 0
  | .option t => t.depth + 1

variable [DecidableEq κ] [UserTypes κ]

namespace Context

variable {ctx : Context κ}

/-- An optional type accepts null exactly if it is registered. -/
@[simp] lemma acceptsNull_option {u : Ty κ} :
    ctx.acceptsNull (.option u) = true ↔ u ∈ ctx.optionals := by
  by_cases h : u ∈ ctx.optionals
  · simp [acceptsNull, absent?, h]
  · simp [acceptsNull, absent?, h]

/-- Another optional type does not accept null. -/
lemma acceptsNull_option_eq_false {u : Ty κ} :
    ctx.acceptsNull (.option u) = false ↔ u ∉ ctx.optionals := by
  rw [← acceptsNull_option, Bool.not_eq_true]

/-- A type that accepts null is an optional one, over a registered content. -/
lemma exists_of_acceptsNull {t : Ty κ} (h : ctx.acceptsNull t = true) :
    ∃ u ∈ ctx.optionals, t = .option u := by
  cases t with
  | base b => cases h
  | option u => exact ⟨u, acceptsNull_option.1 h, rfl⟩

/-- A type at which something stands for nothing accepts null. -/
lemma acceptsNull_of_absent? {t : Ty κ} {w : t.Val} (h : ctx.absent? t = some w) :
    ctx.acceptsNull t = true := by
  rw [acceptsNull, h]
  rfl

/-- What stands for nothing at a nullable type is the empty value. -/
lemma absent?_option {u : Ty κ} (hu : u ∈ ctx.optionals) :
    ctx.absent? (.option u) = some none := by
  simp [absent?, hu]

/-- At a type that is not nullable, no value stands for nothing. -/
lemma absent?_eq_none {t : Ty κ} (h : ctx.acceptsNull t = false) : ctx.absent? t = none :=
  Option.isNone_iff_eq_none.1 (Option.isSome_eq_false_iff.1 h)

/-- The way from a type in to another one, through nullable layers. -/
inductive Layers (ctx : Context κ) : Ty κ → Ty κ → Type where
  | refl (t : Ty κ) : Layers ctx t t
  | layer {u c : Ty κ} : u ∈ ctx.optionals → Layers ctx u c → Layers ctx (.option u) c

namespace Layers

variable {t u c : Ty κ}

/-- A value of the inner type, put into all the layers. -/
def wrap {t c : Ty κ} : Layers ctx t c → c.Val → t.Val
  | .refl _, v => v
  | .layer _ p, v => some (p.wrap v)

/-- The value of the inner type, unless one of the layers is empty. -/
def unwrap {t c : Ty κ} : Layers ctx t c → t.Val → Option c.Val
  | .refl _, v => some v
  | .layer _ _, none => none
  | .layer _ p, some v => p.unwrap v

/-- The nullable types that are left behind on the way in, the outermost first. -/
def passed {t c : Ty κ} : Layers ctx t c → List (Ty κ)
  | .refl _ => []
  | @layer _ _ _ _ u _ _ p => .option u :: p.passed

/-- One way in after another. -/
def trans {t u c : Ty κ} : Layers ctx t u → Layers ctx u c → Layers ctx t c
  | .refl _, q => q
  | .layer h p, q => .layer h (p.trans q)

/-- A value is put into two groups of layers one after the other. -/
lemma wrap_trans (p : Layers ctx t u) (q : Layers ctx u c) (v : c.Val) :
    (p.trans q).wrap v = p.wrap (q.wrap v) := by
  induction p with
  | refl t => rfl
  | layer h p ih => exact congrArg some (ih q)

/-- No way leads to a type with more layers. -/
lemma depth_le (p : Layers ctx t c) : c.depth ≤ t.depth := by
  induction p with
  | refl t => exact Nat.le_refl _
  | layer h p ih => exact Nat.le_succ_of_le ih

/-- A type does not lie within its own content. -/
lemma ne_option (p : Layers ctx u c) : c ≠ .option u := by
  rintro rfl
  exact absurd p.depth_le (Nat.not_succ_le_self _)

/-- A type that is not nullable has no way in. -/
lemma eq_of_not_acceptsNull (p : Layers ctx t c) (h : ctx.acceptsNull t = false) : c = t := by
  cases p with
  | refl t => rfl
  | layer hu p => rw [acceptsNull_option.2 hu] at h; cases h

/-- Nothing is left behind on the way from a type that is not nullable. -/
lemma passed_eq_nil (p : Layers ctx t c) (h : ctx.acceptsNull t = false) : p.passed = [] := by
  cases p with
  | refl t => rfl
  | layer hu p => rw [acceptsNull_option.2 hu] at h; cases h

/-- What is left behind is nullable, has more layers than the end of the way, and is a type on
the way. -/
lemma of_mem_passed {a : Ty κ} (p : Layers ctx t c) (h : a ∈ p.passed) :
    Nonempty (Layers ctx t a) ∧ ctx.acceptsNull a = true ∧ c.depth < a.depth := by
  induction p with
  | refl t => cases h
  | @layer u c hu p ih =>
    cases h with
    | head => exact ⟨⟨.refl _⟩, acceptsNull_option.2 hu, Nat.lt_succ_of_le p.depth_le⟩
    | tail _ h =>
      obtain ⟨⟨q⟩, ha, hd⟩ := ih h
      exact ⟨⟨.layer hu q⟩, ha, hd⟩

/-- Of two types on ways from the same one, one is passed on the way to the other. -/
lemma total {a b : Ty κ} (p : Layers ctx t a) (q : Layers ctx t b) :
    a = b ∨ a ∈ q.passed ∨ b ∈ p.passed := by
  induction p with
  | refl t =>
    cases q with
    | refl => exact .inl rfl
    | layer hu q => exact .inr (.inl (List.mem_cons_self ..))
  | layer hu p ih =>
    cases q with
    | refl => exact .inr (.inr (List.mem_cons_self ..))
    | layer hu q =>
      apply (ih q).imp_right
      exact fun h => h.imp (List.mem_cons_of_mem _) (List.mem_cons_of_mem _)

/-- The last layer on the way to another type is the one right around it. -/
lemma last (p : Layers ctx t c) (ne : t ≠ c) :
    c ∈ ctx.optionals ∧ Nonempty (Layers ctx t (.option c)) := by
  induction p with
  | refl t => exact absurd rfl ne
  | @layer u c hu p ih =>
    by_cases e : u = c
    · subst e
      exact ⟨hu, ⟨.refl _⟩⟩
    · obtain ⟨hc, ⟨q⟩⟩ := ih e
      exact ⟨hc, ⟨.layer hu q⟩⟩

/-- A value taken out of the layers goes back into them. -/
lemma wrap_of_unwrap {t c : Ty κ} (p : Layers ctx t c) {v : t.Val} {w : c.Val}
    (h : p.unwrap v = some w) : p.wrap w = v := by
  induction p with
  | refl t =>
    cases h
    rfl
  | layer hu p ih =>
    cases v with
    | none => cases h
    | some v => exact congrArg some (ih h)

/-- There is only one way in to a type. -/
lemma unique (p q : Layers ctx t c) : p = q := by
  induction p with
  | refl t =>
    cases q with
    | refl => rfl
    | layer hu q => exact absurd rfl q.ne_option
  | layer hu p ih =>
    cases q with
    | refl => exact absurd rfl p.ne_option
    | layer hu q => rw [ih q]

/-- A way in is one in any context that has more nullable types. -/
def mono {ctx ctx' : Context κ} (sub : ctx.optionals ⊆ ctx'.optionals) {t c : Ty κ} :
    Layers ctx t c → Layers ctx' t c
  | .refl _ => .refl _
  | .layer hu p => .layer (sub hu) (p.mono sub)

section

variable {ctx' : Context κ} (sub : ctx.optionals ⊆ ctx'.optionals) (p : Layers ctx t c)

end

end Layers

/-- The type within all nullable layers. -/
def core (ctx : Context κ) : Ty κ → Ty κ
  | .base b => .base b
  | .option u => if u ∈ ctx.optionals then ctx.core u else .option u

/-- A nullable type has the core of its content. -/
lemma core_option {u : Ty κ} (hu : u ∈ ctx.optionals) : ctx.core (.option u) = ctx.core u :=
  if_pos hu

/-- A type that is not nullable is its own core. -/
lemma core_of_not_acceptsNull {t : Ty κ} (h : ctx.acceptsNull t = false) : ctx.core t = t := by
  cases t with
  | base b => rfl
  | option u =>
    exact if_neg (acceptsNull_option_eq_false.1 h)

/-- The core is not nullable. -/
lemma acceptsNull_core (t : Ty κ) : ctx.acceptsNull (ctx.core t) = false := by
  induction t with
  | base b => rfl
  | option u ih =>
    by_cases hu : u ∈ ctx.optionals
    · rw [core_option hu]
      exact ih
    · rw [core, if_neg hu]
      exact acceptsNull_option_eq_false.2 hu

/-- A way leads from every type to its core. -/
lemma layers_core (ctx : Context κ) (t : Ty κ) : Nonempty (Layers ctx t (ctx.core t)) := by
  induction t with
  | base b => exact ⟨.refl _⟩
  | option u ih =>
    by_cases hu : u ∈ ctx.optionals
    · obtain ⟨p⟩ := ih
      rw [core_option hu]
      exact ⟨.layer hu p⟩
    · rw [core, if_neg hu]
      exact ⟨.refl _⟩

/-- A type on the way in has the same core. -/
lemma Layers.core_eq {t c : Ty κ} (p : Layers ctx t c) : ctx.core c = ctx.core t := by
  induction p with
  | refl t => rfl
  | layer hu p ih => rw [core_option hu, ih]

/-- A way that ends at a type that is not nullable ends at the core. -/
lemma Layers.eq_core {t c : Ty κ} (p : Layers ctx t c) (hc : ctx.acceptsNull c = false) :
    c = ctx.core t := by
  rw [← p.core_eq, core_of_not_acceptsNull hc]

/-- None of the nullable layers around the core of the value's type is empty. -/
def populated (ctx : Context κ) : (s : Ty κ) → s.Val → Bool
  | .base _, _ => true
  | .option s, none => s ∉ ctx.optionals
  | .option s, some v => s ∉ ctx.optionals || ctx.populated s v

/-- A populated value has a populated content. -/
lemma populated_some {s : Ty κ} (hs : s ∈ ctx.optionals) (v : s.Val) :
    ctx.populated (.option s) (some v) = ctx.populated s v := by
  simp [populated, hs]

/-- An empty value of a nullable type is not populated. -/
lemma populated_none {s : Ty κ} (hs : s ∈ ctx.optionals) :
    ctx.populated (.option s) none = false := by
  simp [populated, hs]

/-- A value of a type that is not nullable is populated. -/
lemma populated_of_not_acceptsNull {s : Ty κ} (h : ctx.acceptsNull s = false) (v : s.Val) :
    ctx.populated s v = true := by
  cases s with
  | base b => rfl
  | option s =>
    have hs := acceptsNull_option_eq_false.1 h
    cases v with
    | none => simp [populated, hs]
    | some v => simp [populated, hs]

/-- A populated value is one in all the layers on a way in. -/
lemma exists_unwrap_of_populated {t c : Ty κ} (p : Layers ctx t c) {v : t.Val}
    (h : ctx.populated t v = true) : ∃ w, p.unwrap v = some w := by
  induction p with
  | refl t => exact ⟨v, rfl⟩
  | layer hu p ih =>
    cases v with
    | none => cases (populated_none hu).symm.trans h
    | some v => exact ih ((populated_some hu v).symm.trans h)

/-- A value in layers is populated if the value within is. -/
lemma populated_eq_of_unwrap {t c : Ty κ} (p : Layers ctx t c) {v : t.Val} {w : c.Val}
    (h : p.unwrap v = some w) : ctx.populated t v = ctx.populated c w := by
  induction p with
  | refl t =>
    cases h
    rfl
  | layer hu p ih =>
    cases v with
    | none => cases h
    | some v => exact (populated_some hu v).trans (ih h)

/-- A value with a core in it is populated. -/
lemma populated_of_unwrap {t c : Ty κ} (p : Layers ctx t c) (hc : ctx.acceptsNull c = false)
    {v : t.Val} {w : c.Val} (h : p.unwrap v = some w) : ctx.populated t v = true :=
  (populated_eq_of_unwrap p h).trans (populated_of_not_acceptsNull hc w)

/-- A value stands for nothing if it is the empty one of a nullable type. -/
lemma isAbsent_option {u : Ty κ} {v : Option u.Val} :
    ctx.isAbsent (.option u) v = true ↔ v = none ∧ u ∈ ctx.optionals := by
  simp [isAbsent]

/-- A populated value is not absent. -/
lemma isAbsent_of_populated {s : Ty κ} {v : s.Val} (h : ctx.populated s v = true) :
    ctx.isAbsent s v = false := by
  cases s with
  | base b => rfl
  | option s =>
    cases v with
    | some v => rfl
    | none => simpa [isAbsent, populated] using h

end Context

end TypedArguments
