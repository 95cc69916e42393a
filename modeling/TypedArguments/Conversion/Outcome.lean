import TypedArguments.Conversion.Registry
import TypedArguments.Log

/-!
# Outcomes of searches

A search for a conversion ends with a value or an error and leaves a trail of what it did: its
hops, and the converters that it ran. Its log records are read off the trail.
-/

namespace TypedArguments

variable {κ : Type} [UserTypes κ]

/-- The record of the null argument wanted as `target`. -/
def Record.convertingNull (target : Ty κ) : Record :=
  ⟨.trace, "converting null to `" ++ target.name ++ "`"⟩

/-- The record of a value of `source` wanted as `target`. -/
def Record.converting (source target : Ty κ) : Record :=
  ⟨.trace, "converting `" ++ source.name ++ "` to `" ++ target.name ++ "`"⟩

/-- A step on the way from an argument to a type. -/
inductive Step (κ : Type) [UserTypes κ] where
  /-- The null argument is wanted as `target`. -/
  | null (target : Ty κ)
  /-- A value of `source` is wanted as `target`. -/
  | hop (source target : Ty κ)
  /-- The converter registered from `source` to `target` is run. -/
  | run (source target : Ty κ) (input : source.Val)

/-- The record of a step; running a converter leaves none. -/
def Step.record? : Step κ → Option Record
  | .null target => some (.convertingNull target)
  | .hop source target => some (.converting source target)
  | .run .. => none

/-- How a search ended, and the steps that it took. -/
structure Outcome (t : Ty κ) where
  trail : List (Step κ)
  result : Except ConversionError t.Val

namespace Outcome

variable {t : Ty κ}

/-- A value is found without further steps. -/
def found (v : t.Val) : Outcome t :=
  ⟨[], .ok v⟩

/-- The search fails without further steps. -/
def failed (e : ConversionError) : Outcome t :=
  ⟨[], .error e⟩

/-- No conversion leads from `source` on. -/
def unsupported (source t : Ty κ) : Outcome t :=
  failed (.unsupported source.name t.name)

/-- A registered converter is run. -/
def ran {source : Ty κ} (f : Converter source t) (v : source.Val) : Outcome t :=
  ⟨[.run source t v], f v⟩

/-- The outcome after one step more. -/
def after (step : Step κ) (o : Outcome t) : Outcome t :=
  ⟨step :: o.trail, o.result⟩

/-- The outcome of a later hop, for the way from `source` to `target`. -/
def restate (source target : Ty κ) (o : Outcome t) : Outcome t :=
  ⟨o.trail, o.result.mapError (·.restate source.name target.name)⟩

/-- The outcome with the value found as the content of an optional one. -/
def populated (o : Outcome t) : Outcome (.option t) :=
  ⟨o.trail, o.result.map some⟩

/-- The records that the search leaves. -/
def records (o : Outcome t) : List Record :=
  o.trail.filterMap Step.record?

/-- A step before a search does not change its result. -/
@[simp] theorem result_after (step : Step κ) (o : Outcome t) : (o.after step).result = o.result :=
  rfl

/-- The step comes first in the trail. -/
@[simp] theorem trail_after (step : Step κ) (o : Outcome t) :
    (o.after step).trail = step :: o.trail := rfl

/-- Restating an error does not change the trail. -/
@[simp] theorem trail_restate (source target : Ty κ) (o : Outcome t) :
    (o.restate source target).trail = o.trail := rfl

/-- Making the value optional does not change the trail. -/
@[simp] theorem trail_populated (o : Outcome t) : o.populated.trail = o.trail := rfl

/-- Restating keeps the values found. -/
theorem result_restate_eq_ok {source target : Ty κ} {o : Outcome t} {v : t.Val} :
    (o.restate source target).result = .ok v ↔ o.result = .ok v := by
  obtain ⟨trail, result⟩ := o
  cases result with
  | ok w => exact Iff.rfl
  | error e => exact ⟨nofun, nofun⟩

/-- A populated value is found exactly if its content is. -/
theorem result_populated_eq_ok {o : Outcome t} {v : Option t.Val} :
    o.populated.result = .ok v ↔ ∃ w, o.result = .ok w ∧ some w = v := by
  obtain ⟨trail, result⟩ := o
  cases result with
  | ok w =>
    constructor
    · intro h
      cases h
      exact ⟨w, rfl, rfl⟩
    · rintro ⟨w, h, rfl⟩
      cases h
      rfl
  | error e => exact ⟨nofun, nofun⟩

end Outcome

end TypedArguments
