/-!
# Conversion errors

Why a value could not be converted. Types appear by name, since a conversion may name anything
there.
-/

namespace TypedArguments

/-- The reasons for which a conversion fails. -/
inductive ConversionError where
  /-- There is no value, and the target cannot stand for that. -/
  | null (target : String)
  /-- No conversion leads from the one type to the other. -/
  | unsupported (source target : String)
  /-- A conversion gave a value of another type than it promised. -/
  | mistyped (target : String)
  /-- The text is not one of the target's. -/
  | parse (value target cause : String)
  deriving DecidableEq

namespace ConversionError

/-- The wording of each reason. -/
def message : ConversionError → String
  | .null target => "cannot convert a null value to `" ++ target ++ "`"
  | .unsupported source target => "no conversion from `" ++ source ++ "` to `" ++ target ++ "`"
  | .mistyped target => "conversion to `" ++ target ++ "` produced a value of another type"
  | .parse value target cause =>
    "failed to parse '" ++ value ++ "' as `" ++ target ++ "`: " ++ cause

/-- The error of one hop as the error of the whole way from `source` to `target`: a missing
conversion is reported for the whole way, every other error stays as it is. -/
def restate (source target : String) : ConversionError → ConversionError
  | .unsupported _ _ => .unsupported source target
  | e => e

/-- Restating twice is restating for the outer way. -/
@[simp] theorem restate_restate (s t s' t' : String) (e : ConversionError) :
    (e.restate s t).restate s' t' = e.restate s' t' := by
  cases e <;> rfl

end ConversionError

end TypedArguments
