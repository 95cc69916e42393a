import TypedArguments.Conversion.Error
import TypedArguments.Number.Digits

/-!
# Access errors

Why an argument could not be read: there is none at the index, or it could not be converted.
-/

namespace TypedArguments

/-- The reasons for which a read fails. Types and the argument appear as they are shown. -/
inductive AccessError where
  | outOfBounds (index count : Nat)
  | conversion (index : Nat) (value actualType expectedType : String) (source : ConversionError)
  deriving DecidableEq

namespace AccessError

/-- The wording of each reason. -/
def message : AccessError → String
  | .outOfBounds index count =>
    "argument index " ++ String.ofList (Digits.ofNat index)
      ++ " is out of range: index must be >= 0 and < " ++ String.ofList (Digits.ofNat count)
  | .conversion index value actualType expectedType _ =>
    "Argument at index [" ++ String.ofList (Digits.ofNat index) ++ "] with value [" ++ value
      ++ "] and type [" ++ actualType ++ "] could not be converted or cast to type ["
      ++ expectedType ++ "]."

/-- There is no argument at the index. -/
def isOutOfBounds : AccessError → Bool
  | .outOfBounds .. => true
  | .conversion .. => false

/-- The argument could not be converted. -/
def isConversion : AccessError → Bool
  | .outOfBounds .. => false
  | .conversion .. => true

/-- The conversion error behind the failure. -/
def source? : AccessError → Option ConversionError
  | .outOfBounds .. => none
  | .conversion _ _ _ _ source => some source

end AccessError

end TypedArguments
