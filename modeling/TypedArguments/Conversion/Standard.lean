import TypedArguments.Conversion.Context
import TypedArguments.Conversion.TextReading
import TypedArguments.Conversion.Widening

/-!
# The standard context

What a context knows from the start: every scalar is nullable, numbers widen, borrowed text can be
owned, and text is read as other scalars if that is wished.
-/

namespace TypedArguments

variable {κ : Type} [DecidableEq κ] [UserTypes κ]

/-- The registrations of the standard context. -/
def standardRegistrations (readsText : Bool) : List (Registration κ) :=
  Scalar.all.map (fun s => .optional (.scalar s))
    ++ Conversion.allWidenings.map .conversion
    ++ [.conversion .textToString]
    ++ (if readsText then Conversion.allTextReadings.map .conversion else [])

/-- The standard context, which reads text if told to. -/
def Context.standard (readsText : Bool) : Logged (Context κ) :=
  Context.empty.extend (standardRegistrations readsText)

end TypedArguments
