import TypedArguments.Conversion.Registry

/-!
# Reading text

The conversions from text, owned or borrowed, into the other scalars. Each accepts the texts of one
small grammar and gives the cause in words otherwise. Truth values are read in any case of letters;
nothing else is changed or trimmed before it is read.
-/

namespace TypedArguments

/-- Why a text is no single character. -/
inductive CharFault where
  | empty
  | tooMany
  deriving DecidableEq

/-- The wording of each reason. -/
def CharFault.message : CharFault → String
  | .empty => "cannot parse char from empty string"
  | .tooMany => "too many characters in string"

/-- The cause when a text is no truth value. -/
def boolFault : String :=
  "provided string was not `true` or `false`"

/-- Reads a truth value. -/
def readBool (cs : List Char) : Except String Bool :=
  let word := String.ofList (cs.map Char.toLower)
  if word = "true" then .ok true
  else if word = "false" then .ok false
  else .error boolFault

/-- Reads a single character. -/
def readChar : List Char → Except CharFault Char
  | [] => .error .empty
  | [c] => .ok c
  | _ :: _ :: _ => .error .tooMany

/-- How a scalar is read from text; text itself is not read. -/
def Scalar.reader? : (s : Scalar) → Option (List Char → Except String s.Val)
  | .bool => some readBool
  | .char => some fun cs => (readChar cs).mapError CharFault.message
  | .int k => some fun cs => (Digits.read k cs).mapError IntegerFault.message
  | .float k => some fun cs => (FloatText.read k cs).mapError FloatFault.message
  | .string => none
  | .text => none

namespace Conversion

variable {κ : Type} [UserTypes κ]

/-- Borrowed text as owned text. -/
def textToString : Conversion κ where
  source := .scalar .text
  target := .scalar .string
  run (s : String) := .ok s

/-- Reads a text by a reader; the error names the text and what it was to be. -/
def readText {s : Scalar} (reader : List Char → Except String s.Val) (text : String) :
    Except ConversionError s.Val :=
  (reader text.toList).mapError fun cause => .parse text s.name cause

/-- The conversions of owned and of borrowed text into a scalar. -/
def textReadings (s : Scalar) : List (Conversion κ) :=
  match s.reader? with
  | none => []
  | some reader =>
    [⟨.scalar .string, .scalar s, fun (text : String) => readText reader text⟩,
     ⟨.scalar .text, .scalar s, fun (text : String) => readText reader text⟩]

/-- All conversions from text into other scalars. -/
def allTextReadings : List (Conversion κ) :=
  Scalar.all.flatMap textReadings

end Conversion

end TypedArguments
