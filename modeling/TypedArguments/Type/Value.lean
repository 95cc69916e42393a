import TypedArguments.Number.FloatText
import TypedArguments.Text.Quoted
import TypedArguments.Type.Basic

/-!
# Values

`Ty.Val` gives the values of a type, and `Dynamic` is a value together with its type. Scalars are
shown in two ways: `Scalar.display` for a reader of a message, `Ty.debug` exactly, with quotes,
points and the layers of optional values. `Dynamic.downcast?` recovers a value at its own type
(`downcast?_self`) and at no other (`downcast?_eq_none`).
-/

namespace TypedArguments

/-- The values of a scalar type. -/
@[reducible] def Scalar.Val : Scalar → Type
  | .bool => Bool
  | .char => Char
  | .int k => Bounded k
  | .float k => Pattern k
  | .string => String
  | .text => String

variable {κ : Type} [UserTypes κ]

/-- The values of a type that is not optional. -/
@[reducible] def Base.Val : Base κ → Type
  | .scalar s => s.Val
  | .unit => Unit
  | .bytes => List UInt8
  | .unsizedText => Empty
  | .unsizedBytes => Empty
  | .user c => UserTypes.Val c

/-- The values of a type. -/
@[reducible] def Ty.Val : Ty κ → Type
  | .base b => b.Val
  | .option t => Option t.Val

/-- How a scalar is shown in a message. -/
def Scalar.display : (s : Scalar) → s.Val → String
  | .bool, b => if b then "true" else "false"
  | .char, c => String.singleton c
  | .int _, n => String.ofList (Digits.ofInt n.val)
  | .float _, p => String.ofList (FloatText.write .plain p)
  | .string, s => s
  | .text, s => s

/-- How a scalar is shown exactly. -/
def Scalar.debug : (s : Scalar) → s.Val → String
  | .bool, b => if b then "true" else "false"
  | .char, c => Text.quotedChar c
  | .int _, n => String.ofList (Digits.ofInt n.val)
  | .float _, p => String.ofList (FloatText.write .exact p)
  | .string, s => Text.quotedText s
  | .text, s => Text.quotedText s

/-- How a value of a base type is shown exactly. -/
def Base.debug : (b : Base κ) → b.Val → String
  | .scalar s, v => s.debug v
  | .unit, _ => "()"
  | .bytes, bs =>
    "[" ++ ", ".intercalate (bs.map fun b => String.ofList (Digits.ofNat b.toNat)) ++ "]"
  | .unsizedText, v => v.elim
  | .unsizedBytes, v => v.elim
  | .user c, v => UserTypes.debug c v

/-- How a value is shown exactly. -/
def Ty.debug : (t : Ty κ) → t.Val → String
  | .base b, v => b.debug v
  | .option _, none => "None"
  | .option t, some v => "Some(" ++ t.debug v ++ ")"

/-- A value together with its type. -/
structure Dynamic (κ : Type) [UserTypes κ] where
  type : Ty κ
  value : type.Val

namespace Dynamic

variable [DecidableEq κ]

/-- The value at the type `t`, if that is its type. -/
def downcast? (d : Dynamic κ) (t : Ty κ) : Option t.Val :=
  if h : d.type = t then some (h ▸ d.value) else none

/-- A value is found at its own type. -/
@[simp] theorem downcast?_self (t : Ty κ) (v : t.Val) : (Dynamic.mk t v).downcast? t = some v := by
  simp [downcast?]

/-- A value is found at no other type. -/
theorem downcast?_eq_none {d : Dynamic κ} {t : Ty κ} (h : d.type ≠ t) : d.downcast? t = none := by
  simp [downcast?, h]

end Dynamic

/-- The handle by which a caller asks for a type, as it is shown. -/
def Ty.handle (t : Ty κ) : String :=
  "ArgumentType(" ++ Text.quotedText t.name ++ ")"

end TypedArguments
