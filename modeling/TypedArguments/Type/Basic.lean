import TypedArguments.Number.Pattern

/-!
# Types

The types that arguments have and that readers ask for: scalars, a few other types, the types of
the application, and an optional type over each of them. A type describes itself by its full name;
two types are the same if they are built alike.
-/

namespace TypedArguments

/-- The scalar types, from which arguments are made directly. `string` is text that the argument
owns, `text` is text that it borrows. -/
inductive Scalar where
  | bool
  | char
  | int (k : IntKind)
  | float (k : FloatKind)
  | string
  | text
  deriving DecidableEq

namespace Scalar

/-- Every scalar type. -/
def all : List Scalar :=
  [.bool, .char] ++ IntKind.all.map .int ++ FloatKind.all.map .float ++ [.string, .text]

/-- Every scalar is listed. -/
theorem mem_all (s : Scalar) : s ∈ all := by
  cases s with
  | int k => simp [all, IntKind.mem_all]
  | float k => simp [all, FloatKind.mem_all]
  | _ => simp [all]

/-- The full name. -/
def name : Scalar → String
  | .bool => "bool"
  | .char => "char"
  | .int k => k.name
  | .float k => k.name
  | .string => "alloc::string::String"
  | .text => "&str"

end Scalar

/-- The types of an application: `κ` lists them, and each has values, a full name, and a way to
show a value exactly. -/
class UserTypes (κ : Type) where
  Val : κ → Type
  name : κ → String
  debug : (c : κ) → Val c → String

/-- An application without types of its own. -/
instance : UserTypes Empty where
  Val := Empty.elim
  name := Empty.elim
  debug c := c.elim

/-- The types that are not optional. The two unsized ones describe text and bytes without a known
length; they have no values of their own. -/
inductive Base (κ : Type) where
  | scalar (s : Scalar)
  | unit
  | bytes
  | unsizedText
  | unsizedBytes
  | user (c : κ)
  deriving DecidableEq

/-- The types: a base under any number of optional layers. -/
inductive Ty (κ : Type) where
  | base (b : Base κ)
  | option (content : Ty κ)
  deriving DecidableEq

/-- Types are compared by their decidable equality. -/
instance {κ : Type} [DecidableEq κ] : LawfulBEq (Ty κ) := inferInstance

variable {κ : Type} [UserTypes κ]

/-- The full name of a base type. -/
def Base.name : Base κ → String
  | .scalar s => s.name
  | .unit => "()"
  | .bytes => "alloc::vec::Vec<u8>"
  | .unsizedText => "str"
  | .unsizedBytes => "[u8]"
  | .user c => UserTypes.name c

namespace Ty

/-- A scalar type. -/
abbrev scalar (s : Scalar) : Ty κ := .base (.scalar s)

/-- The full name of a type. -/
def name : Ty κ → String
  | .base b => b.name
  | .option t => "core::option::Option<" ++ t.name ++ ">"

end Ty

end TypedArguments
