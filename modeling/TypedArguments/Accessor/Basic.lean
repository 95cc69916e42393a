import TypedArguments.Accessor.Error
import TypedArguments.Conversion.Search
import TypedArguments.Settings

/-!
# Accessors

An accessor holds the arguments of one invocation and the context that reads them. Reading the
argument at an index reports the attempt, converts the argument, and reports a failure; an index
without an argument fails at once and reports nothing. Reads change nothing.
-/

namespace TypedArguments

variable {κ : Type} [DecidableEq κ] [UserTypes κ]

namespace Record

/-- The record of an attempt to read an argument. -/
def reading (invocation index : Nat) (t : Ty κ) : Record :=
  ⟨.trace, "invocation " ++ String.ofList (Digits.ofNat invocation) ++ ": reading argument "
    ++ String.ofList (Digits.ofNat index) ++ " as `" ++ t.name ++ "`"⟩

/-- The record of an argument that could not be read. -/
def refused (invocation index : Nat) (argument : Argument κ) (t : Ty κ) (source : ConversionError) :
    Record :=
  ⟨.debug, "invocation " ++ String.ofList (Digits.ofNat invocation) ++ ": argument "
    ++ String.ofList (Digits.ofNat index) ++ " of type `" ++ argument.typeName
    ++ "` is not a `" ++ t.name ++ "`: " ++ source.message⟩

end Record

/-- The scalars that have a read of their own. The integers of 128 bits, those of the width of an
address and borrowed text have none. -/
inductive Getter where
  | bool | char
  | i8 | i16 | i32 | i64
  | u8 | u16 | u32 | u64
  | f32 | f64
  | string
  deriving DecidableEq

namespace Getter

/-- The type that a getter reads. -/
def scalar : Getter → Scalar
  | .bool => .bool
  | .char => .char
  | .i8 => .int .i8
  | .i16 => .int .i16
  | .i32 => .int .i32
  | .i64 => .int .i64
  | .u8 => .int .u8
  | .u16 => .int .u16
  | .u32 => .int .u32
  | .u64 => .int .u64
  | .f32 => .float .f32
  | .f64 => .float .f64
  | .string => .string

/-- Every getter. -/
def all : List Getter :=
  [.bool, .char, .i8, .i16, .i32, .i64, .u8, .u16, .u32, .u64, .f32, .f64, .string]

/-- The getter for a scalar, if there is one. -/
def ofScalar? (s : Scalar) : Option Getter :=
  all.find? fun g => g.scalar = s

/-- Each getter is the one for its type. -/
theorem ofScalar?_scalar (g : Getter) : ofScalar? g.scalar = some g := by
  cases g <;> rfl

end Getter

/-- The arguments of one invocation, in order, and the context that reads them. -/
structure Accessor (κ : Type) [DecidableEq κ] [UserTypes κ] where
  invocation : Nat
  context : Context κ
  arguments : List (Argument κ)

namespace Accessor

/-- An accessor with the standard context under the settings. -/
def ofArguments (settings : Settings) (invocation : Nat) (arguments : List (Argument κ)) :
    Logged (Accessor κ) :=
  settings.standardContext.map fun context => ⟨invocation, context, arguments⟩

/-- The number of arguments. -/
def size (a : Accessor κ) : Nat :=
  a.arguments.length

/-- The argument at an index. -/
def get (a : Accessor κ) (index : Nat) : Except AccessError (Argument κ) :=
  match a.arguments[index]? with
  | some argument => .ok argument
  | none => .error (.outOfBounds index a.size)

/-- The record of an attempt to read an argument of the accessor. -/
def reading (a : Accessor κ) (index : Nat) (t : Ty κ) : Record :=
  .reading a.invocation index t

/-- The record of an argument of the accessor that could not be read. -/
def refused (a : Accessor κ) (index : Nat) (argument : Argument κ) (t : Ty κ)
    (source : ConversionError) : Record :=
  .refused a.invocation index argument t source

/-- Reads an argument that is at an index. -/
def readArgument (a : Accessor κ) (index : Nat) (argument : Argument κ) (t : Ty κ) :
    Logged (Except AccessError t.Val) :=
  let outcome := a.context.convert argument t
  match outcome.result with
  | .ok v => ⟨.ok v, a.reading index t :: outcome.records⟩
  | .error e =>
    ⟨.error (.conversion index argument.rendering argument.typeName t.name e),
     a.reading index t :: outcome.records ++ [a.refused index argument t e]⟩

/-- Reads the argument at an index as a value of `t`. -/
def read (a : Accessor κ) (index : Nat) (t : Ty κ) : Logged (Except AccessError t.Val) :=
  match a.get index with
  | .ok argument => a.readArgument index argument t
  | .error e => .pure (.error e)

/-- Reads the argument at an index as a value of `t` that carries its type. -/
def readDynamic (a : Accessor κ) (index : Nat) (t : Ty κ) :
    Logged (Except AccessError (Dynamic κ)) :=
  (a.read index t).map fun result => result.map (Dynamic.mk t)

/-- Reads the argument at an index by a getter. -/
def readBy (a : Accessor κ) (g : Getter) (index : Nat) : Logged (Except AccessError g.scalar.Val) :=
  a.read index (.scalar g.scalar)

/-- The accessor with everything in it, on one line. -/
def debug (a : Accessor κ) : String :=
  "ArgumentsAccessor \x7b invocation_index: " ++ String.ofList (Digits.ofNat a.invocation)
    ++ ", context: " ++ a.context.debug
    ++ ", arguments: [" ++ ", ".intercalate (a.arguments.map Argument.debug) ++ "] \x7d"

end Accessor

end TypedArguments
