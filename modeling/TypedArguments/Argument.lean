import TypedArguments.Text.Indent
import TypedArguments.Type.Value

/-!
# Arguments

One argument of a test invocation: nothing at all, or a value together with the text that stands
for it in messages. That text is fixed when the argument is made: `Argument.exact` shows the value
exactly, `Argument.displayed` as its type displays it, and `Argument.optional` displays the content
of an optional value.
-/

namespace TypedArguments

/-- An argument: the null argument, or a value and its rendering. -/
inductive Argument (κ : Type) [UserTypes κ] where
  | null
  | stored (content : Dynamic κ) (rendering : String)

namespace Argument

variable {κ : Type} [UserTypes κ]

/-- The text that stands for a missing value. -/
def nullText : String := "null"

/-- A value shown exactly. -/
def exact (t : Ty κ) (v : t.Val) : Argument κ :=
  .stored ⟨t, v⟩ (t.debug v)

/-- A value shown by `display`. -/
def displayed (t : Ty κ) (display : t.Val → String) (v : t.Val) : Argument κ :=
  .stored ⟨t, v⟩ (display v)

/-- An optional value whose content is shown by `display`. An empty one is rendered like the null
argument but keeps its type. -/
def optional (t : Ty κ) (display : t.Val → String) (v : Option t.Val) : Argument κ :=
  .stored ⟨.option t, v⟩ ((v.map display).getD nullText)

/-- A scalar argument. -/
def ofScalar (s : Scalar) (v : s.Val) : Argument κ :=
  displayed (.scalar s) s.display v

/-- An optional scalar argument. -/
def ofScalar? (s : Scalar) (v : Option s.Val) : Argument κ :=
  optional (.scalar s) s.display v

/-- The argument is the null argument. -/
def isNull : Argument κ → Bool
  | .null => true
  | .stored .. => false

/-- The value with its type, unless the argument is null. -/
def content? : Argument κ → Option (Dynamic κ)
  | .null => none
  | .stored d _ => some d

/-- The type of the value, unless the argument is null. -/
def type? (a : Argument κ) : Option (Ty κ) :=
  a.content?.map Dynamic.type

/-- The full name of the argument's type. -/
def typeName : Argument κ → String
  | .null => nullText
  | .stored d _ => d.type.name

/-- The text that stands for the argument in messages. -/
def rendering : Argument κ → String
  | .null => nullText
  | .stored _ r => r

/-- The value at the type `t`, if that is the argument's type. -/
def downcast? [DecidableEq κ] (a : Argument κ) (t : Ty κ) : Option t.Val :=
  a.content?.bind (·.downcast? t)

/-- The argument with its type, on one line. -/
def debug (a : Argument κ) : String :=
  "Argument \x7b type: " ++ Text.quotedText a.typeName ++ ", value: " ++ a.rendering ++ " \x7d"

/-- The argument with its type, a line for each. -/
def pretty (a : Argument κ) : String :=
  "Argument \x7b\n"
    ++ Text.indent ("type: " ++ Text.quotedText a.typeName ++ ",\nvalue: " ++ a.rendering ++ ",\n")
    ++ "\x7d"

end Argument

end TypedArguments
