/-!
# Indented text

A text inside a block: every line that has begun is moved four blanks to the right.
-/

namespace TypedArguments.Text

/-- Indents from a line's start or its middle on. A line begins with its first character, which
may be the line end itself. -/
def indentFrom : (atStart : Bool) → List Char → List Char
  | _, [] => []
  | atStart, c :: cs =>
    (if atStart then [' ', ' ', ' ', ' '] else []) ++ c :: indentFrom (c = '\n') cs

/-- Indents a text that begins with a line. -/
def indent (s : String) : String :=
  String.ofList (indentFrom true s.toList)

end TypedArguments.Text
