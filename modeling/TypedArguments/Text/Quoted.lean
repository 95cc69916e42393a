import TypedArguments.Text.Extending
import TypedArguments.Text.Printable

/-!
# Quoted text

The exact form of texts and characters: between quotes, with escapes for the quote itself, the
backslash, the common controls, and whatever cannot be shown alone.
-/

namespace TypedArguments.Text

/-- The escape of a character by its code point, in hexadecimal digits between braces. -/
def codeEscape (c : Char) : List Char :=
  ['\\', 'u', '\x7b'] ++ Nat.toDigits 16 c.toNat ++ ['\x7d']

/-- A character as it is written between two `quote`s. -/
def escape (quote c : Char) : List Char :=
  if c = '\x00' then ['\\', '0']
  else if c = '\t' then ['\\', 't']
  else if c = '\r' then ['\\', 'r']
  else if c = '\n' then ['\\', 'n']
  else if c = '\\' ∨ c = quote then ['\\', c]
  else if isExtending c ∨ !isPrintable c then codeEscape c
  else [c]

/-- A text between two `quote`s. -/
def quoted (quote : Char) (cs : List Char) : List Char :=
  [quote] ++ cs.flatMap (escape quote) ++ [quote]

/-- A text in double quotes. -/
def quotedText (s : String) : String :=
  String.ofList (quoted '\x22' s.toList)

/-- A character in single quotes. -/
def quotedChar (c : Char) : String :=
  String.ofList (quoted '\x27' [c])

/-- A quote is escaped inside its own kind of quotes only. -/
example : quotedText "\"'\n" = "\"\\\"'\\n\"" ∧ quotedChar '\x27' = "'\\''" := by
  decide +kernel

end TypedArguments.Text
