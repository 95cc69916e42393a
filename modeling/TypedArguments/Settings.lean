import TypedArguments.Conversion.Standard
import TypedArguments.Text.Blank

/-!
# Settings

Whether standard contexts read text. An override set by the program decides; without one, the value
of an environment variable does, if it is one of eight words. Otherwise text is read. A value that
is none of the words is reported each time the setting is asked for.
-/

namespace TypedArguments

/-- What the setting depends on: the override, and the bytes of the environment variable. -/
structure Settings where
  override : Option Bool
  environment : Option ByteArray

/-- A change to the settings. -/
inductive SettingsChange where
  | setOverride (enabled : Bool)
  | clearOverride
  | setEnvironment (value : Option ByteArray)

namespace Settings

/-- No override, and the environment variable is not set. -/
def initial : Settings :=
  ⟨none, none⟩

/-- The settings after a change. -/
def change (s : Settings) : SettingsChange → Settings
  | .setOverride enabled => { s with override := some enabled }
  | .clearOverride => { s with override := none }
  | .setEnvironment value => { s with environment := value }

/-- The name of the environment variable. -/
def variableName : String :=
  "RSTEST_BDD_PARAMS_STRING_CONVERSION"

/-- The meaning of a word, in any case of letters and with any blanks around it. -/
def readFlag? (value : String) : Option Bool :=
  let word := String.ofList ((Text.trim value.toList).map Char.toLower)
  if word ∈ ["1", "true", "yes", "on"] then some true
  else if word ∈ ["0", "false", "no", "off"] then some false
  else none

/-- The text in the environment variable. Bytes that are no text count as no value. -/
def environmentText? (s : Settings) : Option String :=
  s.environment.bind String.fromUTF8?

/-- The record of a value that is none of the words. -/
def unrecognised (value : String) : Record :=
  ⟨.warn, "ignoring unrecognised " ++ variableName ++ " value '" ++ value ++ "'"⟩

/-- Standard contexts read text. -/
def readsText (s : Settings) : Logged Bool :=
  match s.override with
  | some enabled => .pure enabled
  | none =>
    match s.environmentText? with
    | none => .pure true
    | some value =>
      match readFlag? value with
      | some enabled => .pure enabled
      | none => ⟨true, [unrecognised value]⟩

/-- The standard context under these settings. -/
def standardContext {κ : Type} [DecidableEq κ] [UserTypes κ] (s : Settings) : Logged (Context κ) :=
  s.readsText.bind Context.standard

end Settings

end TypedArguments
