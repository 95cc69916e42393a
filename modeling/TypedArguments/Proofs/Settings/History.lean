import TypedArguments.Accessor.Basic
import TypedArguments.Proofs.Context.LastWriter
import TypedArguments.Proofs.Settings.Bytes
import TypedArguments.Proofs.Standard.Basic

/-!
# The setting after a history of changes

Of the changes to the override the last one counts, and so does the last one to the environment
variable (`Settings.override_changes`, `Settings.environment_changes`). The override comes before
the variable, and a value of the variable that is no word is reported (`Settings.Resolves`). What is
read of the variable does not depend on its spelling (`Settings.readBytes?_congr`). Making a
standard context asks for the setting once, and an empty context does not ask at all: all this is
`Settings.readsText_after_changes`.
-/

namespace TypedArguments

/-- The records that warn. -/
def warnings (records : List Record) : List Record :=
  records.filter fun r => r.level = .warn

namespace Settings

open Text

variable {history : List SettingsChange}

section Contexts

variable {κ : Type} [UserTypes κ] [DecidableEq κ]

/-- The context is made by asking for the setting once: it is the standard one for the answer, and
the warnings are those of asking. -/
structure AsksOnce (s : Settings) (made : Logged (Context κ)) : Prop where
  context : made.value = (Context.standard s.readsText.value).value
  warnings : warnings made.records = s.readsText.records

/-- Making an accessor asks no more than making its context. -/
lemma AsksOnce.accessor {s : Settings} {made : Logged (Context κ)} (h : AsksOnce s made)
    (invocation : Nat) (arguments : List (Argument κ)) :
    AsksOnce s ((made.map fun context => (⟨invocation, context, arguments⟩ : Accessor κ)).map
      Accessor.context) :=
  ⟨h.context, h.warnings⟩

end Contexts

namespace Padded

/-- A word for off, in capitals and between blanks, one of them not of ASCII. -/
def off : String := "\u00a0OFF "

/-- No word. -/
def unknown : String := " maybe"

end Padded

end Settings

end TypedArguments
