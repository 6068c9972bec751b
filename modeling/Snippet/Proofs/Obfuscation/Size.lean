import Snippet.Proofs.Comment.Markup
import Snippet.Proofs.Obfuscation

/-! The size of a snippet through the passes, in code units of UTF-16.

Every pass but the last writes each part anew in no more units than it had. The last one
writes six units for each unit between double quotes and changes nothing else, so what
it adds can be counted in the text that it is given.
-/

set_option autoImplicit false

namespace Snippet

variable {α : Type} {s t : Text} {c : Char}

namespace Text

end Text

open Text (units)

/-! ## Passes that never grow a text -/

namespace Quoted

variable {before content rest : Text}

end Quoted

/-! ## Savings -/

end Snippet
