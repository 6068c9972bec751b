import Snippet.Number.Size
import Snippet.Text.Units

/-! How much smaller a snippet has become. Sizes are in UTF-16 code units. -/

set_option autoImplicit false

namespace Snippet

structure Savings where
  before : Nat
  after : Nat
  saved : Nat
  percent : Nat
  deriving DecidableEq, Repr

namespace Savings

/-- A part of a whole in per cent: the quotient and its hundredfold are each rounded
to 53 bits, and the last step to a whole number rounds a half up. -/
def percentage (part whole : Nat) : Nat :=
  if whole = 0 then 0
  else (((Fraction.mk part whole).nearest53.scale 100).nearest53).roundUp

/-- A text that grew saved nothing. -/
def of (old new : Text) : Savings :=
  let before := Text.units old
  let after := Text.units new
  ⟨before, after, before - after, percentage (before - after) before⟩

def summary (savings : Savings) : Text :=
  "Original: ".toList ++ Size.text savings.before ++
  "  Obfuscated: ".toList ++ Size.text savings.after ++
  "  Saved: ".toList ++ Size.text savings.saved ++
  " (".toList ++ Text.ofNat savings.percent ++ "%)".toList

end Savings

end Snippet
