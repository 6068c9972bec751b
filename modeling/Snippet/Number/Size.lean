import Snippet.Number.Rounding
import Snippet.Text.Basic

/-! Sizes written for people, in units that grow by a thousand. -/

set_option autoImplicit false

namespace Snippet.Size

def units : List Text :=
  ["B".toList, "kB".toList, "MB".toList, "GB".toList, "TB".toList, "PB".toList, "EB".toList,
    "ZB".toList, "YB".toList]

/-- The value in the first unit in which it is below a thousand, each division
rounded to 53 bits. -/
def scaled (value : Fraction) : List Text → Fraction × Text
  | [] => (value, [])
  | unit :: larger =>
    if larger.isEmpty || value.num < 1000 * value.den then (value, unit)
    else scaled (value.divide 1000).nearest53 larger

def number (value : Fraction) : Text :=
  if value.isWhole then Text.ofNat (value.num / value.den)
  else
    let hundredths := (value.scale 100).roundToEven
    Text.ofNat (hundredths / 100) ++ '.' :: Text.ofNatPadded 2 (hundredths % 100)

def text (size : Nat) : Text :=
  let (value, unit) := scaled (Fraction.ofNat size).nearest53 units
  number value ++ ' ' :: unit

end Snippet.Size
