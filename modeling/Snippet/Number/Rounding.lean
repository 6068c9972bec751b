/-! Rounding of fractions, to whole numbers and to 53 significant bits. -/

set_option autoImplicit false

namespace Snippet

structure Fraction where
  num : Nat
  den : Nat
  deriving DecidableEq, Repr

namespace Fraction

def ofNat (n : Nat) : Fraction := ⟨n, 1⟩

def isWhole (f : Fraction) : Bool := f.num % f.den == 0

def scale (f : Fraction) (n : Nat) : Fraction := ⟨f.num * n, f.den⟩

def divide (f : Fraction) (n : Nat) : Fraction := ⟨f.num, f.den * n⟩

def roundToEven (f : Fraction) : Nat :=
  let whole := f.num / f.den
  let twice := 2 * (f.num % f.den)
  if twice < f.den then whole
  else if f.den < twice then whole + 1
  else whole + whole % 2

def roundUp (f : Fraction) : Nat := (2 * f.num + f.den) / (2 * f.den)

/-- The power of two that brings a fraction into the range from `2 ^ 52` to `2 ^ 53`. -/
def exponent53 (f : Fraction) : Int :=
  let guess : Int := 52 + f.den.log2 - f.num.log2
  if f.num * Nat.pow 2 guess.toNat < f.den * Nat.pow 2 (52 + (-guess).toNat) then guess + 1
  else guess

/-- The nearest number with 53 significant bits, a half going to the even neighbour:
what arithmetic on binary numbers of 64 bits keeps of a result. -/
def nearest53 (f : Fraction) : Fraction :=
  if f.num = 0 then f
  else
    let e := f.exponent53
    let bits := roundToEven ⟨f.num * Nat.pow 2 e.toNat, f.den * Nat.pow 2 (-e).toNat⟩
    ⟨bits * Nat.pow 2 (-e).toNat, Nat.pow 2 e.toNat⟩

end Fraction

end Snippet
