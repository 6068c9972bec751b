import Snippet.Text.Basic

/-! Hexadecimal digits. They are written small, and read in either case. -/

set_option autoImplicit false

namespace Snippet.Text

def hexDigit (n : Nat) : Char :=
  if n < 10 then Char.ofNat ('0'.toNat + n) else Char.ofNat ('a'.toNat + n - 10)

def hexValue? (c : Char) : Option Nat :=
  if c.isDigit then some (c.toNat - '0'.toNat)
  else if 'a' ≤ c && c ≤ 'f' then some (c.toNat - 'a'.toNat + 10)
  else if 'A' ≤ c && c ≤ 'F' then some (c.toNat - 'A'.toNat + 10)
  else none

theorem hexValue?_hexDigit {n : Nat} (below : n < 16) : hexValue? (hexDigit n) = some n := by
  have all : ∀ n < 16, hexValue? (hexDigit n) = some n := by decide
  exact all n below

/-- The value of exactly `count` digits behind those of `value`, and what follows them. -/
def readHex (value : Nat) : (count : Nat) → Text → Option (Nat × Text)
  | 0, s => some (value, s)
  | _ + 1, [] => none
  | count + 1, c :: r =>
    match hexValue? c with
    | some digit => readHex (value * 16 + digit) count r
    | none => none

theorem length_of_readHex {value count n : Nat} {s rest : Text}
    (found : readHex value count s = some (n, rest)) : s.length = count + rest.length := by
  induction count generalizing value s with
  | zero =>
    obtain ⟨-, rfl⟩ := Prod.mk.inj (Option.some.inj found)
    exact (Nat.zero_add _).symm
  | succ count ih =>
    cases s with
    | nil => simp [readHex] at found
    | cons c s =>
      rw [readHex] at found
      split at found
      · rw [List.length_cons, ih found]
        omega
      · cases found

end Snippet.Text
