import Snippet.Text.Basic

/-! White space: the characters with the Unicode property `White_Space`, and the
parts of a text that they bound. -/

set_option autoImplicit false

namespace Snippet

/-- The 25 characters with the property `White_Space`. -/
def isBlank (c : Char) : Bool :=
  let n := c.toNat
  (9 ≤ n && n ≤ 13) || n == 0x20 || n == 0x85 || n == 0xA0 || n == 0x1680 ||
  (0x2000 ≤ n && n ≤ 0x200A) || n == 0x2028 || n == 0x2029 || n == 0x202F || n == 0x205F ||
  n == 0x3000

/-- The characters that end a line of a script. -/
def isLineEnd (c : Char) : Bool :=
  c == '\n' || c == '\r' || c.toNat == 0x2028 || c.toNat == 0x2029

theorem isBlank_of_isLineEnd {c : Char} (h : isLineEnd c) : isBlank c := by
  simp only [isLineEnd, isBlank, Bool.or_eq_true, beq_iff_eq] at h ⊢
  rcases h with ((h | h) | h) | h
  · subst h; decide
  · subst h; decide
  all_goals simp [h]

namespace Text

def dropBlanks (s : Text) : Text := s.dropWhile isBlank

def leadingBlanks (s : Text) : Text := s.takeWhile isBlank

theorem leadingBlanks_append_dropBlanks (s : Text) : s.leadingBlanks ++ s.dropBlanks = s :=
  List.takeWhile_append_dropWhile

theorem length_dropBlanks_le (s : Text) : s.dropBlanks.length ≤ s.length :=
  (List.dropWhile_sublist isBlank).length_le

def dropTrailingBlanks (s : Text) : Text := (dropBlanks s.reverse).reverse

def trim (s : Text) : Text := s.dropBlanks.dropTrailingBlanks

def allBlank (s : Text) : Bool := s.all isBlank

def visible (s : Text) : Text := s.filter (!isBlank ·)

end Text

end Snippet
