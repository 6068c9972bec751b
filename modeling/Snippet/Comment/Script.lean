import Snippet.Text.Blank
import Snippet.Text.Reader

/-! Comments of scripts and styles. Quotes are not looked at: a marker inside a
string opens a comment like any other. -/

set_option autoImplicit false

namespace Snippet.Comment

def line : Reader Text where
  read
    | '/' :: '/' :: r => some (r.takeWhile (!isLineEnd ·), r.dropWhile (!isLineEnd ·))
    | _ => none
  shorter := by
    intro s a rest h
    split at h
    · next r =>
      cases h
      have := (List.dropWhile_sublist (!isLineEnd ·) (l := r)).length_le
      simp only [List.length_cons]
      omega
    · simp at h

def block : Reader Text where
  read
    | '/' :: '*' :: r => Text.cut? "*/".toList r
    | _ => none
  shorter := by
    intro s a rest h
    split at h
    · rw [Text.eq_append_of_cut? h]
      simp only [List.length_cons, List.length_append]
      omega
    · simp at h

end Snippet.Comment
