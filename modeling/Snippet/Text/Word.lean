import Snippet.Text.Basic

/-! ASCII words: the names and keywords that the library recognises. -/

set_option autoImplicit false

namespace Snippet

def isWord (c : Char) : Bool := c.isAlphanum || c == '_'

namespace Text

def takeWord (s : Text) : Text := s.takeWhile isWord

def dropWord (s : Text) : Text := s.dropWhile isWord

theorem takeWord_append_dropWord (s : Text) : s.takeWord ++ s.dropWord = s :=
  List.takeWhile_append_dropWhile

/-- No word goes on at the front. -/
def wordEnds (s : Text) : Bool := !(s.head?.any isWord)

/-- What follows a name in small letters, which the text may write in any ASCII
case. -/
def afterName? : (name text : Text) → Option Text
  | [], s => some s
  | _ :: _, [] => none
  | n :: ns, c :: s => if n = c.toLower then afterName? ns s else none

theorem afterName?_eq_some {name s rest : Text} :
    afterName? name s = some rest ↔ ∃ written, s = written ++ rest ∧ lower written = name := by
  induction name generalizing s with
  | nil => simp [afterName?, lower, eq_comm]
  | cons n name ih =>
    cases s with
    | nil => simp [afterName?, lower]
    | cons c s =>
      rw [afterName?]
      constructor
      · intro found
        split at found
        · next same =>
          obtain ⟨written, rfl, rfl⟩ := ih.mp found
          exact ⟨c :: written, rfl, by simp [lower, same]⟩
        · simp at found
      · rintro ⟨written, whole, same⟩
        cases written with
        | nil => simp [lower] at same
        | cons d written =>
          obtain ⟨rfl, rfl⟩ := List.cons.inj whole
          simp only [lower, List.map_cons, List.cons.injEq] at same
          rw [if_pos same.1.symm]
          exact ih.mpr ⟨written, rfl, same.2⟩

theorem eq_append_of_afterName? {name s rest : Text} (h : afterName? name s = some rest) :
    s = s.take name.length ++ rest := by
  induction name generalizing s with
  | nil => simp_all [afterName?]
  | cons n ns ih =>
    cases s with
    | nil => simp [afterName?] at h
    | cons c s =>
      simp only [afterName?] at h
      split at h
      · simpa using ih h
      · simp at h

end Text

end Snippet
