import Snippet.Text.Blank
import Snippet.Text.Reader

/-! Compression of white space. -/

set_option autoImplicit false

namespace Snippet

namespace Compression

def isTight (c : Char) : Bool :=
  c == '{' || c == '}' || c == '(' || c == ')' || c == ';' || c == ',' || c == ':'

def gap : Reader Unit where
  read
    | c :: r => if isBlank c then some ((), Text.dropBlanks r) else none
    | [] => none
  shorter := by
    intro s a rest h
    split at h
    · next c r =>
      split at h
      · cases h
        have := Text.length_dropBlanks_le r
        simp only [List.length_cons]
        omega
      · simp at h
    · simp at h

def aroundTight : Reader Char where
  read s :=
    match Text.dropBlanks s with
    | c :: r => if isTight c then some (c, Text.dropBlanks r) else none
    | [] => none
  shorter := by
    intro s a rest h
    have shrinks := Text.length_dropBlanks_le s
    split at h
    · next c r same =>
      split at h
      · cases h
        have := Text.length_dropBlanks_le r
        simp only [same, List.length_cons] at shrinks
        omega
      · simp at h
    · simp at h

/-- A run of semicolons and blanks that begins with a semicolon, with the closing
brace behind it. -/
def terminators : Reader Unit where
  read
    | ';' :: r =>
      match r.dropWhile fun c => c == ';' || isBlank c with
      | '}' :: rest => some ((), rest)
      | _ => none
    | _ => none
  shorter := by
    intro s a rest h
    split at h
    · next r =>
      have shrinks := (List.dropWhile_sublist (fun c => c == ';' || isBlank c) (l := r)).length_le
      split at h
      · next same =>
        cases h
        simp only [same, List.length_cons] at shrinks ⊢
        omega
      · simp at h
    · simp at h

end Compression

/-- One space for each run of blanks, none around tight punctuation, no semicolon
before a closing brace, no blanks at the ends. -/
def compress (code : Text) : Text :=
  let spaced := Compression.gap.replace (fun _ => [' ']) code
  let tightened := Compression.aroundTight.replace (fun c => [c]) spaced
  Text.trim (Compression.terminators.replace (fun _ => ['}']) tightened)

end Snippet
