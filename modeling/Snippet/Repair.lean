import Snippet.Detection
import Snippet.Text.Reader

/-! Repair of the usual damage in a pasted snippet. -/

set_option autoImplicit false

namespace Snippet

namespace Repair

def closeBraces (code : Text) : Text :=
  code ++ List.replicate (code.count '{' - code.count '}') '}'

/-- A character other than a semicolon or an opening brace, blanks, and a closing
brace. The character may itself be a blank or a closing brace. -/
def unterminated : Reader Char where
  read
    | c :: r =>
      if c = ';' ∨ c = '{' then none
      else
        match Text.dropBlanks r with
        | '}' :: rest => some (c, rest)
        | _ => none
    | [] => none
  shorter := by
    intro s a rest h
    split at h
    · next c r =>
      have shrinks := Text.length_dropBlanks_le r
      split at h
      · simp at h
      · split at h
        · next same =>
          cases h
          simp only [same, List.length_cons] at shrinks ⊢
          omega
        · simp at h
    · simp at h

def terminate (code : Text) : Text :=
  unterminated.replace (fun c => c :: "; \x7d".toList) code

end Repair

/-- Missing braces are added; in what was a style before, each closing brace then
gets the semicolon before it. -/
def repair (code : Text) : Text :=
  let closed := Repair.closeBraces code
  if Category.of code = .css then Repair.terminate closed else closed

end Snippet
