import Snippet.Text.Blank
import Snippet.Text.Hexadecimal
import Snippet.Text.Units
import Snippet.Text.Reader

/-! Encoding of the texts between double quotes by escapes of UTF-16 code units. -/

set_option autoImplicit false

namespace Snippet

namespace Quoted

/-- The text between a double quote and the next one. A backslash has no meaning. -/
def literal : Reader Text where
  read
    | '"' :: r => Text.cut? ['"'] r
    | _ => none
  shorter := by
    intro s a rest h
    split at h
    · rw [Text.eq_append_of_cut? h]
      simp only [List.length_cons, List.length_append]
      omega
    · simp at h

def escapeUnit (unit : Nat) : Text :=
  ['\\', 'u', Text.hexDigit (unit / 0x1000 % 16), Text.hexDigit (unit / 0x100 % 16),
    Text.hexDigit (unit / 0x10 % 16), Text.hexDigit (unit % 16)]

/-- The ends of lines stay as they are. -/
def escape (c : Char) : Text :=
  if isLineEnd c then [c] else (units16 c).flatMap escapeUnit

def encode (content : Text) : Text := '"' :: content.flatMap escape ++ ['"']

end Quoted

def encodeStrings (code : Text) : Text := Quoted.literal.replace Quoted.encode code

end Snippet
