import Snippet.Text.Hexadecimal

/-! JSON objects laid out with one field on each line. -/

set_option autoImplicit false

namespace Snippet

inductive Json where
  | string : Text → Json
  | number : Nat → Json
  | object : List (Text × Json) → Json

namespace Json

/-- Control characters, quotes and backslashes are escaped, nothing else. -/
def escape (c : Char) : Text :=
  match c with
  | '"' => ['\\', '"']
  | '\\' => ['\\', '\\']
  | '\x08' => ['\\', 'b']
  | '\t' => ['\\', 't']
  | '\n' => ['\\', 'n']
  | '\x0c' => ['\\', 'f']
  | '\r' => ['\\', 'r']
  | c =>
    if c.toNat < 0x20 then
      ['\\', 'u', '0', '0', Text.hexDigit (c.toNat / 16), Text.hexDigit (c.toNat % 16)]
    else [c]

def quote (s : Text) : Text := '"' :: s.flatMap escape ++ ['"']

def indentation (depth : Nat) : Text := List.replicate (2 * depth) ' '

mutual

def render (depth : Nat) : Json → Text
  | string s => quote s
  | number n => Text.ofNat n
  | object [] => ['{', '}']
  | object (field :: fields) =>
    ['{', '\n'] ++ renderFields (depth + 1) (field :: fields) ++ indentation depth ++ ['}']

def renderFields (depth : Nat) : List (Text × Json) → Text
  | [] => []
  | [(key, value)] => indentation depth ++ quote key ++ ": ".toList ++ render depth value ++ ['\n']
  | (key, value) :: rest =>
    indentation depth ++ quote key ++ ": ".toList ++ render depth value ++ [',', '\n'] ++
      renderFields depth rest

end

end Json

end Snippet
