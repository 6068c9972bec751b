import Snippet.Toml.Quoted

/-! Writing of TOML strings.

A string is written in the first of four forms that shows it as it is. A text that
every form would have to change is written with escapes. -/

set_option autoImplicit false

namespace Snippet.Toml

def hexCapital (n : Nat) : Char := (Text.hexDigit n).toUpper

def escaped (c : Char) : Text :=
  match c with
  | '\x08' => ['\\', 'b']
  | '\t' => ['\\', 't']
  | '\n' => ['\\', 'n']
  | '\x0c' => ['\\', 'f']
  | '\r' => ['\\', 'r']
  | '"' => ['\\', '"']
  | '\\' => ['\\', '\\']
  | c =>
    if isControl c then
      ['\\', 'u', '0', '0', hexCapital (c.toNat / 16 % 16), hexCapital (c.toNat % 16)]
    else [c]

/-- The content of a basic string on several lines: line breaks stay, and every third
quote of a run is escaped. `quotes` counts the quotes just written as they are. -/
def writeLines (quotes : Nat) : Text → Text
  | [] => []
  | '"' :: r => if quotes < 2 then '"' :: writeLines (quotes + 1) r else '\\' :: '"' :: writeLines 0 r
  | '\n' :: r => '\n' :: writeLines 0 r
  | c :: r => escaped c ++ writeLines 0 r

def tripled (quote : Char) : Text := List.replicate 3 quote

/-- A form on several lines may hold the whole text on the line of its mark. A text
with line breaks begins on the next line; the line break before it is not part of it. -/
def leadingBreak (s : Text) : Text := if s.contains '\n' then ['\n'] else []

/-- The basic forms know escapes, the literal ones hold every character as it is. -/
inductive StringForm where
  | basic
  | literal
  | basicLines
  | literalLines
  deriving DecidableEq, Repr

namespace StringForm

/-- The forms, the one that is tried first in front. -/
def all : List StringForm := [basic, literal, basicLines, literalLines]

/-- Whether the form shows the text as it is. Tabs do not count: a basic form escapes
them, and is chosen all the same. -/
def shows : StringForm → Text → Bool
  | basic, s => !s.any fun c => isControl c || c == '"' || c == '\\'
  | literal, s => !s.any fun c => isControl c || c == '\''
  | basicLines, s =>
    !(s.any fun c => (isControl c && c != '\n') || c == '\\') &&
      (Text.cut? (tripled '"') s).isNone
  | literalLines, s =>
    !(s.any fun c => isControl c && c != '\n') && (Text.cut? (tripled '\'') s).isNone

/-- The form in which a text is written. Escapes exist in the basic forms alone, so one
of these is left for a text that no form shows. -/
def ofText (s : Text) : StringForm :=
  match all.find? (·.shows s) with
  | some form => form
  | none => if s.contains '\n' then basicLines else basic

def write : StringForm → Text → Text
  | basic, s => '"' :: s.flatMap escaped ++ ['"']
  | literal, s => '\'' :: s ++ ['\'']
  | basicLines, s => tripled '"' ++ leadingBreak s ++ writeLines 0 s ++ tripled '"'
  | literalLines, s => tripled '\'' ++ leadingBreak s ++ s ++ tripled '\''

end StringForm

def writeString (s : Text) : Text := (StringForm.ofText s).write s

end Snippet.Toml
