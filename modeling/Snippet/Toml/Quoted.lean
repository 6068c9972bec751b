import Snippet.Text.Hexadecimal

/-! Reading of TOML strings in their four forms: basic and literal, each on one line
or on several. -/

set_option autoImplicit false

namespace Snippet.Toml

export Text (hexValue? readHex)

def isControl (c : Char) : Bool := (c.toNat < 0x20 && c != '\t') || c.toNat == 0x7F

def charOfCode? (n : Nat) : Option Char :=
  if n < 0xD800 ∨ (0xDFFF < n ∧ n < 0x110000) then some (Char.ofNat n) else none

/-- The character of an escape, and what follows; the text begins behind the backslash. -/
def readEscape : Text → Option (Char × Text)
  | 'b' :: r => some ('\x08', r)
  | 't' :: r => some ('\t', r)
  | 'n' :: r => some ('\n', r)
  | 'f' :: r => some ('\x0c', r)
  | 'r' :: r => some ('\r', r)
  | '"' :: r => some ('"', r)
  | '\\' :: r => some ('\\', r)
  | 'u' :: r => do
    let (n, rest) ← readHex 0 4 r
    let c ← charOfCode? n
    some (c, rest)
  | 'U' :: r => do
    let (n, rest) ← readHex 0 8 r
    let c ← charOfCode? n
    some (c, rest)
  | _ => none

def afterLineBreak? : Text → Option Text
  | '\n' :: r => some r
  | '\r' :: '\n' :: r => some r
  | _ => none

def dropLineBreak (s : Text) : Text := (afterLineBreak? s).getD s

def isSpace (c : Char) : Bool := c == ' ' || c == '\t'

/-- What follows spaces and line breaks; at most `fuel` of them. -/
def dropSpacesAndBreaks : (fuel : Nat) → Text → Text
  | 0, s => s
  | fuel + 1, s =>
    match s with
    | c :: r =>
      if isSpace c then dropSpacesAndBreaks fuel r
      else
        match afterLineBreak? s with
        | some rest => dropSpacesAndBreaks fuel rest
        | none => s
    | [] => []

/-- The content of a basic string on one line; the text begins behind the quote. -/
def readBasic : (fuel : Nat) → Text → Option (Text × Text)
  | 0, _ => none
  | fuel + 1, s =>
    match s with
    | [] => none
    | '"' :: r => some ([], r)
    | '\\' :: r => do
      let (c, rest) ← readEscape r
      let (content, rest) ← readBasic fuel rest
      some (c :: content, rest)
    | c :: r =>
      if isControl c then none
      else do
        let (content, rest) ← readBasic fuel r
        some (c :: content, rest)

def readLiteral : Text → Option (Text × Text)
  | [] => none
  | '\'' :: r => some ([], r)
  | c :: r =>
    if isControl c then none
    else do
      let (content, rest) ← readLiteral r
      some (c :: content, rest)

def quoteRun (quote : Char) (s : Text) : Nat := (s.takeWhile (· == quote)).length

/-- The end of a string on several lines: three quotes, with up to two more in front
that belong to the content. The meaning is the content and what follows; nothing if
fewer than three quotes stand here. -/
def closing? (quote : Char) (s : Text) : Option (Text × Text) :=
  let run := quoteRun quote s
  if run < 3 then none
  else
    let extra := min (run - 3) 2
    some (List.replicate extra quote, s.drop (extra + 3))

/-- The content of a basic string on several lines. A backslash at the end of a line
takes the blanks before the next character away with itself. -/
def readBasicLines : (fuel : Nat) → Text → Option (Text × Text)
  | 0, _ => none
  | fuel + 1, s =>
    match closing? '"' s with
    | some (quotes, rest) => some (quotes, rest)
    | none =>
      match s with
      | [] => none
      | '\\' :: r =>
        match afterLineBreak? (r.dropWhile isSpace) with
        | some rest => readBasicLines fuel (dropSpacesAndBreaks rest.length rest)
        | none => do
          let (c, rest) ← readEscape r
          let (content, rest) ← readBasicLines fuel rest
          some (c :: content, rest)
      | c :: r =>
        match afterLineBreak? s with
        | some rest => do
          let (content, rest) ← readBasicLines fuel rest
          some ('\n' :: content, rest)
        | none =>
          if isControl c then none
          else do
            let (content, rest) ← readBasicLines fuel r
            some (c :: content, rest)

def readLiteralLines : (fuel : Nat) → Text → Option (Text × Text)
  | 0, _ => none
  | fuel + 1, s =>
    match closing? '\'' s with
    | some (quotes, rest) => some (quotes, rest)
    | none =>
      match s with
      | [] => none
      | c :: r =>
        match afterLineBreak? s with
        | some rest => do
          let (content, rest) ← readLiteralLines fuel rest
          some ('\n' :: content, rest)
        | none =>
          if isControl c then none
          else do
            let (content, rest) ← readLiteralLines fuel r
            some (c :: content, rest)

def readLineString : Text → Option (Text × Text)
  | '"' :: r => readBasic (r.length + 1) r
  | '\'' :: r => readLiteral r
  | _ => none

def readString : Text → Option (Text × Text)
  | '"' :: '"' :: '"' :: r =>
    let body := dropLineBreak r
    readBasicLines (body.length + 1) body
  | '\'' :: '\'' :: '\'' :: r =>
    let body := dropLineBreak r
    readLiteralLines (body.length + 1) body
  | s => readLineString s

end Snippet.Toml
