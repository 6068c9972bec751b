import Snippet.Text.Word
import Snippet.Toml.Document
import Snippet.Toml.Scalar

/-! Reading TOML documents. -/

set_option autoImplicit false

namespace Snippet.Toml

def dropSpaces (s : Text) : Text := s.dropWhile isSpace

def dropComment : Text → Text
  | '#' :: r => r.dropWhile (!isControl ·)
  | s => s

/-- What follows the end of a line: spaces and a comment may stand before it. -/
def afterLine? (s : Text) : Option Text :=
  match dropComment (dropSpaces s) with
  | [] => some []
  | rest => afterLineBreak? rest

def dropFiller : (fuel : Nat) → Text → Text
  | 0, s => s
  | fuel + 1, s =>
    match s with
    | [] => []
    | c :: r =>
      if isSpace c then dropFiller fuel r
      else if c == '#' then dropFiller fuel (dropComment s)
      else
        match afterLineBreak? s with
        | some rest => dropFiller fuel rest
        | none => s

def isBareKey (c : Char) : Bool := isWord c || c == '-'

def readKeyPart (s : Text) : Option (Text × Text) :=
  match s with
  | '"' :: _ | '\'' :: _ => readLineString s
  | _ =>
    let word := s.takeWhile isBareKey
    if word.isEmpty then none else some (word, s.dropWhile isBareKey)

/-- The parts of a key with dots between them, and what follows the spaces behind it. -/
def readKeyParts : (fuel : Nat) → Text → Option (List Text × Text)
  | 0, _ => none
  | fuel + 1, s => do
    let (part, rest) ← readKeyPart (dropSpaces s)
    match dropSpaces rest with
    | '.' :: r => do
      let (parts, rest) ← readKeyParts fuel r
      some (part :: parts, rest)
    | rest => some ([part], rest)

/-- How deep values may nest, and the number of parts that no key reaches. -/
def nesting : Nat := 80

def readKey (s : Text) : Option (List Text × Text) := do
  let (parts, rest) ← readKeyParts (s.length + 1) s
  if parts.length < nesting then some (parts, rest) else none

def isScalarChar (c : Char) : Bool := isWord c || c == '+' || c == '-' || c == '.' || c == ':'

/-- The value of a word and what follows. A day may be followed by a space and a time. -/
def readWord (s : Text) : Option (Value × Text) :=
  let word := s.takeWhile isScalarChar
  let rest := s.dropWhile isScalarChar
  if word == "true".toList then some (.boolean true, rest)
  else if word == "false".toList then some (.boolean false, rest)
  else
    match integer? word with
    | some n => some (.integer n, rest)
    | none =>
      if isFloat word then some (.float, rest)
      else if isDateTime word || isTime word then some (.time, rest)
      else if isDate word then
        match rest with
        | ' ' :: r =>
          if isZonedTime (r.takeWhile isScalarChar) then some (.time, r.dropWhile isScalarChar)
          else some (.time, rest)
        | _ => some (.time, rest)
      else none

def readScalar (s : Text) : Option (Value × Text) :=
  match s with
  | '"' :: _ | '\'' :: _ => (readString s).map fun (content, rest) => (.string content, rest)
  | _ => readWord s

def readElements (read : Text → Option (Value × Text)) :
    (fuel : Nat) → Text → Option (List Value × Text)
  | 0, _ => none
  | fuel + 1, s =>
    match dropFiller s.length s with
    | ']' :: rest => some ([], rest)
    | inner => do
      let (value, rest) ← read inner
      match dropFiller rest.length rest with
      | ']' :: rest => some ([value], rest)
      | ',' :: rest => do
        let (values, rest) ← readElements read fuel rest
        some (value :: values, rest)
      | _ => none

def readKeyValue (read : Text → Option (Value × Text)) (s : Text) :
    Option ((List Text × Value) × Text) := do
  let (parts, rest) ← readKey s
  match rest with
  | '=' :: r => do
    let (value, rest) ← read (dropSpaces r)
    some ((parts, value), rest)
  | _ => none

/-- The pairs of an inline table up to its end; there is at least one. -/
def readPairs (read : Text → Option (Value × Text)) :
    (fuel : Nat) → Text → Option (List (List Text × Value) × Text)
  | 0, _ => none
  | fuel + 1, s => do
    let (pair, rest) ← readKeyValue read s
    match dropSpaces rest with
    | '}' :: rest => some ([pair], rest)
    | ',' :: rest => do
      let (pairs, rest) ← readPairs read fuel rest
      some (pair :: pairs, rest)
    | _ => none

def entriesOf (entries : Entries) (pairs : List (List Text × Value)) : Option Entries :=
  pairs.foldlM (fun entries (parts, value) => entries.insert parts (.value value)) entries

def readInlineTable (read : Text → Option (Value × Text)) (s : Text) : Option (Value × Text) :=
  match dropSpaces s with
  | '}' :: rest => some (.table [], rest)
  | inner => do
    let (pairs, rest) ← readPairs read (inner.length + 1) inner
    let entries ← entriesOf [] pairs
    some (.table (finishEntries entries), rest)

def readValue : (depth : Nat) → Text → Option (Value × Text)
  | depth, '[' :: r =>
    match depth with
    | 0 => none
    | depth + 1 =>
      (readElements (readValue depth) (r.length + 1) r).map fun (values, rest) =>
        (.array values, rest)
  | depth, '{' :: r =>
    match depth with
    | 0 => none
    | depth + 1 => readInlineTable (readValue depth) r
  | _, s => readScalar s

inductive Statement where
  | pair : List Text → Value → Statement
  | header : List Text → Statement
  | arrayHeader : List Text → Statement

def readStatement : Text → Option (Statement × Text)
  | '[' :: '[' :: r => do
    let (path, rest) ← readKey r
    let rest ← Text.after? [']', ']'] rest
    let rest ← afterLine? rest
    some (.arrayHeader path, rest)
  | '[' :: r => do
    let (path, rest) ← readKey r
    let rest ← Text.after? [']'] rest
    let rest ← afterLine? rest
    some (.header path, rest)
  | s => do
    let ((parts, value), rest) ← readKeyValue (readValue nesting) s
    let rest ← afterLine? rest
    some (.pair parts value, rest)

def readStatements : (fuel : Nat) → Text → Option (List Statement)
  | 0, _ => none
  | fuel + 1, s =>
    match dropFiller s.length s with
    | [] => some []
    | line => do
      let (statement, rest) ← readStatement line
      let statements ← readStatements fuel rest
      some (statement :: statements)

structure Section where
  isArray : Bool
  path : List Text
  pairs : List (List Text × Value)

def sections : List Statement → List (List Text × Value) × List Section
  | [] => ([], [])
  | .pair parts value :: rest =>
    let (pairs, others) := sections rest
    ((parts, value) :: pairs, others)
  | .header path :: rest =>
    let (pairs, others) := sections rest
    ([], ⟨false, path, pairs⟩ :: others)
  | .arrayHeader path :: rest =>
    let (pairs, others) := sections rest
    ([], ⟨true, path, pairs⟩ :: others)

/-- A section in its place. A table may have been a step on the way to another header
before, but nothing else; an array of tables grows by one. -/
def Section.place (added : Section) (key : Text) (parent : Entries) : Option Entries :=
  if added.isArray then
    match parent.find? key with
    | none => do
      let entries ← entriesOf [] added.pairs
      some (parent.set key (.tables [entries]))
    | some (.tables elements) => do
      let entries ← entriesOf [] added.pairs
      some (parent.set key (.tables (elements ++ [entries])))
    | some _ => none
  else
    match parent.find? key with
    | none => do
      let entries ← entriesOf [] added.pairs
      some (parent.set key (.table .header entries))
    | some (.table .path inner) => do
      let entries ← entriesOf inner added.pairs
      some ((parent.erase key).set key (.table .header entries))
    | some _ => none

def Section.addTo (root : Entries) (added : Section) : Option Entries :=
  match added.path.getLast? with
  | none => none
  | some key => Entries.alongHeader (added.place key) added.path.dropLast root

/-- A byte order mark in front has no meaning. -/
def dropMark : Text → Text
  | '\uFEFF' :: r => r
  | s => s

def read? (document : Text) : Option (List (Text × Value)) := do
  let s := dropMark document
  let statements ← readStatements (s.length + 1) s
  let (pairs, others) := sections statements
  let root ← entriesOf [] pairs
  let root ← others.foldlM Section.addTo root
  some (finishEntries root)

end Snippet.Toml
