import Snippet.Text.Blank
import Snippet.Text.Units
import Snippet.FileName.Transliteration

/-! File names made safe for common file systems. -/

set_option autoImplicit false

namespace Snippet

namespace FileName

def reserved : List Text :=
  [ "CON".toList, "PRN".toList, "AUX".toList, "NUL".toList,
    "COM1".toList, "COM2".toList, "COM3".toList, "COM4".toList, "COM5".toList,
    "COM6".toList, "COM7".toList, "COM8".toList, "COM9".toList,
    "LPT1".toList, "LPT2".toList, "LPT3".toList, "LPT4".toList, "LPT5".toList,
    "LPT6".toList, "LPT7".toList, "LPT8".toList, "LPT9".toList ]

def isKept (c : Char) : Bool := c.isAlphanum || c == '_' || c == '.'

/-- One hyphen for each run of blanks and hyphens, and no character that is not kept
in a name. A dropped character does not interrupt a run. -/
def clean (afterHyphen : Bool) : Text → Text
  | [] => []
  | c :: r =>
    if isBlank c || c == '-' then
      if afterHyphen then clean true r else '-' :: clean true r
    else if isKept c then c :: clean false r
    else clean afterHyphen r

def isEdge (c : Char) : Bool := c == '.' || c == ' ' || c == '-'

def trimEdges (s : Text) : Text := ((s.dropWhile isEdge).reverse.dropWhile isEdge).reverse

def guard (name : Text) : Text :=
  if reserved.contains (Text.upper (name.takeWhile (· != '.'))) then '_' :: name else name

def ofSpelling (spelling : Text) : Text := guard (trimEdges (clean false spelling))

/-- A safe name for a text that `spelled` spells, or the fallback as it is if nothing of
the text is left. -/
def sanitizeBy (spelled : Text → Text) (input fallback : Text) : Text :=
  let name := ofSpelling (spelled input)
  if name.isEmpty then fallback else name

def sanitize : (input fallback : Text) → Text := sanitizeBy transliterate

def maxBytes : Nat := 255

end FileName

inductive FileNameError where
  | tooLong (bytes : Nat)
  | wrongExtension (name extension : Text)
  deriving DecidableEq, Repr

def FileNameError.message : FileNameError → Text
  | tooLong bytes =>
    "Filename too long: ".toList ++ Text.ofNat bytes ++ " characters (max ".toList ++
      Text.ofNat FileName.maxBytes ++ ")".toList
  | wrongExtension name extension =>
    "'".toList ++ name ++ "' must end in .".toList ++ extension

namespace FileName

def checkLength (name : Text) : Except FileNameError Unit :=
  if maxBytes < Text.bytes name then .error (.tooLong (Text.bytes name)) else .ok ()

def extension (name : Text) : Text := ((Text.cutLast? '.' name).map (·.2)).getD []

/-- A name with something before its last dot and the extension, in any ASCII case,
behind it. -/
def hasExtension (name extension : Text) : Bool :=
  match Text.cutLast? '.' name with
  | some (stem, last) => !stem.isEmpty && Text.sameLetters last extension
  | none => false

def resolveBy (spelled : Text → Text) (configured default : Text) : Except FileNameError Text := do
  let name := sanitizeBy spelled configured default
  let wanted := extension default
  if !wanted.isEmpty && !hasExtension name wanted then throw (.wrongExtension name wanted)
  checkLength name
  return name

def resolve : (configured default : Text) → Except FileNameError Text := resolveBy transliterate

end FileName

end Snippet
