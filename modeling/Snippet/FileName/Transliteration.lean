import Snippet.Text.Basic
import Snippet.FileName.Spelling.Latin
import Snippet.FileName.Spelling.Symbols
import Snippet.FileName.Spelling.Alphabets
import Snippet.FileName.Spelling.RightToLeft
import Snippet.FileName.Spelling.Indic
import Snippet.FileName.Spelling.SoutheastAsian
import Snippet.FileName.Spelling.Syllabaries
import Snippet.FileName.Spelling.EastAsian
import Snippet.FileName.Spelling.Emoji
import Snippet.FileName.Spelling.Han.From4E00
import Snippet.FileName.Spelling.Han.From6000
import Snippet.FileName.Spelling.Han.From7000
import Snippet.FileName.Spelling.Han.From8000
import Snippet.FileName.Spelling.Han.From9000
import Snippet.FileName.Spelling.Han.Rare

/-! Spelling of any text in ASCII.

The tables list spellings by rows of sixteen neighbouring characters. A row is the
code point of its first character divided by sixteen and a text with the spellings
in order, a middle dot between two of them. The middle dot is not ASCII, so no
spelling contains one. -/

set_option autoImplicit false

namespace Snippet

namespace Transliteration

open Spelling

def entry (row : String) (position : Nat) : Text :=
  ((Text.splitOn '·' row.toList)[position]?).getD []

def lookup (table : List (Nat × String)) (n : Nat) : Text :=
  match table.find? (·.1 == n / 16) with
  | some (_, row) => entry row (n % 16)
  | none => []

def letters : List (Nat × String) :=
  latin ++ symbols ++ alphabets ++ rightToLeft ++ indic ++ southeastAsian ++ syllabaries ++ eastAsian

def words : List (Nat × String) :=
  hanFrom4E00 ++ hanFrom6000 ++ hanFrom7000 ++ hanFrom8000 ++ hanFrom9000 ++ hanDoubles ++ emoji

def rareReading (c : Char) : Text :=
  match hanByReading.find? (·.2.toList.contains c) with
  | some (reading, _) => reading.toList
  | none => []

/-- The spelling in the tables. A blank follows a word. -/
def tabled (c : Char) : Text :=
  match lookup letters c.toNat with
  | [] =>
    match lookup words c.toNat with
    | [] => rareReading c
    | word => word ++ [' ']
  | spelling => spelling

/-- The consonants that begin a syllable of Hangul, in the order of the code points. -/
def initials : List String :=
  ["g", "gg", "n", "d", "dd", "r", "m", "b", "bb", "s", "ss", "", "j", "jj", "c", "k", "t", "p", "h"]

def vowels : List String :=
  [ "a", "ae", "ya", "yae", "eo", "e", "yeo", "ye", "o", "wa", "wae", "oe", "yo", "u", "weo", "we",
    "wi", "yu", "eu", "yi", "i" ]

def finals : List String :=
  [ "", "g", "gg", "gs", "n", "nj", "nh", "d", "l", "lg", "lm", "lb", "ls", "lt", "lp", "lh", "m",
    "b", "bs", "s", "ss", "ng", "j", "c", "k", "t", "p", "h" ]

def syllable (position : Nat) : Text :=
  [ initials[position / 588]?, vowels[position % 588 / 28]?, finals[position % 28]? ].flatMap
    fun part => (part.getD "").toList

end Transliteration

open Transliteration in
/-- Printable ASCII spells itself, wide forms their narrow ones, and what has no spelling
nothing. Control characters have none. -/
def spell (c : Char) : Text :=
  let n := c.toNat
  if n < 0x20 then []
  else if n < 0x7F then [c]
  else if 0xFF01 ≤ n && n ≤ 0xFF5E then [Char.ofNat (n - 0xFEE0)]
  else if 0xAC00 ≤ n && n ≤ 0xD7A3 then syllable (n - 0xAC00)
  else tabled c

/-- Whether a character may stay as it is in front of the first one to spell. -/
def needsNoSpelling (c : Char) : Bool := c.toNat < 0x7F

/-- Text in ASCII stays as it is, control characters with it. From the first character
that needs a spelling on, every character is spelled. -/
def transliterate (s : Text) : Text :=
  s.takeWhile needsNoSpelling ++ (s.dropWhile needsNoSpelling).flatMap spell

theorem transliterate_eq_self {s : Text} (ascii : ∀ c ∈ s, needsNoSpelling c) :
    transliterate s = s := by
  rw [transliterate]
  induction s with
  | nil => rfl
  | cons c r ih =>
    have first : needsNoSpelling c := ascii c List.mem_cons_self
    simpa [first] using ih fun d later => ascii d (List.mem_cons_of_mem c later)

end Snippet
