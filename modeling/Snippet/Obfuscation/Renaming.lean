import Snippet.Text.Blank
import Snippet.Text.Units
import Snippet.Text.Word
import Snippet.Text.Reader

/-! Renaming of declared variables to single letters.

Only the name in the declaration is changed; where the variable is used, the old
name stays. -/

set_option autoImplicit false

namespace Snippet

inductive Keyword where
  | var
  | let_
  | const
  deriving DecidableEq, Repr

def Keyword.text : Keyword → Text
  | .var => "var".toList
  | .let_ => "let".toList
  | .const => "const".toList

def Keyword.read? (s : Text) : Option (Keyword × Text) :=
  [Keyword.var, .let_, .const].findSome? fun keyword =>
    (Text.after? keyword.text s).map fun rest => (keyword, rest)

theorem Keyword.eq_append_of_read? {s rest : Text} {keyword : Keyword}
    (h : Keyword.read? s = some (keyword, rest)) : s = keyword.text ++ rest := by
  obtain ⟨found, _, h⟩ := List.exists_of_findSome?_eq_some h
  simp only [Option.map_eq_some_iff, Prod.mk.injEq] at h
  obtain ⟨tail, behind, rfl, rfl⟩ := h
  exact Text.after?_eq_some.mp behind

structure Declaration where
  keyword : Keyword
  gap : Text
  name : Text
  deriving DecidableEq, Repr

namespace Declaration

def text (declaration : Declaration) : Text :=
  declaration.keyword.text ++ declaration.gap ++ declaration.name

def read? (s : Text) : Option (Declaration × Text) :=
  match Keyword.read? s with
  | none => none
  | some (keyword, behind) =>
    let gap := Text.leadingBlanks behind
    let rest := Text.dropBlanks behind
    let name := Text.takeWord rest
    if gap.isEmpty || name.isEmpty then none else some (⟨keyword, gap, name⟩, Text.dropWord rest)

theorem eq_append_of_read? {s rest : Text} {declaration : Declaration}
    (h : read? s = some (declaration, rest)) : s = declaration.text ++ rest := by
  unfold read? at h
  split at h
  · simp at h
  · next keyword behind found =>
    dsimp only at h
    split at h
    · simp at h
    · cases h
      rw [Keyword.eq_append_of_read? found]
      simp only [text, List.append_assoc, Text.takeWord_append_dropWord,
        Text.leadingBlanks_append_dropBlanks]

/-- A declaration behind a character that belongs to no word, which is given with it. -/
def afterBoundary : Reader (Char × Declaration) where
  read
    | c :: r =>
      if isWord c then none else (read? r).map fun (declaration, rest) => ((c, declaration), rest)
    | [] => none
  shorter := by
    intro s a rest h
    split at h
    · split at h
      · simp at h
      · simp only [Option.map_eq_some_iff, Prod.mk.injEq, Prod.exists] at h
        obtain ⟨declaration, tail, found, rfl, rfl⟩ := h
        rw [eq_append_of_read? found]
        simp only [List.length_cons, List.length_append]
        omega
    · simp at h

end Declaration

/-- The names given letters so far, in the order in which they were first seen. -/
structure NameTable where
  names : List Text
  deriving DecidableEq, Repr

namespace NameTable

def empty : NameTable := ⟨[]⟩

def size (table : NameTable) : Nat := table.names.length

def isEmpty (table : NameTable) : Bool := table.names.isEmpty

def letter (position : Nat) : Char := Char.ofNat ('a'.toNat + position % 26)

/-- The letter of a name, which is entered if it is new. Names of at most one byte
keep their name. -/
def assign (table : NameTable) (name : Text) : Option Char × NameTable :=
  if Text.bytes name ≤ 1 then (none, table)
  else
    match table.names.idxOf? name with
    | some position => (some (letter position), table)
    | none => (some (letter table.size), ⟨table.names ++ [name]⟩)

end NameTable

namespace Declaration

def rename (table : NameTable) (declaration : Declaration) : Text × NameTable :=
  let (letter?, next) := table.assign declaration.name
  let name :=
    match letter? with
    | some letter => [letter]
    | none => declaration.name
  (declaration.keyword.text ++ ' ' :: name, next)

def renameAfterBoundary (table : NameTable) : Char × Declaration → Text × NameTable
  | (boundary, declaration) =>
    let (text, next) := declaration.rename table
    (boundary :: text, next)

end Declaration

/-- Every declaration renamed, letters given in order. A declaration stands at the
beginning of the text or behind a character that belongs to no word. -/
def renameVariables (code : Text) : Text :=
  let behind (table : NameTable) (s : Text) :=
    Segment.renderWith Declaration.renameAfterBoundary table (Declaration.afterBoundary.segments s)
  match Declaration.read? code with
  | some (declaration, rest) =>
    let (text, table) := declaration.rename .empty
    text ++ behind table rest
  | none => behind .empty code

end Snippet
