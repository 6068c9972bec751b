import Snippet.Text.Blank
import Snippet.Text.Reader

/-! Line layout of markup: every tag ends a line, and the tags inside block elements
are indented. -/

set_option autoImplicit false

namespace Snippet

namespace Layout

/-- Blanks between the end of a tag and the beginning of the next one, with both
angle brackets. -/
def blanksBetweenTags : Reader Unit where
  read
    | '>' :: c :: r =>
      if isBlank c then
        match Text.dropBlanks r with
        | '<' :: rest => some ((), rest)
        | _ => none
      else none
    | _ => none
  shorter := by
    intro s a rest h
    split at h
    · next c r =>
      have shrinks := Text.length_dropBlanks_le r
      split at h
      · split at h
        · next same =>
          cases h
          simp only [same, List.length_cons] at shrinks ⊢
          omega
        · simp at h
      · simp at h
    · simp at h

/-- An angle bracket, at least one other character, and the first closing bracket
behind it. The meaning is the whole tag. -/
def tag : Reader Text where
  read
    | '<' :: r =>
      let inner := r.takeWhile (· != '>')
      match r.dropWhile (· != '>') with
      | '>' :: rest => if inner.isEmpty then none else some ('<' :: inner ++ ['>'], rest)
      | _ => none
    | _ => none
  shorter := by
    intro s a rest h
    split at h
    · next r =>
      have shrinks := (List.dropWhile_sublist (· != '>') (l := r)).length_le
      dsimp only at h
      split at h
      · next same =>
        split at h
        · simp at h
        · cases h
          simp only [same, List.length_cons] at shrinks ⊢
          omega
      · simp at h
    · simp at h

def blockNames : List Text :=
  [ "html".toList, "head".toList, "body".toList, "div".toList, "section".toList,
    "article".toList, "ul".toList, "ol".toList, "table".toList, "form".toList ]

def closesBlock (tag : Text) : Bool :=
  Text.anyEnd (fun s => blockNames.any fun name =>
    (Text.after? ("</".toList ++ name ++ ['>']) s).isSome) tag

/-- A tag in which a name begins like that of a block element. -/
def opensBlock (tag : Text) : Bool :=
  Text.anyEnd (fun s => blockNames.any fun name =>
    (Text.after? ('<' :: name) s).any fun rest => rest.contains '>') tag

def indentation (depth : Nat) : Text := List.replicate (2 * depth) ' '

/-- The line of a tag at a depth, and the depth behind it. The depth never falls
below zero. -/
def tagLine (depth : Nat) (tag : Text) : Text × Nat :=
  let own := if closesBlock tag then depth - 1 else depth
  (indentation own ++ tag ++ ['\n'], if opensBlock tag then own + 1 else own)

end Layout

open Layout in
/-- Each tag is indented by its depth and ends its line; text between tags stays as
it is, blanks alone are dropped. -/
def layOutMarkup (code : Text) : Text :=
  let joined := blanksBetweenTags.replace (fun _ => "><".toList) code
  Text.trim (Segment.renderWith tagLine 0 (tag.segments joined))

end Snippet
