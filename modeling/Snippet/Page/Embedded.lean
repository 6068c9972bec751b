import Snippet.Text.Reader
import Snippet.Text.Word

/-! Styles and scripts embedded in a page. -/

set_option autoImplicit false

namespace Snippet

inductive Embedded where
  | style
  | script
  deriving DecidableEq, Repr

structure Block where
  opening : Text
  body : Text
  closing : Text
  deriving DecidableEq, Repr

def Block.text (block : Block) : Text := block.opening ++ block.body ++ block.closing

namespace Embedded

def tagName : Embedded → Text
  | style => "style".toList
  | script => "script".toList

/-- The opening tag at the front, and what follows it. The name may be in any ASCII
case and be only the beginning of a longer one; the tag ends at the next `>`. -/
def opening? (kind : Embedded) : Text → Option (Text × Text)
  | '<' :: r =>
    match Text.afterName? kind.tagName r with
    | none => none
    | some behind =>
      match behind.dropWhile (· != '>') with
      | '>' :: rest =>
        some ('<' :: r.take kind.tagName.length ++ behind.takeWhile (· != '>') ++ ['>'], rest)
      | _ => none
  | _ => none

def closing? (kind : Embedded) : Text → Option (Text × Text)
  | '<' :: '/' :: r =>
    match Text.afterName? kind.tagName r with
    | some ('>' :: rest) => some ('<' :: '/' :: r.take kind.tagName.length ++ ['>'], rest)
    | _ => none
  | _ => none

theorem eq_append_of_opening? {kind : Embedded} {s tag rest : Text}
    (h : kind.opening? s = some (tag, rest)) : s = tag ++ rest := by
  unfold opening? at h
  split at h
  · next r =>
    split at h
    · simp at h
    · next behind found =>
      split at h
      · next tail same =>
        cases h
        have parts := List.takeWhile_append_dropWhile (p := (· != '>')) (l := behind)
        rw [same] at parts
        have whole := Text.eq_append_of_afterName? found
        rw [← parts] at whole
        simpa using whole
      · simp at h
  · simp at h

theorem eq_append_of_closing? {kind : Embedded} {s tag rest : Text}
    (h : kind.closing? s = some (tag, rest)) : s = tag ++ rest := by
  unfold closing? at h
  split at h
  · next r =>
    split at h
    · next tail found =>
      cases h
      have whole := Text.eq_append_of_afterName? found
      simpa using whole
    · simp at h
  · simp at h

/-- An opening tag and everything up to the first closing tag behind it. -/
def block (kind : Embedded) : Reader Block where
  read s :=
    match kind.opening? s with
    | none => none
    | some (opening, inner) =>
      match Text.cutAt? (fun t => (kind.closing? t).map (·.2)) inner with
      | none => none
      | some (body, rest) =>
        let closing := (inner.drop body.length).take (inner.length - body.length - rest.length)
        some (⟨opening, body, closing⟩, rest)
  shorter := by
    intro s a rest h
    split at h
    · simp at h
    · next opening inner opened =>
      have whole := eq_append_of_opening? opened
      split at h
      · simp at h
      · next body tail cut =>
        cases h
        obtain ⟨t, same, closed⟩ := Text.eq_append_of_cutAt? cut
        simp only [Option.map_eq_some_iff, Prod.exists, exists_eq_right] at closed
        obtain ⟨closing, closed⟩ := closed
        have parts := eq_append_of_closing? closed
        have some_tag : closing ≠ [] := by
          intro none_left
          subst none_left
          unfold closing? at closed
          split at closed
          · split at closed
            · simp at closed
            · simp at closed
          · simp at closed
        have := List.length_pos_iff.mpr some_tag
        subst parts same whole
        simp only [List.length_append]
        omega

def tag (kind : Embedded) : Reader Text where
  read s := (kind.opening? s).or (kind.closing? s)
  shorter := by
    intro s a rest h
    cases s with
    | nil => simp [opening?, closing?] at h
    | cons c r =>
      cases opened : kind.opening? (c :: r) with
      | some found =>
        simp only [opened, Option.some_or, Option.some.injEq] at h
        subst h
        have whole := eq_append_of_opening? opened
        unfold opening? at opened
        split at opened
        · split at opened
          · simp at opened
          · split at opened
            · cases opened
              rw [whole]
              simp only [List.length_append, List.length_cons]
              omega
            · simp at opened
        · simp at opened
      | none =>
        simp only [opened, Option.none_or] at h
        have whole := eq_append_of_closing? h
        unfold closing? at h
        split at h
        · split at h
          · cases h
            rw [whole]
            simp only [List.length_append, List.length_cons]
            omega
          · simp at h
        · simp at h

end Embedded

end Snippet
