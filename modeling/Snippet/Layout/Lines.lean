import Snippet.Text.Blank
import Snippet.Text.Reader

/-! Line layout of scripts and styles: lines are broken at semicolons and braces,
however deep the braces nest. -/

set_option autoImplicit false

namespace Snippet

namespace Layout

def withBlanksAfter (mark : Char) : Reader Unit where
  read
    | c :: r => if c = mark then some ((), Text.dropBlanks r) else none
    | [] => none
  shorter := by
    intro s a rest h
    split at h
    · next c r =>
      split at h
      · cases h
        have := Text.length_dropBlanks_le r
        simp only [List.length_cons]
        omega
      · simp at h
    · simp at h

def withBlanksBefore (mark : Char) : Reader Unit where
  read s :=
    match Text.dropBlanks s with
    | c :: r => if c = mark then some ((), r) else none
    | [] => none
  shorter := by
    intro s a rest h
    have shrinks := Text.length_dropBlanks_le s
    split at h
    · next c r same =>
      split at h
      · cases h
        simp only [same, List.length_cons] at shrinks
        omega
      · simp at h
    · simp at h

/-- What follows the last line break among the blanks at the front. -/
def afterLineBreaks? : Text → Option Text
  | [] => none
  | c :: r =>
    if isBlank c then
      match afterLineBreaks? r with
      | some rest => some rest
      | none => if c = '\n' then some r else none
    else none

theorem length_of_afterLineBreaks? {s rest : Text} (h : afterLineBreaks? s = some rest) :
    rest.length < s.length := by
  induction s with
  | nil => simp [afterLineBreaks?] at h
  | cons c r ih =>
    rw [afterLineBreaks?] at h
    split at h
    · split at h
      · next found =>
        cases h
        have := ih found
        simp only [List.length_cons]
        omega
      · split at h
        · cases h
          simp
        · simp at h
    · simp at h

def emptyLines : Reader Unit where
  read
    | '\n' :: r => (afterLineBreaks? r).map fun rest => ((), rest)
    | _ => none
  shorter := by
    intro s a rest h
    split at h
    · simp only [Option.map_eq_some_iff, Prod.mk.injEq, true_and] at h
      obtain ⟨tail, found, rfl⟩ := h
      have := length_of_afterLineBreaks? found
      simp only [List.length_cons]
      omega
    · simp at h

def mergeLines (s : Text) : Text := emptyLines.replace (fun _ => ['\n']) s

end Layout

open Layout in
/-- A line ends behind a semicolon, behind an opening brace, whose next line is
indented, and before a closing brace. -/
def layOutScript (code : Text) : Text :=
  let statements := (withBlanksAfter ';').replace (fun _ => ";\n".toList) code
  let opened := (withBlanksAfter '{').replace (fun _ => "\x7b\n  ".toList) statements
  let closed := (withBlanksBefore '}').replace (fun _ => "\n\x7d".toList) opened
  Text.trim (mergeLines closed)

open Layout in
/-- One declaration on each line inside a rule, and each closing brace on its own line. -/
def layOutStyle (code : Text) : Text :=
  let opened := (withBlanksBefore '{').replace (fun _ => " \x7b\n  ".toList) code
  let declarations := (withBlanksAfter ';').replace (fun _ => ";\n  ".toList) opened
  let closed := (withBlanksBefore '}').replace (fun _ => "\n\x7d\n".toList) declarations
  Text.trim (mergeLines closed)

end Snippet
