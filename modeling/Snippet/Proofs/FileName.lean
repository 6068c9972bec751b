import Snippet.FileName
import Snippet.Page

/-! Names that were made safe.

A resolved name is made of few characters and ends in the extension of the name it
replaces. So it is one component of a path, it holds no part of a tag, and names for
different parts of a page differ even where case does not count.
-/

set_option autoImplicit false

namespace Snippet

namespace Text

variable {s before after : Text} {separator : Char}

theorem cutLast?_eq_some (h : cutLast? separator s = some (before, after)) :
    s = before ++ separator :: after := by
  rw [cutLast?] at h
  split at h
  · next holds =>
    simp only [Option.some.injEq, Prod.mk.injEq] at h
    obtain ⟨rfl, rfl⟩ := h
    -- What stands in front of the last part ends in the separator.
    have parts := List.takeWhile_append_dropWhile (p := (· != separator)) (l := s.reverse)
    have stopped := List.head?_dropWhile_not (· != separator) s.reverse
    cases tail : s.reverse.dropWhile (· != separator) with
    | nil =>
      rw [tail, List.append_nil] at parts
      have member : separator ∈ s.reverse := by simpa using holds
      rw [← parts] at member
      simpa using List.all_eq_true.mp List.all_takeWhile _ member
    | cons c front =>
      rw [tail] at stopped parts
      obtain rfl : c = separator := by simpa using stopped
      have whole : s = front.reverse ++ c :: (s.reverse.takeWhile (· != c)).reverse := by
        rw [← List.reverse_inj, ← parts]
        simp [parts]
      generalize (s.reverse.takeWhile (· != c)).reverse = last at whole ⊢
      subst whole
      have size : (front.reverse ++ c :: last).length - last.length - 1 = front.reverse.length := by
        simp only [List.length_append, List.length_cons]
        omega
      rw [size, List.take_left]
  · simp at h

end Text

namespace FileName

variable {spelled : Text → Text} {c : Char} {s name configured wanted : Text} {part : Part}

def isNameChar (c : Char) : Bool := isKept c || c == '-'

theorem isNameChar_of_mem_clean {afterHyphen : Bool} (member : c ∈ clean afterHyphen s) :
    isNameChar c := by
  induction s generalizing afterHyphen with
  | nil => simp [clean] at member
  | cons d r ih =>
    rw [clean] at member
    split at member
    · split at member
      · exact ih member
      · rcases List.mem_cons.mp member with rfl | member
        · rfl
        · exact ih member
    · split at member
      · next kept =>
        rcases List.mem_cons.mp member with rfl | member
        · simp [isNameChar, kept]
        · exact ih member
      · exact ih member

theorem mem_of_mem_trimEdges (member : c ∈ trimEdges s) : c ∈ s := by
  have inner := (List.dropWhile_sublist isEdge).subset (List.mem_reverse.mp member)
  exact (List.dropWhile_sublist isEdge).subset (List.mem_reverse.mp inner)

theorem isNameChar_of_mem_ofSpelling (member : c ∈ ofSpelling s) : isNameChar c := by
  have trimmed (member : c ∈ trimEdges (clean false s)) : isNameChar c :=
    isNameChar_of_mem_clean (mem_of_mem_trimEdges member)
  rw [ofSpelling, guard] at member
  split at member
  · rcases List.mem_cons.mp member with rfl | member
    · rfl
    · exact trimmed member
  · exact trimmed member

theorem isNameChar_of_mem_defaultName (member : c ∈ part.defaultName) : isNameChar c := by
  have all : part.defaultName.all isNameChar := by cases part <;> rfl
  exact List.all_eq_true.mp all c member

theorem resolveBy_eq_ok {default : Text} : resolveBy spelled configured default = .ok name ↔
    name = sanitizeBy spelled configured default ∧
      (extension default ≠ [] → hasExtension name (extension default)) ∧
      Text.bytes name ≤ maxBytes := by
  simp only [resolveBy, checkLength]
  constructor
  · intro resolved
    split at resolved
    · cases resolved
    · next extended =>
      split at resolved
      · cases resolved
      · next short =>
        obtain rfl : sanitizeBy spelled configured default = name := Except.ok.inj resolved
        refine ⟨rfl, fun some_extension => ?_, Nat.le_of_not_lt short⟩
        simpa [some_extension] using extended
  · rintro ⟨rfl, extended, short⟩
    rw [if_neg, if_neg (Nat.not_lt_of_le short)]
    · rfl
    · simpa using extended

section
variable (resolved : resolveBy spelled configured part.defaultName = .ok name)
include resolved

theorem isNameChar_of_resolve : ∀ c ∈ name, isNameChar c := by
  intro c member
  rw [(resolveBy_eq_ok.mp resolved).1, sanitizeBy] at member
  split at member
  · exact isNameChar_of_mem_defaultName member
  · exact isNameChar_of_mem_ofSpelling member

theorem hasExtension_of_resolve : hasExtension name (extension part.defaultName) :=
  (resolveBy_eq_ok.mp resolved).2.1 (by cases part <;> decide)

end

theorem exists_stem_of_hasExtension (extended : hasExtension name wanted) :
    ∃ stem last : Text, name = stem ++ '.' :: last ∧ stem ≠ [] ∧ last.lower = wanted.lower := by
  rw [hasExtension] at extended
  split at extended
  · next stem last cut =>
    simp only [Bool.and_eq_true, Bool.not_eq_true', List.isEmpty_eq_false_iff,
      Text.sameLetters, beq_iff_eq] at extended
    exact ⟨stem, last, Text.cutLast?_eq_some cut, extended⟩
  · simp at extended

theorem lower_ne_of_resolve {other : Part} {asked second : Text} (different : part ≠ other)
    (resolved : resolve configured part.defaultName = .ok name)
    (resolvedOther : resolve asked other.defaultName = .ok second) : name.lower ≠ second.lower := by
  have ending {part : Part} {asked name : Text}
      (resolved : resolve asked part.defaultName = .ok name) :
      '.' :: (extension part.defaultName).lower <:+ name.lower := by
    obtain ⟨stem, last, rfl, -, same⟩ :=
      exists_stem_of_hasExtension (hasExtension_of_resolve resolved)
    refine ⟨stem.lower, ?_⟩
    rw [← same]
    simp [Text.lower]
  intro same
  rcases List.suffix_or_suffix_of_suffix (ending resolved) (same ▸ ending resolvedOther) with
    within | within
  all_goals
    revert within
    cases part <;> cases other <;> first | exact absurd rfl different | decide

/-- A name that leads from a directory to what stands in it. -/
structure IsComponent (name : Text) : Prop where
  some_text : name ≠ []
  slashless : '/' ∉ name
  not_here : name ≠ ['.']
  not_above : name ≠ ['.', '.']

theorem isComponent_of_resolve (resolved : resolve configured part.defaultName = .ok name) :
    IsComponent name := by
  obtain ⟨stem, last, rfl, some_stem, same⟩ :=
    exists_stem_of_hasExtension (hasExtension_of_resolve resolved)
  -- The extension has more letters than the dots of a step to where one is, or up.
  have size : 2 ≤ last.length := by
    have lengths := congrArg List.length same
    simp only [Text.lower, List.length_map] at lengths
    rw [lengths]
    cases part <;> decide
  refine ⟨by simp, fun member => ?_, fun here => ?_, fun above => ?_⟩
  · exact absurd (isNameChar_of_resolve resolved _ member) (by decide)
  · have lengths := congrArg List.length here
    simp only [List.length_append, List.length_cons, List.length_nil] at lengths
    omega
  · have lengths := congrArg List.length above
    simp only [List.length_append, List.length_cons, List.length_nil] at lengths
    omega

end FileName

end Snippet
