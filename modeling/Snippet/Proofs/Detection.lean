import Snippet.Detection
import Snippet.Proofs.Blanks

/-! When a snippet is taken for markup. -/

set_option autoImplicit false

namespace Snippet

variable {s : Text}

theorem Scores.isMarkup_classify (scores : Scores) :
    scores.classify.isMarkup ↔ 0 < scores.html := by
  obtain ⟨html, javascript, css⟩ := scores
  simp only [classify, max, Nat.max_def]
  by_cases markup : 0 < html
  · simp only [markup, true_and, iff_true]
    repeat' split
    all_goals first | rfl | omega
  · simp only [markup, false_and, if_false, iff_false]
    repeat' split
    all_goals first | decide | omega

namespace Signal

theorem startsAt_tag {name : Text} {previous : Option Char} :
    (tag name).startsAt previous s ↔ ∃ written behind,
      s = '<' :: written ++ behind ∧ Text.lower written = name ∧ behind.wordEnds := by
  constructor
  · intro starts
    simp only [startsAt] at starts
    split at starts
    · obtain ⟨behind, found, ends⟩ := (Option.any_eq_true _ _).mp starts
      obtain ⟨written, rfl, same⟩ := Text.afterName?_eq_some.mp found
      exact ⟨written, behind, rfl, same, ends⟩
    · simp at starts
  · rintro ⟨written, behind, rfl, same, ends⟩
    have found : Text.afterName? name (written ++ behind) = some behind :=
      Text.afterName?_eq_some.mpr ⟨written, rfl, same⟩
    simp [startsAt, found, ends]

theorem occursFrom_iff {signal : Signal} {previous : Option Char} :
    signal.occursFrom previous s ↔ ∃ front back,
      s = front ++ back ∧ signal.startsAt (front.getLast?.or previous) back := by
  induction s generalizing previous with
  | nil => simp [occursFrom]
  | cons c r ih =>
    rw [occursFrom, Bool.or_eq_true, ih]
    constructor
    · rintro (starts | ⟨front, back, rfl, starts⟩)
      · exact ⟨[], c :: r, rfl, starts⟩
      · refine ⟨c :: front, back, rfl, ?_⟩
        rw [List.getLast?_cons]
        cases last : front.getLast? <;> simpa [last] using starts
    · rintro ⟨front, back, whole, starts⟩
      cases front with
      | nil => exact .inl (by simpa [whole] using starts)
      | cons d front =>
        obtain ⟨rfl, rfl⟩ := List.cons.inj whole
        refine .inr ⟨front, back, rfl, ?_⟩
        rw [List.getLast?_cons] at starts
        cases last : front.getLast? <;> simpa [last] using starts

theorem tag_occursFrom_iff {name : Text} {previous : Option Char} :
    (tag name).occursFrom previous s ↔ ∃ before written behind,
      s = before ++ ('<' :: written ++ behind) ∧ Text.lower written = name ∧ behind.wordEnds := by
  rw [occursFrom_iff]
  simp only [startsAt_tag]
  constructor
  · rintro ⟨before, _, rfl, written, behind, rfl, found⟩
    exact ⟨before, written, behind, rfl, found⟩
  · rintro ⟨before, written, behind, rfl, found⟩
    exact ⟨before, _, rfl, written, behind, rfl, found⟩

end Signal

theorem isMarkup_of_signal {signal : Signal} (member : signal ∈ Signal.ofHtml)
    (occurs : signal.occursIn s.trim) (some_text : s.trim ≠ []) : (Category.of s).isMarkup := by
  have visible : s.trim.isEmpty = false := by simpa using some_text
  simp only [Category.of, detect, visible, Bool.false_eq_true, if_false]
  rw [Scores.isMarkup_classify]
  exact List.countP_pos_iff.mpr ⟨signal, member, occurs⟩

/-- A text with a tag in it is markup, if the name is a signal and ends in a visible character. -/
theorem isMarkup_of_tag {name before written behind : Text}
    (member : Signal.tag name ∈ Signal.ofHtml) (same : Text.lower written = name)
    (visible : Text.EndsVisible ('<' :: written)) (ends : behind.wordEnds) :
    (Category.of (before ++ ('<' :: written ++ behind))).isMarkup := by
  have begins : Text.BeginsVisible ('<' :: written) := by
    intro c first
    obtain rfl : '<' = c := by simpa using first
    decide
  have trimmed := Text.trim_append begins visible (by simp) before behind
  refine isMarkup_of_signal member ?_ (by rw [trimmed]; simp)
  rw [trimmed]
  refine Signal.tag_occursFrom_iff.mpr ⟨_, written, _, rfl, same, ?_⟩
  -- What is trimmed behind the name begins as before or is gone.
  obtain ⟨back, whole⟩ := Text.isPrefix_dropTrailingBlanks behind
  cases kept : behind.dropTrailingBlanks with
  | nil => rfl
  | cons c r =>
    rw [kept] at whole
    rw [← whole] at ends
    exact ends

theorem not_allBlank_of_isMarkup (markup : (Category.of s).isMarkup) : ¬ Text.allBlank s := by
  intro blank
  have dropped := Text.dropBlanks_append_of_blank (List.all_eq_true.mp blank) []
  rw [List.append_nil] at dropped
  have trimmed : s.trim = [] := by
    rw [Text.trim, dropped]
    rfl
  rw [Category.of, detect, trimmed] at markup
  exact absurd markup (by decide)

end Snippet
