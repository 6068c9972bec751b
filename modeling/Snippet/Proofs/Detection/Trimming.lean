import Snippet.Proofs.Detection.Endings

/-! What trimming does to the scores of a text.

Detection trims a snippet before it looks for signals. The blanks around a word part it from
its neighbours as well as the edge of a text does, so trimming takes no signal away but the
one that needs a blank of its own.
-/

set_option autoImplicit false

namespace Snippet

variable {s gap text : Text} {previous other : Option Char}

namespace Signal

variable {signal : Signal}

theorem occursFrom_previous (same : wordBegins previous = wordBegins other) (s : Text) :
    signal.occursFrom previous s = signal.occursFrom other s := by
  cases s with
  | nil => exact startsAt_previous same
  | cons c r => rw [occursFrom_cons, occursFrom_cons, startsAt_previous same]

theorem wordBegins_getLast? (blank : ∀ c ∈ gap, isBlank c) :
    wordBegins (gap.getLast?.or none) = wordBegins none := by
  rw [Option.or_none]
  cases last : gap.getLast? with
  | none => rfl
  | some c =>
    have apart := not_isWord_of_isBlank (blank c (List.mem_of_getLast? last))
    simp [wordBegins, apart]

theorem occursIn_behind_blanks (wellFormed : signal.WellFormed) (blank : ∀ c ∈ gap, isBlank c)
    (s : Text) : signal.occursIn (gap ++ s) = signal.occursIn s := by
  rw [occursIn, occursFrom_skipped wellFormed fun c member => skipped_of_isBlank (blank c member)]
  exact occursFrom_previous (wordBegins_getLast? blank) s

theorem media_occursIn_iff :
    media.occursIn s ↔ ∃ c, isBlank c ∧ "@media".toList ++ [c] <:+: s := by
  rw [media, beforeBlank_occursIn_iff]
  constructor
  · rintro ⟨front, back, rfl, blank⟩
    obtain ⟨c, r, rfl, blank⟩ := Text.head?_any_iff.mp blank
    exact ⟨c, blank, front, r, by simp⟩
  · rintro ⟨c, blank, front, back, rfl⟩
    exact ⟨front, c :: back, by simp, blank⟩

end Signal

theorem Scores.of_behind_blanks (blank : ∀ c ∈ gap, isBlank c) (s : Text) :
    Scores.of (gap ++ s) = Scores.of s := by
  have same {signals : List Signal} (plain : ∀ signal ∈ signals, signal.WellFormed) :
      signals.countP (·.occursIn (gap ++ s)) = signals.countP (·.occursIn s) := by
    refine List.countP_congr fun signal member => ?_
    rw [Signal.occursIn_behind_blanks (plain signal member) blank]
  rw [Scores.of, Scores.of, same (by decide), same (by decide), same (by decide)]

theorem endsInSpacedMedia_iff : EndsInSpacedMedia s ↔ "@media".toList <:+ s.trim ∧
    (∃ c ∈ s.getLast?, isBlank c) ∧ ∀ c, isBlank c → ¬ "@media".toList ++ [c] <:+: s.trim := by
  rw [EndsInSpacedMedia, EndsInMedia, Signal.media_occursIn_iff, Option.any_eq_true]
  simp only [not_exists, not_and, Option.mem_def]
  constructor
  · rintro ⟨⟨ends, none⟩, trailing⟩
    exact ⟨ends, trailing, none⟩
  · rintro ⟨ends, trailing, none⟩
    exact ⟨⟨ends, none⟩, trailing⟩

theorem Scores.of_eq_trim (s : Text) :
    (Scores.of s).html = (Scores.of s.trim).html ∧
    (Scores.of s).javascript = (Scores.of s.trim).javascript ∧
    (Scores.of s).css = (Scores.of s.trim).css + if EndsInSpacedMedia s then 1 else 0 := by
  obtain ⟨gap, whole, blank⟩ := Text.exists_around_trim s
  -- The blanks in front change no score; those behind are an end that is put on the trimmed text.
  have inner : Scores.of s = Scores.of (s.trim ++ gap) := by
    conv_lhs => rw [whole]
    exact of_behind_blanks (fun c => Text.isBlank_of_mem_leadingBlanks) _
  have ending : ∀ c ∈ gap, isEnding c := fun c member => by simp [isEnding, blank c member]
  obtain ⟨html, javascript, css⟩ := of_append ending s.trim
  rw [inner]
  refine ⟨html, javascript, css.trans (congrArg _ (if_congr ?_ rfl rfl))⟩
  rw [EndsInSpacedMedia]
  refine and_congr_right fun ends => ?_
  -- A text that ends in `@media` has something visible, so the last blank is one behind it.
  have some_visible : s.trim ≠ [] := fun none => by
    rw [none] at ends
    exact absurd ends.1 (by decide)
  rw [Text.head?_behind_trim whole blank some_visible]

/-- Detection finds all signals of a text. It misses one only where the blank that an `@media`
needs is trimmed: the trimmed text ends in `@media`, blanks stand behind it, and no other
`@media` has a blank behind it. -/
theorem detect_scores_eq (code : Text) :
    let missed := "@media".toList <:+ code.trim ∧ (∃ c ∈ code.getLast?, isBlank c) ∧
      ∀ c, isBlank c → ¬ "@media".toList ++ [c] <:+: code.trim
    (detect code).scores.html = (Scores.of code).html ∧
    (detect code).scores.javascript = (Scores.of code).javascript ∧
    ((detect code).scores.css = (Scores.of code).css ↔ ¬ missed) ∧
    ((detect code).scores.css + 1 = (Scores.of code).css ↔ missed) := by
  intro missed
  obtain ⟨html, javascript, css⟩ := Scores.of_eq_trim code
  have exactly : EndsInSpacedMedia code ↔ missed := endsInSpacedMedia_iff
  rw [scores_detect, html, javascript, css, ← exactly]
  by_cases ends : EndsInSpacedMedia code
  · rw [if_pos ends]
    exact ⟨rfl, rfl, iff_of_false (by omega) (not_not_intro ends), iff_of_true rfl ends⟩
  · rw [if_neg ends]
    exact ⟨rfl, rfl, iff_of_true rfl ends, iff_of_false (by omega) ends⟩

end Snippet
