import Snippet.Proofs.Detection.Compressed
import Snippet.Proofs.Detection.Joining
import Snippet.Proofs.Layout.Gaps

/-! Detection of snippets that are spaced anew.

Line layout does not change what a text is compressed to, so that it moves no signal that
looks past blanks. The signal that needs a blank may come, since layout keeps the gap
behind a loose character and may write one where there was none, and it may go when the
text is compressed.
-/

set_option autoImplicit false

namespace Snippet

open Signal (isLoose)
open Text (BeginsVisible EndsVisible)

variable {s t gap text : Text} {c d : Char} {front behind : Option Char}

namespace Text

theorem trim_trim (s : Text) : s.trim.trim = s.trim :=
  trim_eq_self (beginsVisible_trim s) (endsVisible_trim s)

theorem exists_gap (ends : EndsVisible (s ++ t)) (begins : t.head?.any isBlank) :
    ∃ gap d r, t = gap ++ d :: r ∧ gap ≠ [] ∧ (∀ c ∈ gap, isBlank c) ∧ isBlank d = false := by
  obtain ⟨c, r, rfl, blank⟩ := head?_any_iff.mp begins
  have parts := leadingBlanks_append_dropBlanks (c :: r)
  have blanks : ∀ d ∈ leadingBlanks (c :: r), isBlank d :=
    fun d => isBlank_of_mem_leadingBlanks
  cases behind : dropBlanks (c :: r) with
  | nil =>
    rw [behind, List.append_nil] at parts
    rw [parts] at blanks
    obtain ⟨d, last⟩ : ∃ d, (c :: r).getLast? = some d :=
      ⟨_, List.getLast?_eq_some_getLast (by simp)⟩
    have visible := ends d (List.mem_getLast?_append_of_mem_getLast? last)
    exact absurd (blanks d (List.mem_of_getLast? last)) (by simp [visible])
  | cons d tail =>
    refine ⟨leadingBlanks (c :: r), d, tail, by rw [← behind, parts], ?_, blanks, ?_⟩
    · simp [leadingBlanks, blank]
    · exact beginsVisible_dropBlanks (c :: r) d (by simp [behind])

end Text

/-! ## Gaps behind loose characters -/

namespace Layout

theorem ne_of_isLoose (loose : isLoose c) (unlike : isLoose d = false) : c ≠ d := by
  rintro rfl
  simp [loose] at unlike

namespace GapRule

variable {rule : GapRule}

/-- Loose characters stay side by side, and a gap behind one stays a gap. -/
structure KeepsGaps (rule : GapRule) : Prop where
  writesBlanks : rule.WritesBlanks
  joined : ∀ {c d : Char}, isLoose c → isLoose d → rule (some c) [] (some d) = []
  parted : ∀ {c d : Char} {gap : Text}, isLoose c → gap ≠ [] → rule (some c) gap (some d) ≠ []

theorem exists_fillFrom_visible (visible : isBlank c = false) (s r : Text) : ∃ before,
    rule.fillFrom front gap (s ++ c :: r) = before ++ c :: rule.fillFrom (some c) [] r := by
  induction s generalizing front gap with
  | nil => exact ⟨rule front gap (some c), by simp [fillFrom, visible]⟩
  | cons d s ih =>
    rw [List.cons_append, fillFrom]
    split
    · exact ih
    · obtain ⟨before, filled⟩ : ∃ before, rule.fillFrom (some d) [] (s ++ c :: r) =
          before ++ c :: rule.fillFrom (some c) [] r := ih
      exact ⟨rule front gap (some d) ++ d :: before, by simp [filled]⟩

theorem fillFrom_loose (keeps : rule.KeepsGaps) (first : isLoose c) (loose : ∀ d ∈ text, isLoose d)
    (r : Text) : ∃ d, isLoose d ∧
      rule.fillFrom (some c) [] (text ++ r) = text ++ rule.fillFrom (some d) [] r := by
  induction text generalizing c with
  | nil => exact ⟨c, first, rfl⟩
  | cons d text ih =>
    obtain ⟨next, others⟩ := List.forall_mem_cons.mp loose
    obtain ⟨last, last_loose, filled⟩ := ih next others
    refine ⟨last, last_loose, ?_⟩
    rw [List.cons_append, fillFrom, if_neg (by simp [(Signal.isLoose_iff.mp next).1]),
      keeps.joined first next, filled, List.nil_append, List.cons_append]

theorem head?_fillFrom (keeps : rule.KeepsGaps) (first : isLoose c) (blank : ∀ d ∈ gap, isBlank d)
    (some_gap : gap ≠ []) (visible : isBlank d = false) (r : Text) :
    (rule.fillFrom (some c) [] (gap ++ d :: r)).head?.any isBlank := by
  rw [fillFrom_visible blank visible]
  have written := keeps.writesBlanks (some c) (some d) gap blank
  obtain ⟨e, others, same⟩ := List.exists_cons_of_ne_nil (keeps.parted (d := d) first some_gap)
  rw [same] at written ⊢
  exact written e (by simp)

theorem script_loose (loose : isLoose c) : script (some c) gap (some d) =
    mergeLines (if d = '}' then "\n".toList else gap) := by
  have opening : c ≠ '{' := ne_of_isLoose loose rfl
  have semicolon : c ≠ ';' := ne_of_isLoose loose rfl
  simp only [script_between, opening, semicolon, if_false]

theorem style_loose (loose : isLoose c) : style (some c) gap (some d) =
    mergeLines (if d = '}' then "\n".toList else if d = '{' then [' '] else gap) := by
  have opening : c ≠ '{' := ne_of_isLoose loose rfl
  have closing : c ≠ '}' := ne_of_isLoose loose rfl
  have semicolon : c ≠ ';' := ne_of_isLoose loose rfl
  simp only [style_between, opening, closing, semicolon, if_false, List.nil_append]

theorem keepsGaps_script : script.KeepsGaps where
  writesBlanks := writesBlanks_script
  joined {c d} first second := by
    have closing : d ≠ '}' := ne_of_isLoose second rfl
    rw [script_loose first, if_neg closing, mergeLines_nil]
  parted {c d gap} first some_gap := by
    rw [script_loose first]
    refine mergeLines_ne_nil ?_
    split
    · decide
    · exact some_gap

theorem keepsGaps_style : style.KeepsGaps where
  writesBlanks := writesBlanks_style
  joined {c d} first second := by
    have closing : d ≠ '}' := ne_of_isLoose second rfl
    have opening : d ≠ '{' := ne_of_isLoose second rfl
    rw [style_loose first, if_neg closing, if_neg opening, mergeLines_nil]
  parted {c d gap} first some_gap := by
    rw [style_loose first]
    refine mergeLines_ne_nil ?_
    split
    · decide
    · split
      · decide
      · exact some_gap

end GapRule

end Layout

/-! ## The signal that needs a blank -/

open Layout (GapRule)

namespace Signal

def media : Signal := .beforeBlank "@media".toList

theorem beforeBlank_occursIn_iff : (beforeBlank text).occursIn s ↔
    ∃ front back, s = front ++ (text ++ back) ∧ back.head?.any isBlank := by
  rw [occursIn, occursFrom_iff]
  simp only [startsAt, any_after?_iff]
  constructor
  · rintro ⟨front, _, rfl, back, rfl, blank⟩
    exact ⟨front, back, rfl, blank⟩
  · rintro ⟨front, back, rfl, blank⟩
    exact ⟨front, _, rfl, back, rfl, blank⟩

/-- A layout drops only the blanks at the ends, and so keeps the blank that the signal needs. -/
theorem beforeBlank_fill {rule : GapRule} (keeps : rule.KeepsGaps)
    (wellFormed : (beforeBlank text).WellFormed) (occurs : (beforeBlank text).occursIn s.trim) :
    (beforeBlank text).occursIn (rule.fill s) := by
  obtain ⟨front, back, inside, blank⟩ := beforeBlank_occursIn_iff.mp occurs
  have ends := Text.endsVisible_trim s
  rw [inside, ← List.append_assoc] at ends
  obtain ⟨gap, d, r, rfl, some_gap, blanks, visible⟩ := Text.exists_gap ends blank
  obtain ⟨trailing, whole, -⟩ := Text.exists_around_trim s
  obtain ⟨some_text, loose⟩ := wellFormed
  obtain ⟨m, ms, rfl⟩ := List.exists_cons_of_ne_nil some_text
  obtain ⟨first, others⟩ := List.forall_mem_cons.mp loose
  have parts : s = s.leadingBlanks ++ front ++ m :: (ms ++ (gap ++ d :: (r ++ trailing))) := by
    conv_lhs => rw [whole, inside]
    simp
  obtain ⟨before, filled⟩ : ∃ before,
      rule.fill (s.leadingBlanks ++ front ++ m :: (ms ++ (gap ++ d :: (r ++ trailing)))) =
        before ++ m :: rule.fillFrom (some m) [] (ms ++ (gap ++ d :: (r ++ trailing))) :=
    GapRule.exists_fillFrom_visible (isLoose_iff.mp first).1 _ _
  obtain ⟨last, last_loose, spelled⟩ := GapRule.fillFrom_loose keeps first others
    (gap ++ d :: (r ++ trailing))
  refine beforeBlank_occursIn_iff.mpr ⟨before, _, ?_,
    GapRule.head?_fillFrom keeps last_loose blanks some_gap visible (r ++ trailing)⟩
  conv_lhs => rw [parts]
  rw [filled, spelled, List.cons_append]

end Signal

/-! ## Scores -/

namespace Scores

open Signal (media)

/-- The other scores are the same, except that there may be one more signal of a style. -/
structure MayGainStyle (scores other : Scores) : Prop where
  html : other.html = scores.html
  javascript : other.javascript = scores.javascript
  css : other.css = scores.css ∨ other.css = scores.css + 1

theorem css_of (s : Text) : (Scores.of s).css =
    (Signal.ofCss.filter fun signal => !signal.needsBlank).countP (·.occursIn s) +
      if media.occursIn s then 1 else 0 := by
  have one : (Signal.ofCss.filter fun signal => !!signal.needsBlank) = [media] := by decide
  have parts := List.countP_eq_countP_filter_add Signal.ofCss (·.occursIn s)
    fun signal => !signal.needsBlank
  rwa [one, List.countP_singleton] at parts

theorem countP_of_compress_eq {signals : List Signal} (same : compress s = compress t)
    (plain : ∀ signal ∈ signals, signal.WellFormed ∧ signal.needsBlank = false) :
    signals.countP (·.occursIn t) = signals.countP (·.occursIn s) := by
  refine List.countP_congr fun signal member => ?_
  obtain ⟨wellFormed, blankless⟩ := plain signal member
  rw [← Signal.occursIn_compress wellFormed blankless t, ← same,
    Signal.occursIn_compress wellFormed blankless s]

theorem mayGainStyle_of_compress_eq (same : compress s = compress t)
    (kept : media.occursIn s → media.occursIn t) :
    (Scores.of s).MayGainStyle (Scores.of t) where
  html := countP_of_compress_eq same (by decide)
  javascript := countP_of_compress_eq same (by decide)
  css := by
    have others : (Signal.ofCss.filter fun signal => !signal.needsBlank).countP (·.occursIn t) =
        (Signal.ofCss.filter fun signal => !signal.needsBlank).countP (·.occursIn s) :=
      countP_of_compress_eq same (by decide)
    have before := css_of s
    have after := css_of t
    rw [others] at after
    by_cases here : media.occursIn s
    · rw [if_pos here] at before
      rw [if_pos (kept here)] at after
      omega
    · rw [if_neg here] at before
      split at after <;> omega

theorem max_cases (scores : Scores) :
    (scores.html ≤ scores.max ∧ scores.javascript ≤ scores.max ∧ scores.css ≤ scores.max) ∧
      (scores.max = scores.html ∨ scores.max = scores.javascript ∨ scores.max = scores.css) := by
  simp only [max, Nat.max_def]
  split <;> split <;> omega

/-- A style has no signal of markup, and in a tie a script wins. -/
theorem classify_eq_css {scores : Scores} :
    scores.classify = .css ↔ scores.html = 0 ∧ scores.javascript < scores.css := by
  have bounds := max_cases scores
  rw [classify]
  repeat' split
  all_goals
    simp only [reduceCtorEq, true_iff, false_iff]
    omega

end Scores

theorem scores_detect (s : Text) : (detect s).scores = Scores.of s.trim := by
  rcases detect_cases s with ⟨blank, alone⟩ | ⟨-, alone⟩
  · rw [alone, blank]
    decide
  · rw [alone]

theorem category_eq_css : Category.of s = .css ↔
    (detect s).scores.html = 0 ∧ (detect s).scores.javascript < (detect s).scores.css := by
  rw [← Scores.classify_eq_css]
  rcases detect_cases s with ⟨-, alone⟩ | ⟨-, alone⟩
  · rw [Category.of, alone]
    decide
  · rw [Category.of, alone]

theorem detect_fill {rule : GapRule} (keeps : rule.KeepsGaps)
    (same : compress (rule.fill s) = compress s)
    (trimmed : (rule.fill s).trim = rule.fill s) :
    (detect s).scores.MayGainStyle (detect (rule.fill s)).scores := by
  rw [scores_detect, scores_detect, trimmed]
  refine Scores.mayGainStyle_of_compress_eq ?_ fun occurs => ?_
  · rw [Compression.compress_trim, same]
  · exact Signal.beforeBlank_fill keeps (by decide) occurs

theorem detect_compress (code : Text) :
    (detect (compress code)).scores.MayGainStyle (detect code).scores := by
  have compressed := Compression.isCompressed_compress code
  have again : compress (compress code) = compress code.trim := by
    rw [compressed.compress_eq_self, Compression.compress_trim]
  rw [scores_detect, scores_detect, Text.trim_eq_self compressed.begins compressed.ends]
  refine Scores.mayGainStyle_of_compress_eq again fun occurs => ?_
  rw [← Compression.compress_trim] at occurs
  exact Signal.occursIn_of_compress (by decide) occurs

theorem layOutStyle_of_css (style : Category.of s = .css) : layOut .auto s = layOutStyle s := by
  rw [layOut, Target.resolve, style, layOutAs]

/-- Layout of lines and compression leave the scores as they are, except that layout may bring
one signal of a style and compression may take it away. So a style stays one when it is laid
out, and a second layout changes nothing in it. -/
theorem detect_respaced (code : Text) :
    (detect code).scores.MayGainStyle (detect (layOutScript code)).scores ∧
    (detect code).scores.MayGainStyle (detect (layOutStyle code)).scores ∧
    (detect (compress code)).scores.MayGainStyle (detect code).scores ∧
    (Category.of code = .css → Category.of (layOutStyle code) = .css ∧
      layOut .auto (layOut .auto code) = layOut .auto code) := by
  have script : (detect code).scores.MayGainStyle (detect (layOutScript code)).scores := by
    have same := ignoresSpacing_compress.view_layOutScript code
    have trimmed : (layOutScript code).trim = layOutScript code := Text.trim_trim _
    rw [Layout.layOutScript_eq_fill] at same trimmed ⊢
    exact detect_fill GapRule.keepsGaps_script same trimmed
  have style : (detect code).scores.MayGainStyle (detect (layOutStyle code)).scores := by
    have same := ignoresSpacing_compress.view_layOutStyle code
    have trimmed : (layOutStyle code).trim = layOutStyle code := Text.trim_trim _
    rw [Layout.layOutStyle_eq_fill] at same trimmed ⊢
    exact detect_fill GapRule.keepsGaps_style same trimmed
  refine ⟨script, style, detect_compress code, fun isStyle => ?_⟩
  have stays : Category.of (layOutStyle code) = .css := by
    obtain ⟨none, fewer⟩ := category_eq_css.mp isStyle
    refine category_eq_css.mpr ⟨style.html.trans none, ?_⟩
    rw [style.javascript]
    rcases style.css with same | more <;> omega
  refine ⟨stays, ?_⟩
  rw [layOutStyle_of_css isStyle, layOutStyle_of_css stays, Layout.layOutStyle_eq_fill,
    Layout.layOutStyle_eq_fill]
  exact GapRule.fill_fill_of_stable GapRule.writesBlanks_style GapRule.stable_style code

theorem detect_respaced_media :
    let code := "@media{a:b}".toList
    Category.of code = .css ∧ Category.of (layOutStyle code) = .css ∧
      layOut .auto (layOut .auto code) = layOut .auto code := by
  intro code
  have isStyle : Category.of code = .css := by decide +kernel
  exact ⟨isStyle, (detect_respaced code).2.2.2 isStyle⟩

end Snippet
