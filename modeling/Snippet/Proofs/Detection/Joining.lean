import Snippet.Proofs.Compression.Spacing
import Snippet.Proofs.Detection

/-! Detection of snippets that are joined.

A signal that ends at the end of a text ends there also before a blank, and one that
begins at the front of a text begins there also behind a blank. So a text that stands
between blanks in a longer one keeps its signals, whatever is trimmed around it.
-/

set_option autoImplicit false

namespace Snippet

variable {s t front back : Text} {c : Char} {previous : Option Char}

namespace Text

def BeginsBlank (s : Text) : Prop := ∀ c ∈ s.head?, isBlank c

def EndsBlank (s : Text) : Prop := ∀ c ∈ s.getLast?, isBlank c

theorem BeginsBlank.of_front (begins : BeginsBlank t) (first : s <+: t) : BeginsBlank s := by
  obtain ⟨rest, rfl⟩ := first
  intro c front
  exact begins c (List.mem_head?_append_of_mem_head? front)

theorem EndsBlank.of_end (ends : EndsBlank t) (tail : s <:+ t) : EndsBlank s := by
  obtain ⟨front, rfl⟩ := tail
  intro c last
  exact ends c (List.mem_getLast?_append_of_mem_getLast? last)

theorem BeginsBlank.behind_blanks (begins : BeginsBlank back) {gap : Text}
    (blank : ∀ c ∈ gap, isBlank c) : BeginsBlank (gap ++ back) := by
  cases gap with
  | nil => exact begins
  | cons d gap =>
    rintro c front
    cases front
    exact blank d (by simp)

theorem EndsBlank.before_blanks (ends : EndsBlank front) {gap : Text}
    (blank : ∀ c ∈ gap, isBlank c) : EndsBlank (front ++ gap) := by
  intro c last
  by_cases none : gap = []
  · exact ends c (by simpa [none] using last)
  · rw [List.getLast?_append_of_ne_nil _ none] at last
    exact blank c (List.mem_of_getLast? last)

theorem exists_trim_inside (some_text : s.trim ≠ []) (ends : EndsBlank front)
    (begins : BeginsBlank back) : ∃ before behind,
      (front ++ (s ++ back)).trim = before ++ (s.trim ++ behind) ∧
        EndsBlank before ∧ BeginsBlank behind := by
  obtain ⟨gap, whole, blank⟩ := exists_around_trim s
  have parts : front ++ (s ++ back) = front ++ s.leadingBlanks ++ (s.trim ++ (gap ++ back)) := by
    conv_lhs => rw [whole]
    simp
  have trimmed := trim_append (beginsVisible_trim s) (endsVisible_trim s) some_text
    (front ++ s.leadingBlanks) (gap ++ back)
  refine ⟨_, _, parts ▸ trimmed, ?_, ?_⟩
  · exact (ends.before_blanks fun _ => isBlank_of_mem_leadingBlanks).of_end (dropBlanks_suffix _)
  · exact (begins.behind_blanks blank).of_front (isPrefix_dropTrailingBlanks _)

/-! ## Marks at the front of a longer text -/

theorem wordEnds_append (ends : s.wordEnds) (begins : BeginsBlank back) :
    (s ++ back).wordEnds := by
  cases s with
  | cons d s => exact ends
  | nil =>
    cases back with
    | nil => rfl
    | cons c back => exact wordEnds_cons.mpr (not_isWord_of_isBlank (begins c rfl))

theorem dropWhile_append_of_some {p : Char → Bool} (stops : (s.dropWhile p).head? = some c)
    (back : Text) : (s ++ back).dropWhile p = s.dropWhile p ++ back := by
  rw [List.dropWhile_append, if_neg]
  intro none
  rw [List.isEmpty_iff.mp none] at stops
  cases stops

theorem after?_append {marker rest : Text} (found : after? marker s = some rest) (back : Text) :
    after? marker (s ++ back) = some (rest ++ back) := by
  rw [after?_eq_some.mp found, List.append_assoc]
  exact after?_eq_some.mpr rfl

theorem any_after?_append {marker : Text} {p : Text → Bool}
    (grows : ∀ rest, p rest → p (rest ++ back)) (found : (after? marker s).any p) :
    (after? marker (s ++ back)).any p := by
  obtain ⟨rest, behind, passes⟩ := (Option.any_eq_true _ _).mp found
  rw [after?_append behind]
  exact grows rest passes

end Text

namespace Signal

open Text (BeginsBlank EndsBlank)

theorem blanksThen_append (found : blanksThen c s) (back : Text) : blanksThen c (s ++ back) := by
  rw [blanksThen, beq_iff_eq] at found ⊢
  rw [Text.dropBlanks, Text.dropWhile_append_of_some found, ← Text.dropBlanks,
    List.head?_append, found, Option.some_or]

theorem startsAt_property_append (starts : property.startsAt previous s) (back : Text) :
    property.startsAt previous (s ++ back) := by
  simp only [startsAt] at starts
  split at starts
  · next r =>
    obtain ⟨named, colon⟩ := (Bool.and_eq_true _ _).mp starts
    obtain ⟨first, front, letter⟩ := (Option.any_eq_true _ _).mp named
    -- The colon ends the name before the text does.
    have ended : ((Text.dropBlanks r).dropWhile isPropertyChar).head? ≠ none := by
      intro none
      rw [List.head?_eq_none_iff.mp none] at colon
      cases colon
    obtain ⟨next, ended⟩ := Option.ne_none_iff_exists'.mp ended
    have inner : Text.dropBlanks (r ++ back) = Text.dropBlanks r ++ back :=
      Text.dropWhile_append_of_some front back
    simp only [startsAt, List.cons_append, inner, Text.dropWhile_append_of_some ended back,
      List.head?_append, front, Option.some_or, Option.any_some, letter, Bool.true_and]
    exact blanksThen_append colon back
  · cases starts

theorem startsAt_append {signal : Signal} (starts : signal.startsAt previous s)
    (begins : BeginsBlank back) : signal.startsAt previous (s ++ back) := by
  cases signal with
  | tag name =>
    obtain ⟨written, behind, rfl, same, ends⟩ := startsAt_tag.mp starts
    exact startsAt_tag.mpr
      ⟨written, behind ++ back, by simp, same, Text.wordEnds_append ends begins⟩
  | anywhere text =>
    obtain ⟨rest, found⟩ := Option.isSome_iff_exists.mp starts
    exact Option.isSome_iff_exists.mpr ⟨rest ++ back, Text.after?_append found back⟩
  | word keyword =>
    simp only [startsAt, Bool.and_eq_true] at starts ⊢
    exact starts.imp_right (Text.any_after?_append fun _ ends => Text.wordEnds_append ends begins)
  | before text c =>
    rw [startsAt] at starts ⊢
    exact Text.any_after?_append (fun _ found => blanksThen_append found back) starts
  | wordBefore keyword c =>
    simp only [startsAt, Bool.and_eq_true] at starts ⊢
    exact starts.imp_right (Text.any_after?_append fun _ found => blanksThen_append found back)
  | beforeBlank text =>
    rw [startsAt] at starts ⊢
    refine Text.any_after?_append (fun rest blank => ?_) starts
    cases rest with
    | nil => cases blank
    | cons d rest => exact blank
  | property => exact startsAt_property_append starts back

theorem startsAt_behind {signal : Signal} (starts : signal.startsAt none s)
    (boundary : isWord c = false) : signal.startsAt (some c) s := by
  have begins : wordBegins (some c) = wordBegins none := by simp [wordBegins, boundary]
  cases signal with
  | word keyword => simpa only [startsAt, begins] using starts
  | wordBefore keyword c => simpa only [startsAt, begins] using starts
  | _ => exact starts

theorem occursFrom_of_startsAt {signal : Signal} (starts : signal.startsAt previous s) :
    signal.occursFrom previous s := by
  cases s with
  | nil => exact starts
  | cons c r => simp [occursFrom, starts]

theorem occursFrom_append {signal : Signal} (occurs : signal.occursFrom previous s)
    (begins : BeginsBlank back) : signal.occursFrom previous (s ++ back) := by
  induction s generalizing previous with
  | nil => exact occursFrom_of_startsAt (startsAt_append occurs begins)
  | cons c r ih =>
    rw [occursFrom, Bool.or_eq_true] at occurs
    rw [List.cons_append, occursFrom, Bool.or_eq_true]
    exact occurs.imp (fun starts => startsAt_append starts begins) ih

theorem occursFrom_suffix {signal : Signal} (occurs : signal.occursFrom (some c) s)
    (front : Text) : signal.occursFrom previous (front ++ c :: s) := by
  induction front generalizing previous with
  | nil => simp [occursFrom, occurs]
  | cons d front ih => simp [occursFrom, ih]

theorem occursIn_behind {signal : Signal} (occurs : signal.occursIn s) (ends : EndsBlank front) :
    signal.occursIn (front ++ s) := by
  rcases List.eq_nil_or_concat front with rfl | ⟨front, c, rfl⟩
  · exact occurs
  · have boundary : isWord c = false := not_isWord_of_isBlank (ends c (by simp))
    have inner : signal.occursFrom (some c) s := by
      cases s with
      | nil => exact startsAt_behind occurs boundary
      | cons d r =>
        rw [occursIn, occursFrom, Bool.or_eq_true] at occurs
        rw [occursFrom, Bool.or_eq_true]
        exact occurs.imp_left fun starts => startsAt_behind starts boundary
    rw [occursIn, List.concat_eq_append, List.append_assoc, List.singleton_append]
    exact occursFrom_suffix inner front

theorem occursIn_inside {signal : Signal} (occurs : signal.occursIn s) (ends : EndsBlank front)
    (begins : BeginsBlank back) : signal.occursIn (front ++ (s ++ back)) :=
  occursIn_behind (occursFrom_append occurs begins) ends

end Signal

/-! ## Scores -/

structure Scores.IsAtMost (scores other : Scores) : Prop where
  html : scores.html ≤ other.html
  javascript : scores.javascript ≤ other.javascript
  css : scores.css ≤ other.css

open Text (BeginsBlank EndsBlank)

theorem Scores.isAtMost_inside (s : Text) (ends : EndsBlank front) (begins : BeginsBlank back) :
    (Scores.of s).IsAtMost (Scores.of (front ++ (s ++ back))) := by
  have kept (signals : List Signal) : signals.countP (·.occursIn s) ≤
      signals.countP (·.occursIn (front ++ (s ++ back))) :=
    List.countP_mono_left fun signal _ occurs => Signal.occursIn_inside occurs ends begins
  exact ⟨kept _, kept _, kept _⟩

theorem detect_cases (s : Text) :
    s.trim = [] ∧ detect s = ⟨.empty, .zero⟩ ∨
      s.trim ≠ [] ∧ detect s = ⟨(Scores.of s.trim).classify, Scores.of s.trim⟩ := by
  by_cases blank : s.trim = []
  · exact .inl ⟨blank, by simp [detect, blank]⟩
  · exact .inr ⟨blank, by simp [detect, blank]⟩

theorem isAtMost_detect_inside (s : Text) (ends : EndsBlank front) (begins : BeginsBlank back) :
    (detect s).scores.IsAtMost (detect (front ++ (s ++ back))).scores := by
  rcases detect_cases s with ⟨-, alone⟩ | ⟨some_text, alone⟩
  · rw [alone]
    exact ⟨Nat.zero_le _, Nat.zero_le _, Nat.zero_le _⟩
  · obtain ⟨before, behind, trimmed, ends, begins⟩ := Text.exists_trim_inside some_text ends begins
    rcases detect_cases (front ++ (s ++ back)) with ⟨blank, -⟩ | ⟨-, whole⟩
    · rw [trimmed] at blank
      simp [some_text] at blank
    · rw [alone, whole, trimmed]
      exact Scores.isAtMost_inside s.trim ends begins

/-! ## Categories -/

theorem Scores.classify_eq_mixed {scores : Scores} : scores.classify = .mixed ↔
    0 < scores.html ∧ (0 < scores.javascript ∨ 0 < scores.css) := by
  rw [classify]
  split
  · next none =>
    have bounded : scores.html ≤ scores.max := (Nat.le_max_left _ _).trans (Nat.le_max_left _ _)
    simp only [reduceCtorEq, false_iff, not_and]
    omega
  · split
    · next mixed => simp [mixed]
    · next unmixed =>
      simp only [unmixed, iff_false]
      split
      · simp
      · split <;> simp

theorem Scores.code_of_classify {scores : Scores}
    (code : scores.classify = .javascript ∨ scores.classify = .css ∨ scores.classify = .mixed) :
    0 < scores.javascript ∨ 0 < scores.css := by
  by_contra none
  obtain ⟨html, javascript, css⟩ := scores
  simp only [not_or, Nat.not_lt, Nat.le_zero] at none
  obtain ⟨rfl, rfl⟩ := none
  -- Without a signal of code the text is markup or nothing.
  by_cases markup : html = 0 <;> simp [classify, max, markup] at code

theorem category_eq_mixed : Category.of s = .mixed ↔ 0 < (detect s).scores.html ∧
    (0 < (detect s).scores.javascript ∨ 0 < (detect s).scores.css) := by
  rcases detect_cases s with ⟨-, blank⟩ | ⟨-, scored⟩
  · simp [Category.of, blank, Scores.zero]
  · rw [Category.of, scored, Scores.classify_eq_mixed]

theorem html_pos_of_category (markup : Category.of s = .html ∨ Category.of s = .mixed) :
    0 < (detect s).scores.html := by
  rcases detect_cases s with ⟨-, blank⟩ | ⟨-, scored⟩
  · simp [Category.of, blank] at markup
  · rw [Category.of, scored] at markup
    rw [scored]
    dsimp only at markup
    refine (Scores.isMarkup_classify (Scores.of s.trim)).mp ?_
    rcases markup with html | mixed
    · rw [html]
      rfl
    · rw [mixed]
      rfl

theorem code_pos_of_category (code : Category.of s = .javascript ∨ Category.of s = .css ∨
    Category.of s = .mixed) : 0 < (detect s).scores.javascript ∨ 0 < (detect s).scores.css := by
  rcases detect_cases s with ⟨-, blank⟩ | ⟨-, scored⟩
  · simp [Category.of, blank] at code
  · rw [Category.of, scored] at code
    rw [scored]
    exact Scores.code_of_classify code

/-! ## Joined snippets -/

theorem isAtMost_joined_first (a b : Text) :
    (detect a).scores.IsAtMost (detect (a ++ '\n' :: b)).scores := by
  have ends : EndsBlank [] := by simp [EndsBlank]
  have begins : BeginsBlank ('\n' :: b) := by simp [BeginsBlank, isBlank]
  exact isAtMost_detect_inside a ends begins

theorem isAtMost_joined_second (a b : Text) :
    (detect b).scores.IsAtMost (detect (a ++ '\n' :: b)).scores := by
  have ends : EndsBlank (a ++ ['\n']) := by simp [EndsBlank, isBlank]
  have begins : BeginsBlank [] := by simp [BeginsBlank]
  have kept := isAtMost_detect_inside b ends begins
  rwa [List.append_nil, List.append_assoc, List.singleton_append] at kept

theorem mixed_of_isAtMost {joined : Text} (markup : 0 < (detect s).scores.html)
    (code : 0 < (detect t).scores.javascript ∨ 0 < (detect t).scores.css)
    (first : (detect s).scores.IsAtMost (detect joined).scores)
    (second : (detect t).scores.IsAtMost (detect joined).scores) : Category.of joined = .mixed :=
  category_eq_mixed.mpr ⟨markup.trans_le first.html,
    code.imp (·.trans_le second.javascript) (·.trans_le second.css)⟩

/-- Joined snippets keep the signals of both. So a mixed snippet stays mixed with any other
one, and markup becomes mixed with what has a script or a style. -/
theorem detect_joined (a b : Text) :
    ((detect a).scores.IsAtMost (detect (a ++ '\n' :: b)).scores ∧
      (detect b).scores.IsAtMost (detect (a ++ '\n' :: b)).scores) ∧
    (Category.of a = .mixed →
      Category.of (a ++ '\n' :: b) = .mixed ∧ Category.of (b ++ '\n' :: a) = .mixed) ∧
    (Category.of a = .html ∨ Category.of a = .mixed →
      Category.of b = .javascript ∨ Category.of b = .css ∨ Category.of b = .mixed →
        Category.of (a ++ '\n' :: b) = .mixed ∧ Category.of (b ++ '\n' :: a) = .mixed) := by
  have first := isAtMost_joined_first a b
  have second := isAtMost_joined_second b a
  refine ⟨⟨first, isAtMost_joined_second a b⟩, fun mixed => ?_, fun isMarkup isCode => ?_⟩
  · obtain ⟨markup, code⟩ := category_eq_mixed.mp mixed
    exact ⟨mixed_of_isAtMost markup code first first, mixed_of_isAtMost markup code second second⟩
  · have markup := html_pos_of_category isMarkup
    have code := code_pos_of_category isCode
    exact ⟨mixed_of_isAtMost markup code first (isAtMost_joined_second a b),
      mixed_of_isAtMost markup code second (isAtMost_joined_first b a)⟩

theorem detect_joined_edges :
    let markup := " <p".toList
    let style := "@media all".toList
    let mixed := "<p\nvar".toList
    (Category.of mixed = .mixed ∧ Category.of (mixed ++ '\n' :: style) = .mixed ∧
      Category.of (style ++ '\n' :: mixed) = .mixed) ∧
    (Category.of markup = .html ∧ Category.of style = .css ∧
      Category.of (markup ++ '\n' :: style) = .mixed ∧
      Category.of (style ++ '\n' :: markup) = .mixed) := by
  intro markup style mixed
  have isMarkup : Category.of markup = .html := by decide +kernel
  have isStyle : Category.of style = .css := by decide +kernel
  have isMixed : Category.of mixed = .mixed := by decide +kernel
  exact ⟨⟨isMixed, (detect_joined mixed style).2.1 isMixed⟩, isMarkup, isStyle,
    (detect_joined markup style).2.2 (.inl isMarkup) (.inr (.inl isStyle))⟩

end Snippet
