import Snippet.Proofs.Detection.Spacing

/-! Detection of text with an ending put behind it.

Blanks and closing braces end no signal and go on with no word. So an ending made of them
moves no signal but the one that needs a blank, and that one comes only where its text
stands at the very end.
-/

set_option autoImplicit false

namespace Snippet

variable {s tail text front part back braces : Text} {c : Char} {neighbour : Option Char}

theorem Text.head?_behind_trim {gap : Text} (whole : s = s.leadingBlanks ++ (s.trim ++ gap))
    (blank : ∀ c ∈ gap, isBlank c) (some_visible : s.trim ≠ []) :
    gap.head?.any isBlank = s.getLast?.any isBlank := by
  cases gap with
  | nil =>
    -- Without blanks behind it the text ends as its trimmed form does.
    obtain ⟨c, last⟩ := Option.ne_none_iff_exists'.mp (mt List.getLast?_eq_none_iff.mp some_visible)
    have visible := endsVisible_trim s c last
    rw [List.append_nil] at whole
    rw [whole, List.getLast?_append, last, Option.some_or, Option.any_some, visible]
    rfl
  | cons d others =>
    obtain ⟨e, last⟩ : ∃ e, (d :: others).getLast? = some e :=
      ⟨_, List.getLast?_eq_some_getLast (by simp)⟩
    have isLast : s.getLast? = some e := by
      rw [whole, List.getLast?_append, List.getLast?_append, last, Option.some_or, Option.some_or]
    rw [isLast, List.head?_cons, Option.any_some, Option.any_some, blank d (by simp),
      blank e (List.mem_of_getLast? last)]

/-- The last blanks of a text are trimmed no more when visible text is put behind them. -/
theorem Text.exists_trim_append (begins : BeginsVisible back) (ends : EndsVisible back)
    (some_text : back ≠ []) (some_visible : s.trim ≠ []) :
    ∃ gap, trim (s ++ back) = s.trim ++ (gap ++ back) ∧ (∀ c ∈ gap, isBlank c) ∧
      (gap ++ back).head?.any isBlank = s.getLast?.any isBlank := by
  obtain ⟨gap, whole, blank⟩ := exists_trailingBlanks s.dropBlanks
  rw [← trim] at whole
  have parts : s = s.leadingBlanks ++ (s.trim ++ gap) := by
    rw [← whole, leadingBlanks_append_dropBlanks]
  refine ⟨gap, ?_, blank, ?_⟩
  · have trimmed := trim_append begins ends some_text s []
    have nothing : dropTrailingBlanks [] = [] := rfl
    rw [nothing, List.append_nil] at trimmed
    rw [trimmed, whole, List.append_assoc]
  · rw [← head?_behind_trim parts blank some_visible]
    cases gap with
    | nil =>
      obtain ⟨e, behind, rfl⟩ := List.exists_cons_of_ne_nil some_text
      simp [begins e rfl]
    | cons d others => rfl

def isEnding (c : Char) : Bool := isBlank c || c == '}'

theorem not_isWord_of_isEnding (ending : isEnding c) : isWord c = false := by
  simp only [isEnding, Bool.or_eq_true, beq_iff_eq] at ending
  rcases ending with blank | rfl
  · exact not_isWord_of_isBlank blank
  · decide

theorem outsideWord_head? (ending : ∀ c ∈ tail, isEnding c) : OutsideWord tail.head? :=
  fun c first => not_isWord_of_isEnding (ending c (List.mem_of_mem_head? first))

namespace Signal

theorem not_isEnding_of_isLoose (loose : isLoose c) : isEnding c = false := by
  obtain ⟨visible, -⟩ := isLoose_iff.mp loose
  have other : c ≠ '}' := Layout.ne_of_isLoose loose rfl
  simp [isEnding, visible, other]

theorem not_isEnding_of_isAnchor (anchor : isAnchor c) : isEnding c = false := by
  have visible := isBlank_of_isAnchor anchor
  simp only [isAnchor, Bool.and_eq_true, bne_iff_ne] at anchor
  simp [isEnding, visible, anchor.2]

def EndsLasting (part : Text) : Prop := ∃ front c, part = front ++ [c] ∧ isEnding c = false

theorem endsLasting_of_loose (some_part : part ≠ []) (loose : ∀ c ∈ part, isLoose c) :
    EndsLasting part := by
  obtain ⟨front, c, rfl⟩ := (List.eq_nil_or_concat' part).resolve_left some_part
  exact ⟨front, c, rfl, not_isEnding_of_isLoose (loose c (by simp))⟩

theorem endsLasting_of_spells {signal : Signal} (wellFormed : signal.WellFormed)
    (spaced : signal.needsBlank = false) (spelled : signal.pattern.spells part) :
    EndsLasting part := by
  cases signal with
  | tag name =>
    obtain ⟨written, rfl, rfl⟩ := spelled
    refine endsLasting_of_loose (by simp) (List.forall_mem_cons.mpr ⟨by decide, ?_⟩)
    exact fun c member => isLoose_of_toLower (wellFormed _ (List.mem_map_of_mem member))
  | anywhere text | word text =>
    obtain rfl : part = text := spelled
    exact endsLasting_of_loose wellFormed.1 wellFormed.2
  | before text c | wordBefore text c =>
    obtain ⟨gap, rfl, -⟩ := spelled
    exact ⟨text ++ gap, c, by simp, not_isEnding_of_isAnchor wellFormed.2.2⟩
  | beforeBlank text => cases spaced
  | property =>
    obtain ⟨gap, name, gap', rfl, -⟩ := spelled
    exact ⟨'{' :: (gap ++ (name ++ gap')), ':', by simp, by decide⟩

theorem EndsLasting.inside (lasting : EndsLasting part) (ending : ∀ c ∈ tail, isEnding c)
    (whole : s ++ tail = front ++ part ++ back) :
    ∃ behind, s = front ++ part ++ behind ∧ back = behind ++ tail := by
  rcases List.append_eq_append_iff.mp whole with ⟨beyond, same, rfl⟩ | found
  · rcases List.eq_nil_or_concat' beyond with rfl | ⟨beyond, d, rfl⟩
    · exact ⟨[], by simpa using same.symm, rfl⟩
    · -- The last character of the part would be one of the ending.
      obtain ⟨before, c, rfl, other⟩ := lasting
      rw [← List.append_assoc, ← List.append_assoc] at same
      obtain rfl : c = d := by simpa using (List.append_inj' same rfl).2
      simp [ending c (by simp)] at other
  · exact found

theorem behind_of_outsideWord {signal : Signal} (outside : OutsideWord neighbour) :
    signal.pattern.behind neighbour := by
  cases signal with
  | tag name | word keyword => exact outside
  | _ => trivial

/-- An ending brings no signal and takes none, blanks apart. -/
theorem occursIn_append {signal : Signal} (wellFormed : signal.WellFormed)
    (spaced : signal.needsBlank = false) (ending : ∀ c ∈ tail, isEnding c) (s : Text) :
    signal.occursIn (s ++ tail) = signal.occursIn s := by
  rw [Bool.eq_iff_iff, occursIn_iff wellFormed, occursIn_iff wellFormed]
  constructor
  · rintro ⟨front, part, back, whole, begins, spelled, ends⟩
    have lasting := endsLasting_of_spells wellFormed spaced spelled
    obtain ⟨behind, rfl, rfl⟩ := lasting.inside ending whole
    refine ⟨front, part, behind, rfl, begins, spelled, ?_⟩
    cases behind with
    | nil => exact behind_of_outsideWord (by simp [OutsideWord])
    | cons d behind => exact ends
  · rintro ⟨front, part, back, rfl, begins, spelled, ends⟩
    refine ⟨front, part, back ++ tail, by simp, begins, spelled, ?_⟩
    cases back with
    | nil => exact behind_of_outsideWord (outsideWord_head? ending)
    | cons d back => exact ends

theorem beforeBlank_occursIn_append (wellFormed : (beforeBlank text).WellFormed)
    (ending : ∀ c ∈ tail, isEnding c) : (beforeBlank text).occursIn (s ++ tail) ↔
      (beforeBlank text).occursIn s ∨ text <:+ s ∧ tail.head?.any isBlank := by
  simp only [beforeBlank_occursIn_iff]
  constructor
  · rintro ⟨front, back, whole, blank⟩
    rw [← List.append_assoc] at whole
    have lasting := endsLasting_of_loose wellFormed.1 wellFormed.2
    obtain ⟨behind, rfl, rfl⟩ := lasting.inside ending whole
    cases behind with
    | nil => exact .inr ⟨⟨front, by simp⟩, blank⟩
    | cons d behind => exact .inl ⟨front, d :: behind, by simp, blank⟩
  · rintro (⟨front, back, rfl, blank⟩ | ⟨⟨front, rfl⟩, blank⟩)
    · refine ⟨front, back ++ tail, by simp, ?_⟩
      obtain ⟨c, r, rfl, blank⟩ := Text.head?_any_iff.mp blank
      exact blank
    · exact ⟨front, tail, by simp, blank⟩

end Signal

open Signal (media)

/-- The text ends in an `@media`, and no other one in it has a blank behind it. -/
def EndsInMedia (s : Text) : Prop := "@media".toList <:+ s ∧ ¬ media.occursIn s

instance : DecidablePred EndsInMedia := fun s =>
  inferInstanceAs (Decidable ("@media".toList <:+ s ∧ ¬ media.occursIn s))

/-- Only blanks behind an `@media` change the scores: they are one more signal of a style. -/
theorem Scores.of_append (ending : ∀ c ∈ tail, isEnding c) (s : Text) :
    (Scores.of (s ++ tail)).html = (Scores.of s).html ∧
    (Scores.of (s ++ tail)).javascript = (Scores.of s).javascript ∧
    (Scores.of (s ++ tail)).css = (Scores.of s).css +
      if EndsInMedia s ∧ tail.head?.any isBlank then 1 else 0 := by
  have same {signals : List Signal}
      (plain : ∀ signal ∈ signals, signal.WellFormed ∧ signal.needsBlank = false) :
      signals.countP (·.occursIn (s ++ tail)) = signals.countP (·.occursIn s) := by
    refine List.countP_congr fun signal member => ?_
    rw [Signal.occursIn_append (plain signal member).1 (plain signal member).2 ending]
  refine ⟨same (by decide), same (by decide), ?_⟩
  have gained : media.occursIn (s ++ tail) ↔ _ :=
    Signal.beforeBlank_occursIn_append (by decide) ending
  rw [css_of, css_of, same (by decide)]
  by_cases before : media.occursIn s
  · rw [if_pos before, if_pos (gained.mpr (.inl before)), if_neg fun ends => ends.1.2 before]
  · rw [if_neg before]
    by_cases comes : "@media".toList <:+ s ∧ tail.head?.any isBlank
    · rw [if_pos (gained.mpr (.inr comes)), if_pos ⟨⟨comes.1, before⟩, comes.2⟩]
    · rw [if_neg fun occurs => (gained.mp occurs).elim before comes,
        if_neg fun ends => comes ⟨ends.1.1, ends.2⟩]

/-- The snippet ends in an `@media` with blanks behind it, and no other one in it has a blank
behind it. -/
def EndsInSpacedMedia (s : Text) : Prop := EndsInMedia s.trim ∧ s.getLast?.any isBlank

instance : DecidablePred EndsInSpacedMedia := fun s =>
  inferInstanceAs (Decidable (EndsInMedia s.trim ∧ s.getLast?.any isBlank))

/-- Braces behind a snippet keep its last blanks from being trimmed. -/
theorem detect_append_braces (closing : ∀ c ∈ braces, c = '}') (some_brace : braces ≠ [])
    (some_visible : s.trim ≠ []) :
    (detect (s ++ braces)).scores.html = (detect s).scores.html ∧
    (detect (s ++ braces)).scores.javascript = (detect s).scores.javascript ∧
    (detect (s ++ braces)).scores.css = (detect s).scores.css +
      if EndsInSpacedMedia s then 1 else 0 := by
  have visible : ∀ c ∈ braces, isBlank c = false := by
    intro c member
    rw [closing c member]
    decide
  obtain ⟨gap, trimmed, blank, first⟩ := Text.exists_trim_append
    (fun c first => visible c (List.mem_of_mem_head? first))
    (fun c last => visible c (List.mem_of_getLast? last)) some_brace some_visible
  have ending : ∀ c ∈ gap ++ braces, isEnding c := by
    intro c member
    rcases List.mem_append.mp member with member | member
    · simp [isEnding, blank c member]
    · simp [isEnding, closing c member]
  rw [scores_detect, scores_detect, trimmed]
  obtain ⟨html, javascript, css⟩ := Scores.of_append ending s.trim
  refine ⟨html, javascript, css.trans (congrArg _ (if_congr ?_ rfl rfl))⟩
  rw [first, EndsInSpacedMedia]

end Snippet
