import Snippet.Proofs.Compression
import Snippet.Proofs.Detection

/-! Signals as patterns.

A pattern says what an occurrence looks like and what may stand on both sides of it, and
it occurs in a text if the text can be taken apart into an occurrence and what is around
it. The scores of a text are the numbers of the patterns that occur in it.
-/

set_option autoImplicit false

namespace Snippet

def OutsideWord (neighbour : Option Char) : Prop := ∀ c ∈ neighbour, isWord c = false

/-- What an occurrence looks like, and what its neighbours may be. -/
structure Pattern where
  before : Option Char → Prop
  spells : Text → Prop
  behind : Option Char → Prop

namespace Pattern

def OccursIn (pattern : Pattern) (s : Text) : Prop :=
  ∃ front part back, s = front ++ part ++ back ∧
    pattern.before front.getLast? ∧ pattern.spells part ∧ pattern.behind back.head?

def Spaced (text : Text) (c : Char) (part : Text) : Prop :=
  ∃ gap, part = text ++ (gap ++ [c]) ∧ ∀ d ∈ gap, isBlank d

/-- An opening brace, a name of letters and hyphens, and a colon, with any runs of blanks
between them. -/
def Property (part : Text) : Prop :=
  ∃ gap name gap', part = '{' :: (gap ++ (name ++ (gap' ++ [':']))) ∧
    (∀ c ∈ gap, isBlank c) ∧ name ≠ [] ∧ (∀ c ∈ name, c.isAlpha ∨ c = '-') ∧
    ∀ c ∈ gap', isBlank c

def anywhere (spells : Text → Prop) : Pattern := ⟨fun _ => True, spells, fun _ => True⟩

/-- The occurrence begins no word in its middle. -/
def leading (spells : Text → Prop) : Pattern := ⟨OutsideWord, spells, fun _ => True⟩

def wholeWord (keyword : Text) : Pattern := ⟨OutsideWord, (· = keyword), OutsideWord⟩

/-- The name may be written in any ASCII case. -/
def openingTag (name : Text) : Pattern :=
  ⟨fun _ => True, fun part => ∃ written, part = '<' :: written ∧ Text.lower written = name,
    OutsideWord⟩

def ofHtml : List Pattern :=
  [ openingTag "html".toList, openingTag "body".toList, openingTag "div".toList,
    openingTag "span".toList, openingTag "p".toList, openingTag "script".toList,
    openingTag "style".toList, openingTag "link".toList, openingTag "meta".toList ]

def ofJavascript : List Pattern :=
  [ anywhere (Spaced "function".toList '('),
    wholeWord "var".toList, wholeWord "let".toList, wholeWord "const".toList,
    anywhere (· = "=>".toList),
    leading (Spaced "if".toList '('), leading (Spaced "for".toList '('),
    leading (Spaced "while".toList '('),
    anywhere (· = "console.log".toList), anywhere (· = "document.".toList),
    anywhere (· = "window.".toList), anywhere (· = "addEventListener".toList) ]

def ofCss : List Pattern :=
  [ anywhere Property,
    leading (Spaced "color".toList ':'), leading (Spaced "width".toList ':'),
    leading (Spaced "height".toList ':'), leading (Spaced "margin".toList ':'),
    leading (Spaced "padding".toList ':'),
    anywhere fun part => ∃ c, part = "@media".toList ++ [c] ∧ isBlank c,
    leading (Spaced "class".toList '\x7b') ]

end Pattern

variable {s r back : Text} {c : Char} {previous : Option Char}

namespace Signal

open Pattern (Spaced Property)

def pattern : Signal → Pattern
  | tag name => .openingTag name
  | anywhere text => .anywhere (· = text)
  | word keyword => .wholeWord keyword
  | before text c => .anywhere (Spaced text c)
  | wordBefore keyword c => .leading (Spaced keyword c)
  | beforeBlank text => .anywhere fun part => ∃ c, part = text ++ [c] ∧ isBlank c
  | property => .anywhere Property

/-- A character of a signal that neither is blank nor can have blanks added around it. -/
def isLoose (c : Char) : Bool := !isBlank c && !Compression.isTight c

/-- Tight punctuation that compression neither drops nor puts in another place. -/
def isAnchor (c : Char) : Bool := Compression.isTight c && c != ';' && c != '}'

/-- The texts of the signal are not empty and hold loose characters only, and what it looks
for behind blanks is an anchor. -/
def WellFormed : Signal → Prop
  | tag name => ∀ c ∈ name, isWord c
  | anywhere text | word text | beforeBlank text => text ≠ [] ∧ ∀ c ∈ text, isLoose c
  | before text c | wordBefore text c => text ≠ [] ∧ (∀ c ∈ text, isLoose c) ∧ isAnchor c
  | property => True

instance : DecidablePred WellFormed
  | tag name => decidable_of_iff (name.all isWord) List.all_eq_true
  | anywhere text | word text | beforeBlank text =>
    decidable_of_iff (text ≠ [] ∧ text.all isLoose) (and_congr_right' List.all_eq_true)
  | before text c | wordBefore text c =>
    decidable_of_iff (text ≠ [] ∧ text.all isLoose ∧ isAnchor c)
      (and_congr_right' (and_congr_left' List.all_eq_true))
  | property => isTrue trivial

theorem wellFormed_of_mem {signal : Signal} (member : signal ∈ ofHtml ++ ofJavascript ++ ofCss) :
    signal.WellFormed := by
  revert signal
  decide

/-! ## Occurrences at the front of a text -/

theorem wordBegins_iff : wordBegins previous ↔ OutsideWord previous := by
  cases previous <;> simp [wordBegins, OutsideWord]

theorem wordEnds_iff : s.wordEnds ↔ OutsideWord s.head? := by
  cases s <;> simp [Text.wordEnds, OutsideWord]

theorem isBlank_of_isAnchor (anchor : isAnchor c) : isBlank c = false := by
  simp only [isAnchor, Bool.and_eq_true] at anchor
  exact Compression.isBlank_of_isTight anchor.1.1

theorem any_after?_iff {text : Text} {test : Text → Bool} :
    (Text.after? text s).any test ↔ ∃ back, s = text ++ back ∧ test back := by
  rw [Option.any_eq_true]
  simp only [Text.after?_eq_some]

theorem blanksThen_iff (visible : isBlank c = false) :
    blanksThen c s ↔ ∃ gap back, s = gap ++ c :: back ∧ ∀ d ∈ gap, isBlank d := by
  rw [blanksThen, beq_iff_eq]
  constructor
  · intro found
    obtain ⟨back, behind⟩ := List.head?_eq_some_iff.mp found
    refine ⟨s.leadingBlanks, back, ?_, fun d => Text.isBlank_of_mem_leadingBlanks⟩
    rw [← behind, Text.leadingBlanks_append_dropBlanks]
  · rintro ⟨gap, back, rfl, blank⟩
    rw [Text.dropBlanks_gap blank visible, List.head?_cons]

theorem isPropertyChar_iff : isPropertyChar c ↔ c.isAlpha ∨ c = '-' := by
  simp [isPropertyChar]

theorem isBlank_of_isPropertyChar (named : isPropertyChar c) : isBlank c = false := by
  rcases isPropertyChar_iff.mp named with letter | rfl
  · exact isBlank_of_isWord (by simp [isWord, Char.isAlphanum, letter])
  · decide

theorem startsAt_property_brace (r : Text) : property.startsAt previous ('{' :: r) =
    ((Text.dropBlanks r).head?.any isPropertyChar &&
      blanksThen ':' ((Text.dropBlanks r).dropWhile isPropertyChar)) := rfl

theorem brace_of_startsAt_property (starts : property.startsAt previous s) :
    ∃ r, s = '{' :: r := by
  simp only [startsAt] at starts
  split at starts
  · exact ⟨_, rfl⟩
  · cases starts

theorem startsAt_property_iff :
    property.startsAt previous s ↔ ∃ part back, s = part ++ back ∧ Property part := by
  constructor
  · intro starts
    obtain ⟨r, rfl⟩ := brace_of_startsAt_property starts
    rw [startsAt_property_brace, Bool.and_eq_true] at starts
    obtain ⟨first, others, inner, letter⟩ := Text.head?_any_iff.mp starts.1
    obtain ⟨gap', back, behind, blank'⟩ := (blanksThen_iff (by decide)).mp starts.2
    have name := List.takeWhile_append_dropWhile (p := isPropertyChar) (l := Text.dropBlanks r)
    have whole := Text.leadingBlanks_append_dropBlanks r
    rw [← name, behind] at whole
    refine ⟨_, back, ?_, Text.leadingBlanks r, (Text.dropBlanks r).takeWhile isPropertyChar, gap',
      rfl, fun c => Text.isBlank_of_mem_leadingBlanks, by simp [inner, letter],
      fun c member => ?_, blank'⟩
    · conv_lhs => rw [← whole]
      simp
    · exact isPropertyChar_iff.mp (List.all_eq_true.mp List.all_takeWhile c member)
  · rintro ⟨_, back, rfl, gap, name, gap', rfl, blank, some_name, letters, blank'⟩
    have named : ∀ c ∈ name, isPropertyChar c := fun c member =>
      isPropertyChar_iff.mpr (letters c member)
    -- The name ends before the colon or before a blank.
    have ended : (gap' ++ ':' :: back).dropWhile isPropertyChar = gap' ++ ':' :: back := by
      cases gap' with
      | nil => rfl
      | cons d gap' =>
        refine List.dropWhile_cons_of_neg fun letter => ?_
        simp [isBlank_of_isPropertyChar letter] at blank'
    obtain ⟨first, others, rfl⟩ := List.exists_cons_of_ne_nil some_name
    have inner : Text.dropBlanks (gap ++ (first :: others ++ (gap' ++ ':' :: back))) =
        first :: others ++ (gap' ++ ':' :: back) :=
      Text.dropBlanks_gap blank (isBlank_of_isPropertyChar (named first (by simp))) _
    have whole : '{' :: (gap ++ (first :: others ++ (gap' ++ [':']))) ++ back =
        '{' :: (gap ++ (first :: others ++ (gap' ++ ':' :: back))) := by simp
    rw [whole, startsAt_property_brace, inner, List.dropWhile_append_of_pos named, ended,
      Bool.and_eq_true]
    exact ⟨by simp [named], (blanksThen_iff (by decide)).mpr ⟨gap', back, rfl, blank'⟩⟩

theorem any_after?_blanksThen (anchor : isAnchor c) {text : Text} :
    (Text.after? text s).any (blanksThen c) ↔
      ∃ part back, s = part ++ back ∧ Spaced text c part := by
  rw [any_after?_iff]
  simp only [blanksThen_iff (isBlank_of_isAnchor anchor)]
  constructor
  · rintro ⟨_, rfl, gap, back, rfl, blank⟩
    exact ⟨_, back, by simp, gap, rfl, blank⟩
  · rintro ⟨_, back, rfl, gap, rfl, blank⟩
    exact ⟨gap ++ c :: back, by simp, gap, back, rfl, blank⟩

theorem startsAt_iff {signal : Signal} (wellFormed : signal.WellFormed) :
    signal.startsAt previous s ↔ signal.pattern.before previous ∧
      ∃ part back, s = part ++ back ∧ signal.pattern.spells part ∧
        signal.pattern.behind back.head? := by
  cases signal with
  | tag name =>
    rw [startsAt_tag]
    simp only [pattern, Pattern.openingTag, true_and, wordEnds_iff]
    constructor
    · rintro ⟨written, back, rfl, same, ends⟩
      exact ⟨_, back, rfl, ⟨written, rfl, same⟩, ends⟩
    · rintro ⟨_, back, rfl, ⟨written, rfl, same⟩, ends⟩
      exact ⟨written, back, rfl, same, ends⟩
  | anywhere text =>
    simp [startsAt, pattern, Pattern.anywhere, Option.isSome_iff_exists, Text.after?_eq_some]
  | word keyword =>
    simp [startsAt, pattern, Pattern.wholeWord, wordBegins_iff, any_after?_iff, wordEnds_iff]
  | before text c =>
    rw [startsAt, any_after?_blanksThen wellFormed.2.2]
    simp [pattern, Pattern.anywhere]
  | wordBefore keyword c =>
    rw [startsAt, Bool.and_eq_true, any_after?_blanksThen wellFormed.2.2, wordBegins_iff]
    simp [pattern, Pattern.leading]
  | beforeBlank text =>
    rw [startsAt, any_after?_iff]
    simp only [pattern, Pattern.anywhere, true_and, and_true]
    constructor
    · rintro ⟨rest, rfl, blank⟩
      obtain ⟨c, back, rfl, blank⟩ := Text.head?_any_iff.mp blank
      exact ⟨text ++ [c], back, by simp, c, rfl, blank⟩
    · rintro ⟨_, back, rfl, c, rfl, blank⟩
      exact ⟨c :: back, by simp, by simpa using blank⟩
  | property =>
    rw [startsAt_property_iff]
    simp [pattern, Pattern.anywhere]

theorem occursIn_iff {signal : Signal} (wellFormed : signal.WellFormed) :
    signal.occursIn s ↔ signal.pattern.OccursIn s := by
  rw [occursIn, occursFrom_iff]
  simp only [startsAt_iff wellFormed, Option.or_none]
  constructor
  · rintro ⟨front, _, rfl, begins, part, back, rfl, spelled, ends⟩
    exact ⟨front, part, back, (List.append_assoc ..).symm, begins, spelled, ends⟩
  · rintro ⟨front, part, back, rfl, begins, spelled, ends⟩
    exact ⟨front, part ++ back, List.append_assoc .., begins, part, back, rfl, spelled, ends⟩

open scoped Classical in
theorem countP_patterns {signals : List Signal} (wellFormed : ∀ signal ∈ signals, signal.WellFormed)
    (s : Text) : signals.countP (·.occursIn s) =
      (signals.map pattern).countP fun pattern => pattern.OccursIn s := by
  rw [List.countP_map]
  refine List.countP_congr fun signal member => ?_
  rw [Function.comp_apply, decide_eq_true_iff, occursIn_iff (wellFormed signal member)]

end Signal

open scoped Classical in
/-- Each score is the number of the patterns of the language that occur in the text. -/
theorem scores_of_patterns (s : Text) :
    (Scores.of s).html = Pattern.ofHtml.countP (fun pattern => pattern.OccursIn s) ∧
    (Scores.of s).javascript = Pattern.ofJavascript.countP (fun pattern => pattern.OccursIn s) ∧
    (Scores.of s).css = Pattern.ofCss.countP (fun pattern => pattern.OccursIn s) := by
  have counted {signals : List Signal}
      (part : signals ⊆ Signal.ofHtml ++ Signal.ofJavascript ++ Signal.ofCss) :
      signals.countP (·.occursIn s) =
        (signals.map Signal.pattern).countP fun pattern => pattern.OccursIn s :=
    Signal.countP_patterns (fun _ member => Signal.wellFormed_of_mem (part member)) s
  exact ⟨counted fun _ member => by simp [member], counted fun _ member => by simp [member],
    counted fun _ member => by simp [member]⟩

end Snippet
