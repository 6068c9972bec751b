import Snippet.Proofs.Compression.Gaps
import Snippet.Proofs.Detection.Patterns

/-! Signals in compressed text.

Both scans of compression keep the loose characters of a text, so that what a signal
spells stays in one piece. A signal that looks past blanks occurs in the compressed text
where it does in the text itself, and one that needs a blank behind it never occurs in
the compressed text alone.
-/

set_option autoImplicit false

namespace Snippet

open Compression (Front tightenFrom terminated terminators)
open Text (BeginsVisible)

variable {s r text : Text} {c : Char} {previous other : Option Char}

theorem Text.dropWhile_eq_self {test : Char → Bool} (fails : s.head?.any test = false) :
    s.dropWhile test = s := by
  cases s with
  | nil => rfl
  | cons c r => exact List.dropWhile_cons_of_neg (by simpa using fails)

namespace Signal

def needsBlank : Signal → Bool
  | beforeBlank _ => true
  | _ => false

/-! ## Where no signal begins -/

theorem isLoose_iff : isLoose c ↔ isBlank c = false ∧ Compression.isTight c = false := by
  simp [isLoose]

theorem not_isLoose_of_isBlank (blank : isBlank c) : isLoose c = false := by
  simp [isLoose, blank]

theorem not_isLoose_of_isTight (tight : Compression.isTight c) : isLoose c = false := by
  simp [isLoose, tight]

theorem skipped_of_isBlank (blank : isBlank c) : isLoose c = false ∧ c ≠ '{' := by
  refine ⟨not_isLoose_of_isBlank blank, ?_⟩
  rintro rfl
  exact absurd blank (by decide)

theorem not_isWord_of_isTight (tight : Compression.isTight c) : isWord c = false := by
  by_contra word
  rw [Compression.isTight_of_isWord (by simpa using word)] at tight
  cases tight

theorem isLoose_of_isWord (word : isWord c) : isLoose c :=
  isLoose_iff.mpr ⟨isBlank_of_isWord word, Compression.isTight_of_isWord word⟩

theorem isLoose_of_isPropertyChar (named : isPropertyChar c) : isLoose c := by
  rcases isPropertyChar_iff.mp named with letter | rfl
  · exact isLoose_of_isWord (by simp [isWord, Char.isAlphanum, letter])
  · decide

theorem isLoose_of_toLower (word : isWord c.toLower) : isLoose c := by
  by_cases upper : c.isUpper
  · have letter : c.isAlpha := Bool.or_eq_true_iff.mpr (.inl upper)
    exact isLoose_of_isWord (by simp [isWord, Char.isAlphanum, letter])
  · have small : c.toLower = c := dif_neg fun capital => upper (decide_eq_true capital)
    exact isLoose_of_isWord (small ▸ word)

theorem after?_other (some_text : text ≠ []) (loose : ∀ c ∈ text, isLoose c)
    (unlike : ∀ c ∈ s.head?, isLoose c = false) : Text.after? text s = none := by
  obtain ⟨m, ms, rfl⟩ := List.exists_cons_of_ne_nil some_text
  cases s with
  | nil => rfl
  | cons c r =>
    rw [Text.after?, if_neg]
    rintro rfl
    simp [loose m (by simp)] at unlike

theorem afterName?_other {m : Char} {ms : Text} (word : isWord m)
    (unlike : ∀ c ∈ s.head?, isLoose c = false) : Text.afterName? (m :: ms) s = none := by
  cases s with
  | nil => rfl
  | cons c r =>
    rw [Text.afterName?, if_neg]
    rintro rfl
    simp [isLoose_of_toLower word] at unlike

variable {signal : Signal}

theorem startsAt_tag_eq (name : Text) : (tag name).startsAt previous s =
    (Text.after? ['<'] s).any fun r => (Text.afterName? name r).any Text.wordEnds := by
  cases s with
  | nil => rfl
  | cons c r =>
    by_cases angle : c = '<'
    · subst angle
      rfl
    · simp [startsAt, Text.after?, angle, Ne.symm angle]

theorem startsAt_property_other (brace : s.head? ≠ some '{') :
    property.startsAt previous s = false := by
  by_contra starts
  obtain ⟨r, rfl⟩ := brace_of_startsAt_property (by simpa using starts)
  exact brace rfl

theorem startsAt_other (wellFormed : signal.WellFormed) (brace : signal ≠ property)
    (unlike : ∀ c ∈ s.head?, isLoose c = false) : signal.startsAt previous s = false := by
  cases signal with
  | tag name =>
    have angle : ∀ c ∈ ['<'], isLoose c := List.forall_mem_singleton.mpr (by decide)
    simp [startsAt_tag_eq, after?_other (by simp) angle unlike]
  | anywhere text | word text | beforeBlank text =>
    simp [startsAt, after?_other wellFormed.1 wellFormed.2 unlike]
  | before text c | wordBefore text c =>
    simp [startsAt, after?_other wellFormed.1 wellFormed.2.1 unlike]
  | property => exact absurd rfl brace

theorem startsAt_skipped (wellFormed : signal.WellFormed)
    (unlike : ∀ c ∈ s.head?, isLoose c = false ∧ c ≠ '{') : signal.startsAt previous s = false := by
  by_cases brace : signal = property
  · subst brace
    exact startsAt_property_other fun front => (unlike '{' front).2 rfl
  · exact startsAt_other wellFormed brace fun c front => (unlike c front).1

/-- Behind a character that is not loose only a name is looked for, past blanks. -/
theorem startsAt_cons_dropBlanks (wellFormed : signal.WellFormed) (unlike : isLoose c = false)
    (same : Text.dropBlanks s = Text.dropBlanks r) :
    signal.startsAt previous (c :: s) = signal.startsAt other (c :: r) := by
  by_cases brace : signal = property
  · subst brace
    by_cases opening : c = '{'
    · subst opening
      rw [startsAt_property_brace, startsAt_property_brace, same]
    · rw [startsAt_property_other (by simpa using opening),
        startsAt_property_other (by simpa using opening)]
  · rw [startsAt_other wellFormed brace (by simpa using unlike),
      startsAt_other wellFormed brace (by simpa using unlike)]

theorem startsAt_previous (same : wordBegins previous = wordBegins other) :
    signal.startsAt previous s = signal.startsAt other s := by
  cases signal with
  | word keyword | wordBefore keyword c => simp only [startsAt, same]
  | _ => rfl

theorem occursFrom_cons (r : Text) : signal.occursFrom previous (c :: r) =
    (signal.startsAt previous (c :: r) || signal.occursFrom (some c) r) := rfl

theorem occursFrom_skipped (wellFormed : signal.WellFormed) {part : Text}
    (skipped : ∀ c ∈ part, isLoose c = false ∧ c ≠ '{') (r : Text) :
    signal.occursFrom previous (part ++ r) = signal.occursFrom (part.getLast?.or previous) r := by
  induction part generalizing previous with
  | nil => rfl
  | cons c part ih =>
    have passed : signal.startsAt previous (c :: (part ++ r)) = false :=
      startsAt_skipped wellFormed (by simpa using skipped c (by simp))
    rw [List.cons_append, occursFrom_cons, passed, Bool.false_or,
      ih fun d member => skipped d (by simp [member]), List.getLast?_cons]
    cases part.getLast? <;> rfl

end Signal

open Signal

/-! ## What is read through a view -/

/-- A view of texts that keeps the loose characters and, as far as signals look at them, the
blanks and the punctuation between them. -/
structure KeepsLoose (view : Text → Text) : Prop where
  loose : ∀ {c : Char} (r : Text), isLoose c → view (c :: r) = c :: view r
  unlike : ∀ {s : Text}, (∀ c ∈ s.head?, isLoose c = false) →
    ∀ c ∈ (view s).head?, isLoose c = false
  dropBlanks : ∀ s : Text, (view s).dropBlanks = view s.dropBlanks
  anchor : ∀ {s : Text} {c : Char}, isAnchor c → BeginsVisible s →
    ((view s).head? = some c ↔ s.head? = some c)
  blank : ∀ {s : Text}, (view s).head?.any isBlank → s.head?.any isBlank

namespace KeepsLoose

variable {view : Text → Text}

theorem loose_or_unlike (s : Text) :
    (∃ c r, s = c :: r ∧ isLoose c) ∨ ∀ c ∈ s.head?, isLoose c = false := by
  cases s with
  | nil => simp
  | cons c r => by_cases loose : isLoose c <;> simp [loose]

theorem not_any_of_unlike {test : Char → Bool} (tests : ∀ c, test c → isLoose c)
    (unlike : ∀ c ∈ s.head?, isLoose c = false) : s.head?.any test = false := by
  by_contra passes
  obtain ⟨c, front, passes⟩ := (Option.any_eq_true _ _).mp (by simpa using passes)
  exact absurd (tests c passes) (by simp [unlike c front])

theorem head?_any (keeps : KeepsLoose view) {test : Char → Bool}
    (tests : ∀ c, test c → isLoose c) (s : Text) : (view s).head?.any test = s.head?.any test := by
  rcases loose_or_unlike s with ⟨c, r, rfl, loose⟩ | unlike
  · rw [keeps.loose r loose]
    rfl
  · rw [not_any_of_unlike tests unlike, not_any_of_unlike tests (keeps.unlike unlike)]

theorem wordEnds (keeps : KeepsLoose view) (s : Text) : (view s).wordEnds = s.wordEnds := by
  rw [Text.wordEnds, Text.wordEnds, keeps.head?_any fun _ => isLoose_of_isWord]

theorem after? (keeps : KeepsLoose view) (loose : ∀ c ∈ text, isLoose c) (s : Text) :
    Text.after? text (view s) = (Text.after? text s).map view := by
  induction text generalizing s with
  | nil => rfl
  | cons m ms ih =>
    rcases loose_or_unlike s with ⟨c, r, rfl, front⟩ | unlike
    · rw [keeps.loose r front, Text.after?, Text.after?]
      split
      · exact ih (fun c member => loose c (by simp [member])) r
      · rfl
    · rw [after?_other (by simp) loose unlike, after?_other (by simp) loose (keeps.unlike unlike)]
      rfl

theorem afterName? (keeps : KeepsLoose view) {name : Text} (word : ∀ c ∈ name, isWord c)
    (s : Text) : Text.afterName? name (view s) = (Text.afterName? name s).map view := by
  induction name generalizing s with
  | nil => rfl
  | cons m ms ih =>
    rcases loose_or_unlike s with ⟨c, r, rfl, front⟩ | unlike
    · rw [keeps.loose r front, Text.afterName?, Text.afterName?]
      split
      · exact ih (fun c member => word c (by simp [member])) r
      · rfl
    · rw [afterName?_other (word m (by simp)) unlike,
        afterName?_other (word m (by simp)) (keeps.unlike unlike)]
      rfl

theorem blanksThen (keeps : KeepsLoose view) (anchor : isAnchor c) (s : Text) :
    Signal.blanksThen c (view s) = Signal.blanksThen c s := by
  rw [Signal.blanksThen, Signal.blanksThen, keeps.dropBlanks, Bool.eq_iff_iff, beq_iff_eq,
    beq_iff_eq, keeps.anchor anchor (Text.beginsVisible_dropBlanks s)]

theorem dropWhile (keeps : KeepsLoose view) {test : Char → Bool} (tests : ∀ c, test c → isLoose c)
    (s : Text) : (view s).dropWhile test = view (s.dropWhile test) := by
  induction s with
  | nil =>
    refine Text.dropWhile_eq_self ?_
    rw [keeps.head?_any tests]
    rfl
  | cons c r ih =>
    by_cases passes : test c
    · rw [keeps.loose r (tests c passes), List.dropWhile_cons_of_pos passes, ih,
        List.dropWhile_cons_of_pos passes]
    · rw [List.dropWhile_cons_of_neg passes]
      refine Text.dropWhile_eq_self ?_
      rw [keeps.head?_any tests]
      simpa using passes

theorem startsAt_property (keeps : KeepsLoose view) (r : Text) :
    property.startsAt previous ('{' :: view r) = property.startsAt previous ('{' :: r) := by
  rw [startsAt_property_brace, startsAt_property_brace, keeps.dropBlanks,
    keeps.head?_any (fun _ => isLoose_of_isPropertyChar),
    keeps.dropWhile (fun _ => isLoose_of_isPropertyChar), keeps.blanksThen (by decide)]

/-- Only the signal that needs a blank may miss it. -/
theorem startsAt_view (keeps : KeepsLoose view) {signal : Signal} (wellFormed : signal.WellFormed)
    (brace : signal ≠ property) (spaced : signal.needsBlank = false) :
    signal.startsAt previous (view s) = signal.startsAt previous s := by
  cases signal with
  | tag name =>
    have angle : ∀ c ∈ ['<'], isLoose c := List.forall_mem_singleton.mpr (by decide)
    simp only [startsAt_tag_eq, keeps.after? angle, keeps.afterName? wellFormed, Option.any_map,
      keeps.wordEnds]
  | anywhere text => simp [startsAt, keeps.after? wellFormed.2]
  | word keyword =>
    simp only [startsAt, keeps.after? wellFormed.2, Option.any_map, keeps.wordEnds]
  | before text c | wordBefore text c =>
    simp only [startsAt, keeps.after? wellFormed.2.1, Option.any_map,
      keeps.blanksThen wellFormed.2.2]
  | beforeBlank text => cases spaced
  | property => exact absurd rfl brace

theorem startsAt_of_view (keeps : KeepsLoose view) {signal : Signal}
    (wellFormed : signal.WellFormed) (spaced : signal.needsBlank)
    (starts : signal.startsAt previous (view s)) : signal.startsAt previous s := by
  cases signal with
  | beforeBlank text =>
    rw [startsAt, keeps.after? wellFormed.2, Option.any_map] at starts
    obtain ⟨rest, found, blank⟩ := (Option.any_eq_true _ _).mp starts
    exact (Option.any_eq_true _ _).mpr ⟨rest, found, keeps.blank blank⟩
  | _ => cases spaced

end KeepsLoose

/-! ## The two scans of compression -/

theorem dropBlanks_tightenFrom (front : Front) (s : Text) :
    (tightenFrom front s).dropBlanks = tightenFrom .tight s := by
  induction s generalizing front with
  | nil => rfl
  | cons c r ih =>
    by_cases blank : isBlank c
    · rw [Compression.tightenFrom_blank blank, Compression.tightenFrom_blank blank, ih]
      rfl
    · have visible : isBlank c = false := by simpa using blank
      by_cases tight : Compression.isTight c
      · rw [Compression.tightenFrom_tight tight, Compression.tightenFrom_tight tight]
        exact Text.dropBlanks_cons_of_visible visible _
      · have loose : Compression.isTight c = false := by simpa using tight
        rw [Compression.tightenFrom_loose visible loose,
          Compression.tightenFrom_loose visible loose, Text.dropBlanks_append_of_blank]
        · exact Text.dropBlanks_cons_of_visible visible _
        · intro d member
          rw [Compression.mem_space member]
          rfl

theorem head?_tightenFrom_apart (s : Text) :
    ∀ c ∈ (tightenFrom .apart s).head?, isLoose c = false := by
  induction s with
  | nil => simp [tightenFrom]
  | cons c r ih =>
    by_cases blank : isBlank c
    · rwa [Compression.tightenFrom_blank blank]
    · by_cases tight : Compression.isTight c
      · rw [Compression.tightenFrom_tight tight]
        simpa using not_isLoose_of_isTight tight
      · rw [Compression.tightenFrom_loose (by simpa using blank) (by simpa using tight)]
        rintro d first
        obtain rfl : ' ' = d := by simpa [Front.space] using first
        decide

theorem head?_tightenFrom {front : Front} (visible : BeginsVisible s)
    (close : front ≠ .apart) : (tightenFrom front s).head? = s.head? := by
  cases s with
  | nil => rfl
  | cons c r =>
    by_cases tight : Compression.isTight c
    · rw [Compression.tightenFrom_tight tight]
      rfl
    · rw [Compression.tightenFrom_loose (visible c rfl) (by simpa using tight)]
      cases front with
      | apart => exact absurd rfl close
      | tight | loose => rfl

theorem keepsLoose_tightenFrom : KeepsLoose (tightenFrom .loose) where
  loose r loose := Compression.tightenFrom_loose (isLoose_iff.mp loose).1 (isLoose_iff.mp loose).2 r
  unlike {s} unlike := by
    cases s with
    | nil => simp [tightenFrom]
    | cons c r =>
      by_cases blank : isBlank c
      · rw [Compression.tightenFrom_blank blank]
        exact head?_tightenFrom_apart r
      · have visible : BeginsVisible (c :: r) := by simpa [BeginsVisible] using blank
        rwa [head?_tightenFrom visible (by decide)]
  dropBlanks s := by
    rw [dropBlanks_tightenFrom,
      Compression.tightenFrom_beginsVisible (Text.beginsVisible_dropBlanks s),
      Compression.tightenFrom_dropBlanks rfl]
  anchor _ visible := by rw [head?_tightenFrom visible (by decide)]
  blank {s} blank := by
    by_contra visible
    have begins : BeginsVisible s := by
      intro c first
      simpa [Option.mem_def.mp first] using visible
    rw [head?_tightenFrom begins (by decide)] at blank
    exact visible blank

theorem head?_terminated_other (other : c ≠ ';') (brace : c ≠ '}') :
    (terminated s).head? = some c ↔ s.head? = some c := by
  constructor
  · intro first
    rcases Compression.head?_terminated (s := s) first with same | ⟨closing, -⟩
    · exact same
    · exact absurd closing brace
  · intro first
    obtain ⟨r, rfl⟩ := List.head?_eq_some_iff.mp first
    rw [terminated, terminators.replace_none _ (Compression.terminators_read_of_ne other r)]
    rfl

theorem keepsLoose_terminated : KeepsLoose terminated where
  loose r loose := by
    refine terminators.replace_none _ (Compression.terminators_read_of_ne ?_ r)
    rintro rfl
    exact absurd loose (by decide)
  unlike unlike c first := by
    rcases Compression.head?_terminated first with same | ⟨rfl, -⟩
    · exact unlike c same
    · decide
  dropBlanks := Compression.dropBlanks_terminated
  anchor anchor _ := by
    simp only [isAnchor, Bool.and_eq_true, bne_iff_ne] at anchor
    exact head?_terminated_other anchor.1.2 anchor.2
  blank {s} blank := by
    obtain ⟨c, first, blank⟩ := (Option.any_eq_true _ _).mp blank
    rcases Compression.head?_terminated (s := s) first with same | ⟨rfl, -⟩
    · exact (Option.any_eq_true _ _).mpr ⟨c, same, blank⟩
    · cases blank

structure IsComparison (compare : Bool → Bool → Prop) : Prop where
  refl : ∀ a, compare a a
  trans : ∀ {a b c}, compare a b → compare b c → compare a c
  or : ∀ {a b c d}, compare a b → compare c d → compare (a || c) (b || d)

theorem isComparison_eq : IsComparison (· = ·) where
  refl _ := rfl
  trans := Eq.trans
  or first second := by rw [first, second]

theorem isComparison_imp : IsComparison (fun a b => a → b) where
  refl _ := id
  trans first second := second ∘ first
  or first second found := by
    rw [Bool.or_eq_true] at found ⊢
    exact found.imp first second

namespace Signal

variable {signal : Signal} {compare : Bool → Bool → Prop}

/-- How the answers compare if what stands behind the first character is read through a view. -/
def Compares (signal : Signal) (compare : Bool → Bool → Prop) : Prop :=
  ∀ {view : Text → Text}, KeepsLoose view → ∀ (previous : Option Char) (c : Char) (r : Text),
    compare (signal.startsAt previous (c :: view r)) (signal.startsAt previous (c :: r))

theorem compares_eq (wellFormed : signal.WellFormed) (spaced : signal.needsBlank = false) :
    signal.Compares (· = ·) := by
  intro view keeps previous c r
  by_cases brace : signal = property
  · subst brace
    by_cases opening : c = '{'
    · rw [opening, keeps.startsAt_property]
    · rw [startsAt_property_other (by simpa using opening),
        startsAt_property_other (by simpa using opening)]
  · by_cases loose : isLoose c
    · rw [← keeps.loose r loose, keeps.startsAt_view wellFormed brace spaced]
    · rw [startsAt_other wellFormed brace (by simpa using loose),
        startsAt_other wellFormed brace (by simpa using loose)]

theorem compares_imp (wellFormed : signal.WellFormed) : signal.Compares fun a b => a → b := by
  intro view keeps previous c r starts
  cases spaced : signal.needsBlank with
  | false => rwa [compares_eq wellFormed spaced keeps] at starts
  | true =>
    have brace : signal ≠ property := by
      rintro rfl
      cases spaced
    by_cases loose : isLoose c
    · rw [← keeps.loose r loose] at starts
      exact keeps.startsAt_of_view wellFormed spaced starts
    · rw [startsAt_other wellFormed brace (by simpa using loose)] at starts
      cases starts

/-- What stands in front of a place in the text and of the same place in the tightened one,
as far as it keeps a word from beginning there. -/
def Parts (front : Front) (previous other : Option Char) : Prop :=
  match front with
  | .tight => wordBegins previous ∧ wordBegins other
  | .loose => previous = other
  | .apart => wordBegins other

theorem wordBegins_some (boundary : isWord c = false) : wordBegins (some c) := by
  simp [wordBegins, boundary]

theorem Parts.behindBlank {front : Front} (parts : Parts front previous other) (blank : isBlank c) :
    Parts front.behindBlank previous (some c) := by
  have begins := wordBegins_some (not_isWord_of_isBlank blank)
  cases front with
  | tight => exact ⟨parts.1, begins⟩
  | loose | apart => exact begins

theorem compare_tightenFrom (wellFormed : signal.WellFormed) (comparison : IsComparison compare)
    (compares : signal.Compares compare) {front : Front} (parts : Parts front previous other)
    (s : Text) : compare (signal.occursFrom previous (tightenFrom front s))
      (signal.occursFrom other s) := by
  induction s generalizing front previous other with
  | nil =>
    have none (neighbour : Option Char) : signal.occursFrom neighbour [] = false :=
      startsAt_skipped wellFormed (by simp)
    rw [tightenFrom, none, none]
    exact comparison.refl false
  | cons c r ih =>
    by_cases blank : isBlank c
    · -- No signal begins at a blank.
      have passed : signal.startsAt other (c :: r) = false :=
        startsAt_skipped wellFormed (by simpa using skipped_of_isBlank blank)
      rw [Compression.tightenFrom_blank blank, occursFrom_cons, passed, Bool.false_or]
      exact ih (parts.behindBlank blank)
    · by_cases tight : Compression.isTight c
      · have behind : (tightenFrom .tight r).dropBlanks = (tightenFrom .loose r).dropBlanks := by
          rw [dropBlanks_tightenFrom, dropBlanks_tightenFrom]
        have begins : wordBegins (some c) := wordBegins_some (not_isWord_of_isTight tight)
        rw [Compression.tightenFrom_tight tight, occursFrom_cons, occursFrom_cons,
          startsAt_cons_dropBlanks wellFormed (not_isLoose_of_isTight tight) behind]
        exact comparison.or (compares keepsLoose_tightenFrom other c r) (ih ⟨begins, begins⟩)
      · have visible : isBlank c = false := by simpa using blank
        have loose : Compression.isTight c = false := by simpa using tight
        -- A word begins behind the space where it begins behind the blanks.
        have same : signal.occursFrom previous (tightenFrom front (c :: r)) =
            signal.occursFrom other (c :: tightenFrom .loose r) := by
          rw [Compression.tightenFrom_loose visible loose]
          cases front with
          | tight =>
            rw [Front.space, List.nil_append, occursFrom_cons, occursFrom_cons,
              startsAt_previous (parts.1.trans parts.2.symm)]
          | loose => rw [Front.space, List.nil_append, parts]
          | apart =>
            have space : ∀ c ∈ [' '], isLoose c = false ∧ c ≠ '{' :=
              List.forall_mem_singleton.mpr (by decide)
            rw [Front.space, occursFrom_skipped wellFormed space, occursFrom_cons,
              occursFrom_cons, startsAt_previous]
            exact (wordBegins_some (by decide)).trans parts.symm
        rw [same, occursFrom_cons, occursFrom_cons]
        exact comparison.or (compares keepsLoose_tightenFrom other c r) (ih rfl)

theorem compare_terminated (wellFormed : signal.WellFormed) (comparison : IsComparison compare)
    (compares : signal.Compares compare) (s : Text) :
    compare (signal.occursFrom previous (terminated s)) (signal.occursFrom previous s) := by
  induction s using terminators.scan_induction generalizing previous with
  | done =>
    rw [Compression.terminated_nil]
    exact comparison.refl _
  | keep c r kept ih =>
    rw [terminated, terminators.replace_none _ kept, occursFrom_cons, occursFrom_cons]
    exact comparison.or (compares keepsLoose_terminated previous c r) ih
  | take s a rest taken ih =>
    obtain ⟨run, rfl, skipped⟩ := Compression.terminators_read_eq_some_iff.mp taken
    have dropped : ∀ c ∈ run, isLoose c = false ∧ c ≠ '{' := by
      intro c member
      rcases skipped c member with rfl | blank
      · decide
      · exact skipped_of_isBlank blank
    have closing : ∀ c ∈ ['}'], isLoose c = false ∧ c ≠ '{' :=
      List.forall_mem_singleton.mpr (by decide)
    have passed : ∀ c ∈ ';' :: run ++ ['}'], isLoose c = false ∧ c ≠ '{' :=
      List.forall_mem_append.mpr ⟨List.forall_mem_cons.mpr ⟨by decide, dropped⟩, closing⟩
    have last : (';' :: run ++ ['}']).getLast? = some '}' := List.getLast?_concat
    rw [terminated, terminators.replace_some _ taken, occursFrom_skipped wellFormed closing,
      ← List.cons_append, occursFrom_skipped wellFormed passed, last]
    exact ih

theorem compare_compress (wellFormed : signal.WellFormed) (comparison : IsComparison compare)
    (compares : signal.Compares compare) (s : Text) :
    compare (signal.occursIn (compress s)) (signal.occursIn s) := by
  have edges : Parts .tight none none := ⟨rfl, rfl⟩
  rw [Compression.compress_eq]
  exact comparison.trans (compare_terminated wellFormed comparison compares _)
    (compare_tightenFrom wellFormed comparison compares edges s)

theorem occursIn_compress (wellFormed : signal.WellFormed) (spaced : signal.needsBlank = false)
    (s : Text) : signal.occursIn (compress s) = signal.occursIn s :=
  compare_compress wellFormed isComparison_eq (compares_eq wellFormed spaced) s

theorem occursIn_of_compress (wellFormed : signal.WellFormed)
    (occurs : signal.occursIn (compress s)) : signal.occursIn s :=
  compare_compress wellFormed isComparison_imp (compares_imp wellFormed) s occurs

end Signal

end Snippet
