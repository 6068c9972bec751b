import Mathlib.Data.List.Infix
import Snippet.Text.Blank
import Snippet.Text.Word

/-! Blanks at the edges of a text, and the characters that are no blanks. -/

set_option autoImplicit false

namespace Snippet

theorem toNat_of_isWord {c : Char} (word : isWord c) : 48 ≤ c.toNat ∧ c.toNat ≤ 122 := by
  have classes : (c.isUpper || c.isLower || c.isDigit || c == '_') = true := word
  simp only [Bool.or_eq_true, beq_iff_eq] at classes
  rcases classes with ((upper | lower) | digit) | rfl
  · have range : decide (c.val ≥ 'A'.val ∧ c.val ≤ 'Z'.val) = true := upper
    simp only [decide_eq_true_eq, ge_iff_le, UInt32.le_iff_toNat_le] at range
    exact ⟨le_trans (by decide) range.1, le_trans range.2 (by decide)⟩
  · have range : (decide (c.val ≥ 'a'.val) && decide (c.val ≤ 'z'.val)) = true := lower
    simp only [Bool.and_eq_true, decide_eq_true_eq, ge_iff_le, UInt32.le_iff_toNat_le] at range
    exact ⟨le_trans (by decide) range.1, le_trans range.2 (by decide)⟩
  · have range := Char.isDigit_iff_toNat.mp digit
    exact ⟨range.1, le_trans range.2 (by decide)⟩
  · decide

theorem isBlank_of_isWord {c : Char} (word : isWord c) : isBlank c = false := by
  have range := toNat_of_isWord word
  simp only [isBlank, Bool.or_eq_false_iff, Bool.and_eq_false_iff, decide_eq_false_iff_not,
    beq_eq_false_iff_ne]
  omega

theorem not_isWord_of_isBlank {c : Char} (blank : isBlank c) : isWord c = false := by
  by_contra word
  rw [isBlank_of_isWord (by simpa using word)] at blank
  cases blank

namespace Text

variable {s t : Text}

theorem head?_any_iff {test : Char → Bool} :
    s.head?.any test ↔ ∃ c r, s = c :: r ∧ test c := by
  cases s <;> simp

def BeginsVisible (s : Text) : Prop := ∀ c ∈ s.head?, isBlank c = false

def EndsVisible (s : Text) : Prop := ∀ c ∈ s.getLast?, isBlank c = false

theorem beginsVisible_reverse : BeginsVisible s.reverse ↔ EndsVisible s := by
  simp only [BeginsVisible, EndsVisible, List.head?_reverse]

theorem BeginsVisible.of_isPrefix (visible : BeginsVisible t) (front : s <+: t) :
    BeginsVisible s := by
  obtain ⟨rest, rfl⟩ := front
  intro c first
  exact visible c (by simp_all [Option.mem_def])

theorem beginsVisible_dropBlanks (s : Text) : BeginsVisible s.dropBlanks := by
  intro c first
  have stopped := List.head?_dropWhile_not isBlank s
  simpa [show (s.dropWhile isBlank).head? = some c from first] using stopped

theorem dropBlanks_eq_self (visible : BeginsVisible s) : s.dropBlanks = s := by
  cases s with
  | nil => rfl
  | cons c r => simp [dropBlanks, visible c rfl]

theorem dropBlanks_suffix (s : Text) : s.dropBlanks <:+ s := List.dropWhile_suffix isBlank

theorem dropBlanks_cons_of_blank {c : Char} (blank : isBlank c) (s : Text) :
    dropBlanks (c :: s) = dropBlanks s := by
  simp [dropBlanks, blank]

theorem dropBlanks_cons_of_visible {c : Char} (visible : isBlank c = false) (s : Text) :
    dropBlanks (c :: s) = c :: s :=
  List.dropWhile_cons_of_neg (by simp [visible])

theorem dropBlanks_append_of_blank {gap : Text} (blank : ∀ c ∈ gap, isBlank c) (s : Text) :
    dropBlanks (gap ++ s) = dropBlanks s := by
  induction gap with
  | nil => rfl
  | cons c gap ih =>
    rw [List.cons_append, dropBlanks_cons_of_blank (blank c (by simp))]
    exact ih fun b member => blank b (by simp [member])

theorem dropBlanks_gap {gap : Text} {c : Char} (blank : ∀ d ∈ gap, isBlank d)
    (visible : isBlank c = false) (s : Text) : dropBlanks (gap ++ c :: s) = c :: s := by
  rw [dropBlanks_append_of_blank blank, dropBlanks_cons_of_visible visible]

theorem dropBlanks_of_blank (blank : ∀ c ∈ s, isBlank c) : dropBlanks s = [] := by
  have dropped := dropBlanks_append_of_blank blank []
  rwa [List.append_nil] at dropped

theorem isBlank_of_mem_leadingBlanks {c : Char} (member : c ∈ s.leadingBlanks) : isBlank c :=
  List.all_eq_true.mp List.all_takeWhile c member

theorem leadingBlanks_append_of_blank {gap : Text} (blank : ∀ c ∈ gap, isBlank c)
    (visible : BeginsVisible s) : leadingBlanks (gap ++ s) = gap := by
  rw [leadingBlanks, List.takeWhile_append_of_pos blank]
  cases s with
  | nil => simp
  | cons c r => simp [visible c rfl]

theorem isPrefix_dropTrailingBlanks (s : Text) : s.dropTrailingBlanks <+: s := by
  rw [dropTrailingBlanks, ← List.reverse_suffix, List.reverse_reverse]
  exact dropBlanks_suffix s.reverse

theorem isInfix_trim (s : Text) : s.trim <:+: s :=
  (isPrefix_dropTrailingBlanks _).isInfix.trans (dropBlanks_suffix s).isInfix

theorem beginsVisible_trim (s : Text) : BeginsVisible s.trim :=
  (beginsVisible_dropBlanks s).of_isPrefix (isPrefix_dropTrailingBlanks _)

theorem endsVisible_trim (s : Text) : EndsVisible s.trim := by
  rw [← beginsVisible_reverse, trim, dropTrailingBlanks, List.reverse_reverse]
  exact beginsVisible_dropBlanks _

theorem trim_eq_self (begins : BeginsVisible s) (ends : EndsVisible s) : s.trim = s := by
  rw [trim, dropBlanks_eq_self begins, dropTrailingBlanks,
    dropBlanks_eq_self (beginsVisible_reverse.mpr ends), List.reverse_reverse]

theorem endsVisible_append (ends : EndsVisible t) (some_text : t ≠ []) (s : Text) :
    EndsVisible (s ++ t) := by
  intro c last
  exact ends c (by rwa [List.getLast?_append_of_ne_nil _ some_text] at last)

theorem endsVisible_concat {c : Char} (visible : isBlank c = false) (s : Text) :
    EndsVisible (s ++ [c]) := by
  intro d lastly
  rw [List.getLast?_concat] at lastly
  cases lastly
  exact visible

theorem dropBlanks_append (visible : BeginsVisible t) (s : Text) :
    dropBlanks (s ++ t) = dropBlanks s ++ t := by
  rw [dropBlanks, List.dropWhile_append]
  split
  · next blank =>
    rw [← dropBlanks, dropBlanks_eq_self visible, dropBlanks, List.isEmpty_iff.mp blank,
      List.nil_append]
  · rfl

theorem dropTrailingBlanks_append (ends : EndsVisible s) (t : Text) :
    dropTrailingBlanks (s ++ t) = s ++ dropTrailingBlanks t := by
  rw [dropTrailingBlanks, List.reverse_append, dropBlanks_append (beginsVisible_reverse.mpr ends),
    List.reverse_append, List.reverse_reverse, dropTrailingBlanks]

theorem trim_append (begins : BeginsVisible t) (ends : EndsVisible t) (some_text : t ≠ [])
    (s u : Text) : trim (s ++ (t ++ u)) = s.dropBlanks ++ (t ++ u.dropTrailingBlanks) := by
  have front : BeginsVisible (t ++ u) := by
    intro c first
    exact begins c (by rwa [List.head?_append_of_ne_nil _ some_text] at first)
  have turned : u.reverse ++ (s.dropBlanks ++ t).reverse =
      (s.dropBlanks ++ (t ++ u)).reverse := by simp
  have back : BeginsVisible (s.dropBlanks ++ t).reverse :=
    beginsVisible_reverse.mpr (endsVisible_append ends some_text _)
  rw [trim, dropBlanks_append front, dropTrailingBlanks, ← turned, dropBlanks_append back,
    dropTrailingBlanks]
  simp

/-! ## Words -/

theorem wordEnds_cons {c : Char} : wordEnds (c :: s) ↔ isWord c = false := by
  simp [wordEnds]

theorem isWord_of_mem_takeWord {c : Char} (member : c ∈ s.takeWord) : isWord c :=
  List.all_eq_true.mp List.all_takeWhile c member

theorem takeWord_append_of_word {name : Text} (word : ∀ c ∈ name, isWord c) (ends : wordEnds s) :
    takeWord (name ++ s) = name := by
  rw [takeWord, List.takeWhile_append_of_pos word]
  cases s with
  | nil => simp
  | cons c r => simp [wordEnds_cons.mp ends]

theorem dropWord_append_of_word {name : Text} (word : ∀ c ∈ name, isWord c) (ends : wordEnds s) :
    dropWord (name ++ s) = s := by
  have parts := takeWord_append_dropWord (name ++ s)
  rw [takeWord_append_of_word word ends] at parts
  exact List.append_cancel_left parts

theorem wordEnds_dropWord (s : Text) : wordEnds s.dropWord := by
  have stopped := List.head?_dropWhile_not isWord s
  rw [wordEnds, dropWord]
  cases front : (s.dropWhile isWord).head? with
  | none => rfl
  | some c => simpa [front] using stopped

end Text

end Snippet
