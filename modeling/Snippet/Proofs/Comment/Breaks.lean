import Snippet.Proofs.Comment.Respacing

/-! Comments of a laid out script.

Up to blanks, a layout does to comments what the line breaks do that it writes. One of them
in a line comment ends it, and what stands behind it becomes code. Where a line comment holds
nothing behind its first break that is code on its own, it stays a comment.
-/

set_option autoImplicit false

namespace Snippet.Comment

open Layout (GapRule)
open Compression (isTight tightenFrom)

variable {s t r rest gap : Text} {c d : Char} {front : Option Char}

/-! ## Line layout -/

/-- A line break behind each semicolon and opening brace and before each closing brace. -/
def breakLines (s : Text) : Text := s.flatMap fun c =>
  if c = ';' ∨ c = '{' then [c, '\n'] else if c = '}' then ['\n', c] else [c]

def broken : GapRule := fun front gap behind =>
  (if front = some ';' ∨ front = some '{' then ['\n'] else []) ++
    (gap ++ if behind = some '}' then ['\n'] else [])

theorem breakLines_append (s t : Text) : breakLines (s ++ t) = breakLines s ++ breakLines t :=
  List.flatMap_append

theorem breakLines_of_plain (plain : ∀ c ∈ s, c ≠ ';' ∧ c ≠ '{' ∧ c ≠ '}') : breakLines s = s := by
  induction s with
  | nil => rfl
  | cons c s ih =>
    obtain ⟨semicolon, opening, closing⟩ := plain c (by simp)
    have kept : breakLines (c :: s) = [c] ++ breakLines s := by
      simp [breakLines, semicolon, opening, closing]
    rw [kept, ih fun d member => plain d (by simp [member])]
    rfl

theorem breakLines_of_blank (blank : ∀ c ∈ gap, isBlank c) : breakLines gap = gap := by
  refine breakLines_of_plain fun c member => ⟨?_, ?_, ?_⟩
  all_goals
    rintro rfl
    exact absurd (blank _ member) (by decide)

theorem breakLines_eq_fill (s : Text) : breakLines s = broken.fill s := by
  refine GapRule.eq_fill (fun front s =>
    (if front = some ';' ∨ front = some '{' then ['\n'] else []) ++ breakLines s)
    (fun front gap blank => ?_) (fun front gap c r blank visible => ?_) s
  · simp [broken, breakLines_of_blank blank]
  · have around : breakLines (c :: r) = (if c = '}' then ['\n'] else []) ++
        c :: ((if c = ';' ∨ c = '{' then ['\n'] else []) ++ breakLines r) := by
      by_cases closing : c = '}'
      · simp [breakLines, closing]
      · by_cases behind : c = ';' ∨ c = '{'
        · simp [breakLines, closing, behind]
        · simp [breakLines, closing, behind]
    rw [breakLines_append, breakLines_of_blank blank, around]
    simp [broken]

theorem writesBlanks_broken : broken.WritesBlanks := by
  intro front behind gap blank c member
  have line_break : isBlank '\n' := by decide
  simp only [broken, List.mem_append] at member
  rcases member with member | member | member
  · split at member
    · rwa [List.mem_singleton.mp member]
    · simp at member
  · exact blank c member
  · split at member
    · rwa [List.mem_singleton.mp member]
    · simp at member

theorem any_isLineEnd_mergeLines (blank : ∀ c ∈ gap, isBlank c) :
    (Layout.mergeLines gap).any isLineEnd = gap.any isLineEnd := by
  induction gap with
  | nil => rw [Layout.mergeLines_nil]
  | cons c gap ih =>
    have behind : ∀ d ∈ gap, isBlank d := fun d member => blank d (by simp [member])
    by_cases line_break : c = '\n'
    · subst line_break
      rw [Layout.mergeLines_break behind]
      rfl
    · rw [Layout.mergeLines_of_ne line_break, List.any_cons, List.any_cons, ih behind]

/-- The layout of scripts ends lines where line breaks were put into the text. -/
theorem sameGap_script (blank : ∀ d ∈ gap, isBlank d) :
    SameGap true front c (GapRule.script front gap (some c)) (broken front gap (some c)) where
  blank := GapRule.writesBlanks_script front (some c) gap blank
  blank_other := writesBlanks_broken front (some c) gap blank
  lines _ some_front := by
    obtain ⟨b, rfl⟩ := Option.isSome_iff_exists.mp some_front
    have line_break : isLineEnd '\n' := by decide
    have broken_line {text : Text} (blank : text.allBlank) (ends : text.any isLineEnd) :
        (Layout.mergeLines text).any isLineEnd := by
      rw [any_isLineEnd_mergeLines (List.all_eq_true.mp blank), ends]
    rw [GapRule.script_between]
    by_cases closing : c = '}'
    · rw [if_pos closing, broken_line rfl rfl]
      simp [broken, closing, line_break]
    by_cases opening : b = '{'
    · rw [if_neg closing, if_pos opening, broken_line rfl rfl]
      simp [broken, opening, line_break]
    by_cases semicolon : b = ';'
    · rw [if_neg closing, if_neg opening, if_pos semicolon, broken_line rfl rfl]
      simp [broken, semicolon, line_break]
    · rw [if_neg closing, if_neg opening, if_neg semicolon, any_isLineEnd_mergeLines blank]
      simp [broken, closing, opening, semicolon]
  parted front_mark mark := by
    obtain ⟨b, rfl, mark_before⟩ := (Option.any_eq_true _ _).mp front_mark
    have ne_of_isMark {a : Char} (mark : isMark a) : a ≠ '}' ∧ a ≠ '{' ∧ a ≠ ';' := by
      refine ⟨?_, ?_, ?_⟩ <;> rintro rfl <;> cases mark
    obtain ⟨closing, -, -⟩ := ne_of_isMark mark
    obtain ⟨-, opening, semicolon⟩ := ne_of_isMark mark_before
    have kept : broken (some b) gap (some c) = gap := by
      simp [broken, closing, opening, semicolon]
    rw [GapRule.script_between, if_neg closing, if_neg opening, if_neg semicolon, kept]
    exact ⟨fun none => by_contra fun some_gap => Layout.mergeLines_ne_nil some_gap none,
      fun none => none ▸ Layout.mergeLines_nil⟩

theorem respaced_layOutScript (code : Text) :
    Respaced true none (layOutScript code) (breakLines code) := by
  rw [Layout.layOutScript_eq_fill, breakLines_eq_fill]
  exact respaced_fillFrom GapRule.writesBlanks_script writesBlanks_broken sameGap_script (by simp) code

/-! ## Line comments that stay comments -/

/-- What the line breaks put into a comment leave of it. -/
def brokenComment (comment : Text) : Text := line.erase (breakLines ("//".toList ++ comment))

/-- Broken as layout breaks it, the comment holds nothing but comments and blanks. -/
def StaysComment (comment : Text) : Prop := (brokenComment comment).allBlank

instance (comment : Text) : Decidable (StaysComment comment) :=
  inferInstanceAs (Decidable (_ = true))

theorem breakLines_cons (c : Char) (r : Text) : breakLines (c :: r) = breakLines [c] ++ breakLines r :=
  breakLines_append [c] r

theorem startsLine_breakLines (plain : startsLine (c :: r) = false) :
    startsLine (c :: breakLines r) = false := by
  by_cases slash : c = '/'
  · subst slash
    rw [startsLine_slash] at plain ⊢
    cases r with
    | nil => simp [breakLines]
    | cons d r =>
      have other : d ≠ '/' := by simpa using plain
      simp only [breakLines, List.flatMap_cons]
      split
      · simpa using other
      · split
        · simp
        · simpa using other
  · simp [startsLine, slash]

theorem eraseLine_breakLines_keep (plain : startsLine (c :: r) = false) :
    line.erase (breakLines (c :: r)) = breakLines [c] ++ line.erase (breakLines r) := by
  by_cases slash : c = '/'
  · subst slash
    exact eraseLine_cons (startsLine_breakLines plain)
  · have plain : '/' ∉ breakLines [c] := by
      simp only [breakLines, List.flatMap_singleton]
      split
      · simp [Ne.symm slash]
      · split <;> simp [Ne.symm slash]
    rw [breakLines_cons]
    exact line_begins.erase_append plain _

/-- A comment is broken apart from the lines behind it. -/
theorem eraseLine_breakLines_take (r : Text) : line.erase (breakLines ('/' :: '/' :: r)) =
    brokenComment (r.takeWhile (!isLineEnd ·)) ++
      line.erase (breakLines (r.dropWhile (!isLineEnd ·))) := by
  have parts : breakLines ('/' :: '/' :: r) =
      breakLines ("//".toList ++ r.takeWhile (!isLineEnd ·)) ++
        breakLines (r.dropWhile (!isLineEnd ·)) := by
    rw [← breakLines_append, List.append_assoc, List.takeWhile_append_dropWhile]
    rfl
  have stopped := List.head?_dropWhile_not (!isLineEnd ·) r
  rw [parts, brokenComment]
  generalize r.dropWhile (!isLineEnd ·) = rest at stopped ⊢
  cases rest with
  | nil => simp [breakLines]
  | cons e q =>
    have line_end : isLineEnd e := by simpa using stopped
    have kept : breakLines (e :: q) = e :: breakLines q := by
      rw [breakLines_cons, breakLines_of_blank (by simpa using isBlank_of_isLineEnd line_end)]
      rfl
    have front_kept := eraseLine_append line_end [] (breakLines q)
    rw [line.erase_nil, List.nil_append, List.nil_append] at front_kept
    rw [kept, eraseLine_append line_end, front_kept]

theorem alike_breakLines (c : Char) : Compression.Alike (breakLines [c]) [c] := by
  have line_break : ∀ d ∈ ['\n'], isBlank d := List.forall_mem_singleton.mpr rfl
  by_cases behind : c = ';' ∨ c = '{'
  · have tight : isTight c := by rcases behind with rfl | rfl <;> rfl
    have around : breakLines [c] = [] ++ c :: ['\n'] := by simp [breakLines, behind]
    rw [around]
    exact Compression.alike_around_tight (by simp) tight line_break
  by_cases closing : c = '}'
  · subst closing
    exact Compression.alike_around_tight line_break rfl (by simp)
  · have same : breakLines [c] = [c] := by simp [breakLines, behind, closing]
    rw [same]
    exact fun _ _ => rfl

theorem visible_breakLines (c : Char) : (breakLines [c]).visible = Text.visible [c] := by
  have same := alike_breakLines c .tight []
  rw [List.append_nil, List.append_nil] at same
  rw [(respaced_tightenFrom _).visible_eq, same, ← (respaced_tightenFrom _).visible_eq]

theorem tightenFrom_blanks_lineEnd {e : Char} (line_end : isLineEnd e) (blank : ∀ c ∈ gap, isBlank c)
    (front : Compression.Front) (r : Text) :
    tightenFrom front (gap ++ e :: r) = tightenFrom front (e :: r) := by
  have blanks : ∀ c ∈ gap ++ [e], isBlank c :=
    List.forall_mem_append.mpr ⟨blank, List.forall_mem_singleton.mpr (isBlank_of_isLineEnd line_end)⟩
  have whole : tightenFrom front (gap ++ [e] ++ r) = tightenFrom front.behindBlank r :=
    Compression.tightenFrom_gap blanks (by simp) r
  rw [List.append_assoc, List.singleton_append] at whole
  rw [whole, Compression.tightenFrom_blank (isBlank_of_isLineEnd line_end)]

/-- Where all line comments stay comments, breaking lines adds nothing but blanks to the code. -/
theorem tightenFrom_eraseLine_breakLines (front : Compression.Front)
    (stay : ∀ comment ∈ line.findAll s, StaysComment comment) :
    tightenFrom front (line.erase (breakLines s)) = tightenFrom front (line.erase s) := by
  induction s using line.scan_induction generalizing front with
  | done => rfl
  | keep c r kept ih =>
    rw [line.findAll_none kept] at stay
    have plain := line_read_eq_none.mp kept
    rw [eraseLine_breakLines_keep plain, eraseLine_cons plain, alike_breakLines c front,
      List.singleton_append]
    simp only [tightenFrom, ih _ stay]
  | take s comment rest taken ih =>
    rw [line.findAll_some taken, List.forall_mem_cons] at stay
    obtain ⟨stays, stay⟩ := stay
    have inner := ih front stay
    rw [line.erase_some taken, ← inner]
    obtain ⟨r, rfl, rfl, rfl⟩ := line_read_eq_some.mp taken
    have blank := List.all_eq_true.mp stays
    have stopped := List.head?_dropWhile_not (!isLineEnd ·) r
    rw [eraseLine_breakLines_take]
    -- What is left of the comment stands at the end of a line or of the text.
    generalize r.dropWhile (!isLineEnd ·) = rest at stopped ⊢
    cases rest with
    | nil =>
      have trailing : tightenFrom front ([] ++ brokenComment (r.takeWhile (!isLineEnd ·))) =
          tightenFrom front [] := Compression.tightenFrom_trailing blank []
      simpa [breakLines] using trailing
    | cons e q =>
      have line_end : isLineEnd e := by simpa using stopped
      have plain : startsLine (e :: q) = false := by
        refine line_read_eq_none.mp (line_begins.read_eq_none ?_)
        rintro rfl
        cases line_end
      rw [eraseLine_breakLines_keep plain,
        breakLines_of_blank (by simpa using isBlank_of_isLineEnd line_end)]
      exact tightenFrom_blanks_lineEnd line_end blank front _

theorem length_visible_breakLines (s : Text) : (line.erase (breakLines s)).visible.length =
    (line.erase s).visible.length +
      ((line.findAll s).flatMap fun comment => (brokenComment comment).visible).length := by
  induction s using line.scan_induction with
  | done => simp [breakLines]
  | keep c r kept ih =>
    have plain := line_read_eq_none.mp kept
    rw [eraseLine_breakLines_keep plain, eraseLine_cons plain, line.findAll_none kept,
      Text.visible_append, visible_breakLines, Text.visible_cons c (line.erase r),
      List.length_append, List.length_append, ih, Nat.add_assoc]
  | take s comment rest taken ih =>
    rw [line.erase_some taken, line.findAll_some taken, List.flatMap_cons, List.length_append]
    obtain ⟨r, rfl, rfl, rfl⟩ := line_read_eq_some.mp taken
    rw [eraseLine_breakLines_take, Text.visible_append, List.length_append, ih]
    omega

theorem visible_eraseLine_breakLines (s : Text) :
    (line.erase (breakLines s)).visible = (line.erase s).visible ↔
      ∀ comment ∈ line.findAll s, StaysComment comment := by
  constructor
  · intro same comment member
    have counted := length_visible_breakLines s
    rw [same] at counted
    have nothing := List.length_eq_zero_iff.mp (Nat.left_eq_add.mp counted)
    exact Text.visible_eq_nil_iff.mp (List.flatMap_eq_nil_iff.mp nothing comment member)
  · intro stay
    rw [(respaced_tightenFrom _).visible_eq, tightenFrom_eraseLine_breakLines .tight stay,
      ← (respaced_tightenFrom _).visible_eq]

end Snippet.Comment
