import Mathlib.Data.List.TakeWhile
import Snippet.Proofs.Comment.Breaks
import Snippet.Proofs.Compression.Tokens

/-! Comments of a compressed script.

Compression makes spaces of line breaks, so the first line comment of a compressed text takes
everything behind it. The semicolons that compression drops stand directly before a closing
brace and belong to the same comment as that brace, or to none.
-/

set_option autoImplicit false

namespace Snippet.Comment

open Layout (GapRule)
open Compression (closes closes_cons terminators tightenFrom)

variable {α : Type} {s t r rest gap : Text} {c d : Char}

/-! ## Semicolons before a closing brace -/

/-- The text without the runs of semicolons that a closing brace directly follows. -/
def dropTerminators : Text → Text
  | [] => []
  | c :: r => if c = ';' ∧ closes r then dropTerminators r else c :: dropTerminators r

/-- The second text is the first one without some semicolons and spaces that, but for more of
them, stand directly before a closing brace. -/
inductive Dropping : Text → Text → Prop where
  | done : Dropping [] []
  | keep {s t : Text} (c : Char) : Dropping s t → Dropping (c :: s) (c :: t)
  | drop {c : Char} {s t : Text} : c = ';' ∨ isBlank c → isLineEnd c = false → closes s.visible →
      Dropping s t → Dropping (c :: s) t

theorem visible_cons_of_visible (visible : isBlank c = false) (s : Text) :
    Text.visible (c :: s) = c :: s.visible :=
  List.filter_cons_of_pos (by simp [visible])

theorem visible_cons_of_blank (blank : isBlank c) (s : Text) :
    Text.visible (c :: s) = s.visible :=
  List.filter_cons_of_neg (by simp [blank])

theorem closes_skip (skipped : c = ';' ∨ isBlank c) (s : Text) :
    closes (Text.visible (c :: s)) = closes s.visible := by
  rcases skipped with rfl | blank
  · rw [visible_cons_of_visible rfl, closes_cons, if_pos rfl]
  · rw [visible_cons_of_blank blank]

theorem closes_run {run : Text} (skipped : ∀ c ∈ run, c = ';' ∨ isBlank c) (rest : Text) :
    closes (Text.visible (run ++ '}' :: rest)) := by
  induction run with
  | nil => rfl
  | cons c run ih =>
    obtain ⟨first, skipped⟩ := List.forall_mem_cons.mp skipped
    rw [List.cons_append, closes_skip first]
    exact ih skipped

theorem head?_of_closes (closing : closes s.visible) (mark : isMark c) : c ∉ s.head? := by
  intro first
  obtain ⟨r, rfl⟩ := List.head?_eq_some_iff.mp first
  rw [visible_cons_of_visible (isBlank_of_isMark mark), closes_cons] at closing
  split at closing
  · next semicolon =>
    subst semicolon
    cases mark
  · obtain rfl : c = '}' := by simpa using closing
    cases mark

theorem closes_erase {reader : Reader α} (begins : reader.BeginsWith '/') (closing : closes s.visible) :
    closes (reader.erase s).visible := by
  induction s with
  | nil => cases closing
  | cons c s ih =>
    have kept (other : c ≠ '/') : reader.erase (c :: s) = c :: reader.erase s :=
      reader.erase_none (begins.read_eq_none other)
    by_cases skipped : c = ';' ∨ isBlank c
    · have other : c ≠ '/' := by
        rintro rfl
        exact absurd skipped (by decide)
      rw [closes_skip skipped] at closing
      rw [kept other, closes_skip skipped]
      exact ih closing
    · obtain ⟨semicolon, visible⟩ := not_or.mp skipped
      have visible : isBlank c = false := by simpa using visible
      rw [visible_cons_of_visible visible, closes_cons, if_neg semicolon] at closing
      obtain rfl : c = '}' := by simpa using closing
      rw [kept (by decide), visible_cons_of_visible visible]
      rfl

namespace Dropping

theorem closes_eq (dropping : Dropping s t) : closes s.visible = closes t.visible := by
  induction dropping with
  | done => rfl
  | @keep s t c _ ih =>
    by_cases skipped : c = ';' ∨ isBlank c
    · rw [closes_skip skipped, closes_skip skipped, ih]
    · obtain ⟨semicolon, visible⟩ := not_or.mp skipped
      have visible : isBlank c = false := by simpa using visible
      rw [visible_cons_of_visible visible, visible_cons_of_visible visible, closes_cons, closes_cons,
        if_neg semicolon, if_neg semicolon]
  | drop skipped _ _ _ ih => rw [closes_skip skipped, ih]

theorem dropTerminators_eq (dropping : Dropping s t) :
    dropTerminators s.visible = dropTerminators t.visible := by
  induction dropping with
  | done => rfl
  | @keep s t c behind ih =>
    by_cases blank : isBlank c
    · rw [visible_cons_of_blank blank, visible_cons_of_blank blank, ih]
    · have visible : isBlank c = false := by simpa using blank
      rw [visible_cons_of_visible visible, visible_cons_of_visible visible, dropTerminators,
        dropTerminators, behind.closes_eq, ih]
  | drop skipped _ closing _ ih =>
    rcases skipped with rfl | blank
    · rw [visible_cons_of_visible rfl, dropTerminators, if_pos ⟨rfl, closing⟩, ih]
    · rw [visible_cons_of_blank blank, ih]

theorem ne_of_skipped (skipped : c = ';' ∨ isBlank c) (mark : isMark d) : c ≠ d := by
  rintro rfl
  rcases skipped with rfl | blank
  · cases mark
  · rw [isBlank_of_isMark mark] at blank
    cases blank

theorem keepsMarks : KeepsMarks Dropping where
  head {s t c} dropping mark := by
    cases dropping with
    | done => rfl
    | keep d _ => rfl
    | drop skipped _ closing behind =>
      refine iff_of_false ?_ (head?_of_closes (behind.closes_eq ▸ closing) mark)
      simpa using ne_of_skipped skipped mark
  tail dropping mark := by
    cases dropping with
    | keep _ behind => exact behind
    | drop skipped _ _ _ => exact absurd rfl (ne_of_skipped skipped mark)

theorem dropWhile (dropping : Dropping s t) :
    Dropping (s.dropWhile (!isLineEnd ·)) (t.dropWhile (!isLineEnd ·)) := by
  induction dropping with
  | done => exact .done
  | keep c behind ih =>
    cases line_end : isLineEnd c with
    | true => simpa [line_end] using behind.keep c
    | false => simpa [line_end] using ih
  | drop _ inLine _ _ ih => simpa [inLine] using ih

theorem rel_behindCloser? (dropping : Dropping s t) :
    Option.Rel Dropping (behindCloser? s) (behindCloser? t) := by
  induction dropping with
  | done => exact .none
  | keep c behind ih => exact keepsMarks.behindCloser?_cons (fun _ => behind) ih
  | drop skipped _ _ _ ih =>
    rw [behindCloser?_cons fun star => absurd star (ne_of_skipped skipped rfl)]
    exact ih

theorem erase {reader : Reader α} (reads : ReadsAlike Dropping reader) (dropping : Dropping s t) :
    Dropping (reader.erase s) (reader.erase t) := by
  induction size : s.length using Nat.strong_induction_on generalizing s t with
  | _ n ih =>
    subst size
    cases dropping with
    | done =>
      rw [reader.erase_nil]
      exact .done
    | @keep s t c behind =>
      rcases reads.erase_cases (c := c) fun _ => behind with
        ⟨kept, kept_other⟩ | ⟨rfl, rest, left, passed, passed_other, further, shrinks⟩
      · rw [kept, kept_other]
        exact (ih _ (by simp) behind rfl).keep c
      · rw [passed, passed_other]
        exact ih _ (by simp; omega) further rfl
    | @drop c s t skipped inLine closing behind =>
      rw [reader.erase_none (reads.begins.read_eq_none (ne_of_skipped skipped rfl))]
      exact .drop skipped inLine (closes_erase reads.begins closing) (ih _ (by simp) behind rfl)

theorem removeComments (dropping : Dropping s t) :
    Dropping (removeComments .javascript s) (removeComments .javascript t) :=
  (dropping.erase (keepsMarks.readsAlike_line dropWhile)).erase (keepsMarks.readsAlike_block rel_behindCloser?)

theorem drop_run {run : Text} (skipped : ∀ c ∈ run, c = ';' ∨ isBlank c)
    (inLine : ∀ c ∈ run, isLineEnd c = false) (dropping : Dropping s t) :
    Dropping (run ++ '}' :: s) ('}' :: t) := by
  induction run with
  | nil => exact dropping.keep '}'
  | cons c run ih =>
    obtain ⟨first, skipped⟩ := List.forall_mem_cons.mp skipped
    obtain ⟨first_inLine, inLine⟩ := List.forall_mem_cons.mp inLine
    exact .drop first first_inLine (closes_run skipped s) (ih skipped inLine)

theorem of_terminators (inLine : ∀ c ∈ s, isLineEnd c = false) :
    Dropping s (terminators.replace (fun _ => ['}']) s) := by
  induction s using terminators.scan_induction with
  | done =>
    rw [terminators.replace_nil]
    exact .done
  | keep c r kept ih =>
    rw [terminators.replace_none _ kept]
    exact (ih fun d member => inLine d (by simp [member])).keep c
  | take s a rest taken ih =>
    rw [terminators.replace_some _ taken]
    obtain ⟨run, rfl, skipped⟩ := Compression.terminators_read_eq_some_iff.mp taken
    have whole : ';' :: (run ++ ['}']) ++ rest = (';' :: run) ++ '}' :: rest := by simp
    rw [whole] at inLine ⊢
    obtain ⟨inLine, inLine_behind⟩ := List.forall_mem_append.mp inLine
    exact drop_run (List.forall_mem_cons.mpr ⟨.inl rfl, skipped⟩) inLine
      (ih (List.forall_mem_cons.mp inLine_behind).2)

end Dropping

/-! ## Line ends made spaces -/

def unlined (s : Text) : Text := s.map fun c => if isLineEnd c then ' ' else c

theorem unlined_cons (c : Char) (s : Text) :
    unlined (c :: s) = (if isLineEnd c then ' ' else c) :: unlined s := rfl

theorem inLine_unlined (s : Text) : ∀ c ∈ unlined s, isLineEnd c = false := by
  intro c member
  obtain ⟨d, -, rfl⟩ := List.mem_map.mp member
  split
  · rfl
  · next inLine => simpa using inLine

theorem isBlank_unlined (c : Char) : isBlank (if isLineEnd c then ' ' else c) = isBlank c := by
  split
  · next line_end => rw [isBlank_of_isLineEnd line_end]; rfl
  · rfl

def unlinedGaps : GapRule := fun _ gap _ => unlined gap

theorem unlined_eq_fill (s : Text) : unlined s = unlinedGaps.fill s := by
  refine GapRule.eq_fill (fun _ s => unlined s) (fun _ _ _ => rfl) (fun _ gap c r _ visible => ?_) s
  have inLine := isLineEnd_of_visible visible
  simp [unlined, unlinedGaps, inLine]

theorem writesBlanks_unlinedGaps : unlinedGaps.WritesBlanks := by
  intro front behind gap blank c member
  obtain ⟨d, inside, rfl⟩ := List.mem_map.mp member
  rw [isBlank_unlined]
  exact blank d inside

theorem tightenFrom_unlined (front : Compression.Front) (s : Text) :
    tightenFrom front (unlined s) = tightenFrom front s := by
  induction s generalizing front with
  | nil => rfl
  | cons c s ih =>
    rw [unlined_cons]
    split
    · next line_end =>
      rw [Compression.tightenFrom_blank (by decide),
        Compression.tightenFrom_blank (isBlank_of_isLineEnd line_end), ih]
    · simp only [tightenFrom, ih]

theorem respaced_unlined (s : Text) : Respaced true none (unlined s) (tightenFrom .tight s) := by
  rw [unlined_eq_fill, tightenFrom_eq_fill]
  refine respaced_fillFrom writesBlanks_unlinedGaps writesBlanks_tightGaps
    (sameGap_tightGaps writesBlanks_unlinedGaps (fun _ gap _ => List.map_eq_nil_iff)
      fun _ _ gap _ => ?_) (by simp) s
  simpa [unlinedGaps] using inLine_unlined gap

theorem inLine_tightenFrom (front : Compression.Front) (s : Text) :
    ∀ c ∈ tightenFrom front s, isLineEnd c = false := by
  induction s generalizing front with
  | nil => simp [tightenFrom]
  | cons c r ih =>
    rw [tightenFrom]
    split
    · exact ih _
    · next visible =>
      have inLine : isLineEnd c = false := isLineEnd_of_visible (by simpa using visible)
      split
      · exact List.forall_mem_cons.mpr ⟨inLine, ih _⟩
      · have space : ∀ d ∈ front.space, isLineEnd d = false := by
          cases front <;> simp [Compression.Front.space, isLineEnd]
        exact List.forall_mem_append.mpr ⟨space, List.forall_mem_cons.mpr ⟨inLine, ih _⟩⟩

/-- Compression drops no semicolons from the code but those before a closing brace. -/
theorem dropTerminators_removeComments_compress (code : Text) :
    dropTerminators (Snippet.removeComments .javascript (compress code)).visible =
      dropTerminators (Snippet.removeComments .javascript (unlined code)).visible := by
  have dropping := Dropping.of_terminators (inLine_tightenFrom .tight code)
  rw [Compression.compress_eq, ← dropping.removeComments.dropTerminators_eq,
    (respaced_unlined code).removeComments.visible_eq]

/-! ## Behind the first line comment -/

/-- The code behind the first line comment. -/
def codeBehind : Text → Text
  | [] => []
  | c :: r => if startsLine (c :: r) then line.erase (c :: r) else codeBehind r

def CommentsLast (s : Text) : Prop := (codeBehind s).allBlank

instance (s : Text) : Decidable (CommentsLast s) := inferInstanceAs (Decidable (_ = true))

theorem startsLine_unlined (starts : startsLine (unlined s)) : startsLine s := by
  have slash {c : Char} (written : (if isLineEnd c then ' ' else c) = '/') : c = '/' := by
    split at written
    · cases written
    · exact written
  obtain ⟨q, same⟩ := startsLine_iff.mp starts
  obtain ⟨c, r, rfl, first, behind⟩ := List.map_eq_cons_iff.mp same
  obtain ⟨d, q, rfl, second, -⟩ := List.map_eq_cons_iff.mp behind
  exact startsLine_iff.mpr ⟨q, by rw [slash first, slash second]⟩

/-- Without line ends the code behind the first line comment is lost, and no other. -/
theorem eraseLine_unlined (s : Text) : ∃ before, line.erase s = before ++ codeBehind s ∧
    line.erase (unlined s) = unlined before := by
  induction s with
  | nil => exact ⟨[], line.erase_nil, line.erase_nil⟩
  | cons c r ih =>
    cases starts : startsLine (c :: r) with
    | false =>
      obtain ⟨before, whole, left⟩ := ih
      have plain : startsLine (unlined (c :: r)) = false :=
        Bool.eq_false_iff.mpr fun still => absurd (startsLine_unlined still) (by simp [starts])
      rw [unlined_cons] at plain
      refine ⟨c :: before, ?_, ?_⟩
      · rw [eraseLine_cons starts, whole, codeBehind, if_neg (by simp [starts]), List.cons_append]
      · rw [unlined_cons, eraseLine_cons plain, left, unlined_cons]
    | true =>
      refine ⟨[], by rw [codeBehind, if_pos starts, List.nil_append], ?_⟩
      obtain ⟨q, same⟩ := startsLine_iff.mp starts
      have one_line : (unlined q).dropWhile (!isLineEnd ·) = [] :=
        List.dropWhile_eq_nil_iff.mpr fun c member => by simp [inLine_unlined q c member]
      have read : line.erase (unlined ('/' :: '/' :: q)) =
          line.erase ((unlined q).dropWhile (!isLineEnd ·)) := line.erase_some rfl
      rw [same, read, one_line, line.erase_nil]
      rfl

theorem tightenFrom_eraseLine_unlined (last : CommentsLast s) (front : Compression.Front) :
    tightenFrom front (line.erase (unlined s)) = tightenFrom front (line.erase s) := by
  obtain ⟨before, whole, left⟩ := eraseLine_unlined s
  rw [whole, left, tightenFrom_unlined,
    Compression.tightenFrom_trailing (List.all_eq_true.mp last)]

theorem visible_eraseLine_unlined (s : Text) :
    (line.erase (unlined s)).visible = (line.erase s).visible ↔ CommentsLast s := by
  constructor
  · intro same
    obtain ⟨before, whole, left⟩ := eraseLine_unlined s
    have visible_before : (unlined before).visible = before.visible := by
      rw [(respaced_unlined before).visible_eq, ← (respaced_tightenFrom before).visible_eq]
    rw [whole, left, visible_before, Text.visible_append, List.self_eq_append_right] at same
    exact Text.visible_eq_nil_iff.mp same
  · intro last
    rw [(respaced_tightenFrom _).visible_eq, tightenFrom_eraseLine_unlined last,
      ← (respaced_tightenFrom _).visible_eq]

/-! ## Comments and white space -/

/-- Up to blanks, a layout does to comments what its line breaks do, and compression what it
does to make spaces of the line ends. So layout adds no code where line comments stay comments,
and compression, semicolons before closing braces apart, loses none where line comments are last.
When line comments alone are removed, the code is the same only there. -/
theorem removeComments_spacedAnew (code : Text) :
    (removeComments .javascript (layOutScript code)).visible =
      (removeComments .javascript (breakLines code)).visible ∧
    ((∀ comment ∈ line.findAll code, StaysComment comment) →
      (removeComments .javascript (layOutScript code)).visible =
        (removeComments .javascript code).visible) ∧
    ((line.erase (breakLines code)).visible = (line.erase code).visible ↔
      ∀ comment ∈ line.findAll code, StaysComment comment) ∧
    dropTerminators (removeComments .javascript (compress code)).visible =
      dropTerminators (removeComments .javascript (unlined code)).visible ∧
    (CommentsLast code →
      dropTerminators (removeComments .javascript (compress code)).visible =
        dropTerminators (removeComments .javascript code).visible) ∧
    ((line.erase (unlined code)).visible = (line.erase code).visible ↔ CommentsLast code) := by
  have laid_out := (respaced_layOutScript code).removeComments.visible_eq
  have compressed := dropTerminators_removeComments_compress code
  refine ⟨laid_out, fun stay => ?_, visible_eraseLine_breakLines code, compressed, fun last => ?_,
    visible_eraseLine_unlined code⟩
  · exact laid_out.trans (visible_eraseBlock (tightenFrom_eraseLine_breakLines .tight stay))
  · rw [compressed]
    exact congrArg _ (visible_eraseBlock (tightenFrom_eraseLine_unlined last .tight))

theorem removeComments_spacedAnew_block :
    let code := "\x7b f(a) ;\n\x7d // done, g".toList
    (∀ comment ∈ line.findAll code, StaysComment comment) ∧ CommentsLast code ∧
    (removeComments .javascript (layOutScript code)).visible = "\x7bf(a);\x7d".toList ∧
    dropTerminators (removeComments .javascript (compress code)).visible = "\x7bf(a)\x7d".toList := by
  have stay : ∀ comment ∈ line.findAll "\x7b f(a) ;\n\x7d // done, g".toList, StaysComment comment := by
    decide +kernel
  have last : CommentsLast "\x7b f(a) ;\n\x7d // done, g".toList := by decide +kernel
  obtain ⟨-, laid_out, -, -, compressed, -⟩ :=
    removeComments_spacedAnew "\x7b f(a) ;\n\x7d // done, g".toList
  exact ⟨stay, last, (laid_out stay).trans (by decide +kernel),
    (compressed last).trans (by decide +kernel)⟩

/-- Layout makes code of what stands behind a semicolon in a comment, and compression makes a
comment of the line behind one. -/
theorem removeComments_moved :
    let broken := "// a; b".toList
    let joined := "// a\nb".toList
    (removeComments .javascript (layOutScript broken)).visible = "b".toList ∧
    (removeComments .javascript broken).visible = [] ∧
    (removeComments .javascript (layOutScript broken)).visible ≠
      (removeComments .javascript broken).visible ∧
    dropTerminators (removeComments .javascript (compress joined)).visible = [] ∧
    dropTerminators (removeComments .javascript joined).visible = "b".toList ∧
    dropTerminators (removeComments .javascript (compress joined)).visible ≠
      dropTerminators (removeComments .javascript joined).visible := by
  decide +kernel

end Snippet.Comment
