import Snippet.Annotation
import Snippet.Proofs.Comment.Respacing

/-! What the removal of comments leaves of annotations.

Line annotation takes newlines for the ends of lines, and a comment ends at every line end:
what stands behind another line end in a line is not covered. A header ends where its title
ends it.
-/

set_option autoImplicit false

namespace Snippet.Comment

open Annotation (header)
open Annotation renaming line → annotateLine
open Compression (Alike)

variable {s t r rest gap : Text} {c d : Char}

/-! ## Lines -/

/-- What stands behind the first line end in each line, where newlines end lines. -/
def uncovered (code : Text) : Text :=
  Text.join ['\n'] ((Text.splitOn '\n' code).map fun s => s.dropWhile (!isLineEnd ·))

def IsCovered (s : Text) : Prop := (line.erase (s.dropWhile (!isLineEnd ·))).allBlank

instance (s : Text) : Decidable (IsCovered s) := inferInstanceAs (Decidable (_ = true))

theorem eraseLine_join (parts : List Text) :
    line.erase (Text.join ['\n'] parts) = Text.join ['\n'] (parts.map line.erase) := by
  induction parts with
  | nil => exact line.erase_nil
  | cons part others ih =>
    cases others with
    | nil => rfl
    | cons second others =>
      have newline : isLineEnd '\n' := by decide
      simp only [List.map_cons, Text.join, List.append_assoc, List.singleton_append] at ih ⊢
      rw [eraseLine_append newline, ih]

theorem eraseLine_comment (r : Text) :
    line.erase ('/' :: '/' :: r) = line.erase (r.dropWhile (!isLineEnd ·)) := line.erase_some rfl

theorem exists_eraseLine_gap (blank : ∀ c ∈ gap, isBlank c) (s : Text)
    (opens : s = [] ∨ ∃ r, s = '/' :: '/' :: r) :
    ∃ front, (∀ c ∈ front, isBlank c) ∧
      line.erase (gap ++ s) = front ++ line.erase ((gap ++ s).dropWhile (!isLineEnd ·)) := by
  cases ends : gap.any isLineEnd with
  | true =>
    obtain ⟨left, -⟩ := dropWhile_of_any ends s
    have still : ∀ c ∈ gap.dropWhile (!isLineEnd ·), isBlank c := fun c member =>
      blank c (List.dropWhile_subset _ member)
    refine ⟨gap.takeWhile (!isLineEnd ·), fun c member =>
      blank c (List.takeWhile_subset _ member), ?_⟩
    rw [left, line_begins.erase_append (slash_notMem_of_blank blank),
      line_begins.erase_append (slash_notMem_of_blank still), ← List.append_assoc,
      List.takeWhile_append_dropWhile]
  | false =>
    refine ⟨gap, blank, ?_⟩
    rw [line_begins.erase_append (slash_notMem_of_blank blank), dropWhile_of_inLine ends]
    rcases opens with rfl | ⟨r, rfl⟩
    · rfl
    · rw [eraseLine_comment, List.dropWhile_cons_of_pos (by decide),
        List.dropWhile_cons_of_pos (by decide)]

theorem dropBlanks_of_kept
    (kept : s.trim.isEmpty || (Text.after? "//".toList s.trim).isSome) :
    s.dropBlanks = [] ∨ ∃ r, s.dropBlanks = '/' :: '/' :: r := by
  have parts : ∃ trailing, s.dropBlanks = s.trim ++ trailing ∧ ∀ c ∈ trailing, isBlank c :=
    Text.exists_trailingBlanks s.dropBlanks
  obtain ⟨trailing, trimmed, blank⟩ := parts
  rcases Bool.or_eq_true_iff.mp kept with none | opens
  · rw [List.isEmpty_iff.mp none, List.nil_append] at trimmed
    have visible := Text.beginsVisible_dropBlanks s
    cases trailing with
    | nil => exact .inl trimmed
    | cons c trailing =>
      rw [trimmed] at visible
      cases (visible c rfl).symm.trans (blank c (by simp))
  · obtain ⟨r, found⟩ := Option.isSome_iff_exists.mp opens
    rw [Text.after?_eq_some.mp found] at trimmed
    exact .inr ⟨r ++ trailing, trimmed⟩

/-- Up to blanks in front, annotation leaves of a line what stands behind a line end in it. -/
theorem exists_eraseLine_line (s : Text) : ∃ front, (∀ c ∈ front, isBlank c) ∧
    line.erase (annotateLine s) = front ++ line.erase (s.dropWhile (!isLineEnd ·)) := by
  rw [annotateLine]
  split
  · next kept =>
    have blank : ∀ c ∈ s.leadingBlanks, isBlank c := fun c => Text.isBlank_of_mem_leadingBlanks
    have erased := exists_eraseLine_gap blank s.dropBlanks (dropBlanks_of_kept kept)
    rwa [Text.leadingBlanks_append_dropBlanks] at erased
  · refine ⟨[], by simp, (eraseLine_comment (' ' :: s)).trans ?_⟩
    rw [List.dropWhile_cons_of_pos (by decide), List.nil_append]

/-! ## All lines -/

theorem alike_join {first second : Text → Text}
    (leads : ∀ s, ∃ front, (∀ c ∈ front, isBlank c) ∧ first s = front ++ second s)
    (parts : List Text) : Alike ('\n' :: Text.join ['\n'] (parts.map first))
      ('\n' :: Text.join ['\n'] (parts.map second)) := by
  have lead (part : Text) : Alike ('\n' :: first part) ('\n' :: second part) := by
    obtain ⟨front, blank, same⟩ := leads part
    have newline : isBlank '\n' := by decide
    have gaps : Alike ('\n' :: front) ['\n'] :=
      Compression.alike_gap (List.forall_mem_cons.mpr ⟨newline, blank⟩) (by simp)
        (List.forall_mem_singleton.mpr newline) (by simp)
    have kept : Alike (second part) (second part) := fun _ _ => rfl
    rw [same]
    exact gaps.append kept
  induction parts with
  | nil => exact fun _ _ => rfl
  | cons part others ih =>
    cases others with
    | nil => exact lead part
    | cons next others =>
      simp only [List.map_cons, Text.join, List.append_assoc, List.singleton_append] at ih ⊢
      exact (lead part).append ih

theorem eraseLine_annotate (title : Text) (time : Moment) (code : Text) :
    line.erase (annotate .line title time code) =
      Text.join ['\n'] ((Text.splitOn '\n' code).map fun s => line.erase (annotateLine s)) := by
  rw [annotate, eraseLine_join, List.map_map]
  rfl

theorem eraseLine_uncovered (code : Text) : line.erase (uncovered code) =
    Text.join ['\n'] ((Text.splitOn '\n' code).map fun s =>
      line.erase (s.dropWhile (!isLineEnd ·))) := by
  rw [uncovered, eraseLine_join, List.map_map]
  rfl

theorem allBlank_join (parts : List Text) :
    (Text.join ['\n'] parts).allBlank ↔ ∀ part ∈ parts, part.allBlank := by
  induction parts with
  | nil => simp [Text.join, Text.allBlank]
  | cons part others ih =>
    cases others with
    | nil => simp [Text.join]
    | cons next others =>
      have newline : isBlank '\n' := by decide
      have parts : Text.join ['\n'] (part :: next :: others) =
          part ++ ['\n'] ++ Text.join ['\n'] (next :: others) := rfl
      rw [parts, List.forall_mem_cons, ← ih]
      simp [Text.allBlank, newline]

theorem allBlank_eraseLine_annotate (title : Text) (time : Moment) (code : Text) :
    (line.erase (annotate .line title time code)).allBlank ↔
      ∀ s ∈ Text.splitOn '\n' code, IsCovered s := by
  rw [eraseLine_annotate, allBlank_join, List.forall_mem_map]
  refine forall₂_congr fun s _ => ?_
  obtain ⟨front, blank, same⟩ := exists_eraseLine_line s
  rw [same, IsCovered, Text.allBlank, Text.allBlank, List.all_append, Bool.and_eq_true,
    List.all_eq_true.mpr blank]
  exact and_iff_right rfl

/-- Line annotation leaves as code what stands in a line behind a line end that is no newline,
and where no code stands there, all code is in comments. -/
theorem removeComments_line (title : Text) (time : Moment) (code : Text) :
    (removeComments .javascript (annotate .line title time code)).visible =
      (removeComments .javascript (uncovered code)).visible ∧
    ((∀ s ∈ Text.splitOn '\n' code, IsCovered s) →
      (removeComments .javascript (annotate .line title time code)).allBlank) := by
  constructor
  · refine visible_eraseBlock ?_
    rw [eraseLine_annotate, eraseLine_uncovered]
    have alike := alike_join exists_eraseLine_line (Text.splitOn '\n' code) .tight []
    rw [List.append_nil, List.append_nil] at alike
    exact alike
  · intro covered
    have blank := (allBlank_eraseLine_annotate title time code).mpr covered
    have kept := block_begins.erase_eq_self (slash_notMem_of_blank (List.all_eq_true.mp blank))
    exact (congrArg (·.allBlank) kept).trans blank

theorem removeComments_line_covered :
    let code := "a();\r\n\n  // b\nc(\"*/\");".toList
    (∀ s ∈ Text.splitOn '\n' code, IsCovered s) ∧
    (removeComments .javascript (annotate .line [] ⟨2024, 1, 2, 3, 4, 5⟩ code)).allBlank := by
  have covered : ∀ s ∈ Text.splitOn '\n' "a();\r\n\n  // b\nc(\"*/\");".toList, IsCovered s := by
    decide +kernel
  exact ⟨covered, (removeComments_line _ _ _).2 covered⟩

/-- A carriage return ends the comment, and the next line is code. -/
theorem removeComments_line_return :
    let annotated := annotate .line [] ⟨2024, 1, 2, 3, 4, 5⟩ "a();\rb();".toList
    annotated = "// a();\rb();".toList ∧
    removeComments .javascript annotated = "\rb();".toList ∧
    ¬ (removeComments .javascript annotated).allBlank := by
  decide +kernel

/-! ## Headers -/

/-- Behind each closer in a title an opener stands, so that a comment around the title ends
and goes on at once. -/
inductive StaysInside : Text → Prop where
  | unclosed {s : Text} : behindCloser? s = none → StaysInside s
  | reopened {s rest : Text} : behindCloser? s = some ('/' :: '*' :: rest) → StaysInside rest →
      StaysInside s

theorem staysInside_congr (same : behindCloser? s = behindCloser? t) :
    StaysInside s ↔ StaysInside t := by
  have forth {s t : Text} (same : behindCloser? s = behindCloser? t) (stays : StaysInside s) :
      StaysInside t := by
    cases stays with
    | unclosed none => exact .unclosed (same ▸ none)
    | reopened found inner => exact .reopened (same ▸ found) inner
  exact ⟨forth same, forth same.symm⟩

theorem eraseBlock_ne_nil (plain : ¬ ∃ rest, s = '/' :: '*' :: rest) (r : Text) :
    block.erase (s ++ '\n' :: r) ≠ [] := by
  cases s with
  | nil =>
    rw [List.nil_append, block.erase_none (block_begins.read_eq_none (by decide))]
    simp
  | cons c q =>
    have unread : block.read (c :: (q ++ '\n' :: r)) = none := by
      rw [block_read_eq_none]
      rintro body same -
      obtain ⟨rfl, behind⟩ := List.cons.inj same
      cases q with
      | nil => simp at behind
      | cons d q =>
        obtain ⟨rfl, -⟩ := List.cons.inj behind
        exact plain ⟨q, rfl⟩
    rw [List.cons_append, block.erase_none unread]
    simp

theorem staysInside_of_behindCloser? (closer : behindCloser? s = some t) :
    StaysInside s ↔ ∃ rest, t = '/' :: '*' :: rest ∧ StaysInside rest := by
  constructor
  · intro stays
    cases stays with
    | unclosed none => cases closer.symm.trans none
    | reopened again inner => exact ⟨_, Option.some.inj (closer.symm.trans again), inner⟩
  · rintro ⟨rest, rfl, inner⟩
    exact .reopened closer inner

theorem cut?_around {tail : Text} (plain : '/' ∉ tail) (unclosed : Text.cut? "*/".toList t = none) :
    Text.cut? "*/".toList (t ++ '\n' :: (tail ++ "*/".toList)) = some (t ++ '\n' :: tail, []) := by
  have absent : ¬ "*/".toList <:+: '\n' :: tail := fun inside =>
    plain (by simpa using inside.subset (show '/' ∈ "*/".toList by decide))
  have apart : ¬ Text.Completes "*/".toList ('\n' :: tail ++ ("*/".toList ++ [])) := by
    refine Text.not_completes_of_head fun c first => ?_
    obtain rfl : '\n' = c := by simpa using first
    decide
  have closes := Text.cut?_append (Text.cut?_eq_none_iff.mp unclosed) apart
  rwa [Text.cut?_at_marker absent (Text.not_completes_marker (by decide) []), List.append_nil,
    List.cons_append] at closes

theorem eraseBlock_around {tail : Text} (plain : '/' ∉ tail) (t : Text) :
    block.erase ('/' :: '*' :: (t ++ '\n' :: (tail ++ "*/".toList))) = [] ↔ StaysInside t := by
  -- What stands behind a closer is shorter, so the induction is on the length.
  induction size : t.length using Nat.strong_induction_on generalizing t with
  | _ n ih =>
    subst size
    cases found : Text.cut? "*/".toList t with
    | none =>
      have read := cut?_around plain found
      rw [block.erase_some (block_read_eq_some.mpr ⟨_, rfl, read⟩), block.erase_nil]
      exact iff_of_true rfl (.unclosed (by rw [behindCloser?, found]; rfl))
    | some parts =>
      obtain ⟨inside, behind⟩ := parts
      have closer : behindCloser? t = some behind := by rw [behindCloser?, found]; rfl
      have read := Text.cut?_append_of_found found ('\n' :: (tail ++ "*/".toList))
      rw [block.erase_some (block_read_eq_some.mpr ⟨_, rfl, read⟩), staysInside_of_behindCloser? closer]
      by_cases opens : ∃ rest, behind = '/' :: '*' :: rest
      · obtain ⟨rest, rfl⟩ := opens
        have shorter : rest.length < t.length := by
          rw [Text.eq_append_of_cut? found]
          simp
          omega
        exact (ih _ shorter rest rfl).trans (by simp)
      · refine iff_of_false (eraseBlock_ne_nil opens _) ?_
        rintro ⟨rest, same, -⟩
        exact opens ⟨rest, same⟩

def generated (time : Moment) : Text := " * Generated: ".toList ++ time.text ++ "\n ".toList

theorem header_eq (title : Text) (time : Moment) : header title time =
    "/*".toList ++ '\n' :: (" * ".toList ++ title) ++ '\n' :: (generated time ++ "*/".toList) := by
  have opener : "/*\n * ".toList = "/*".toList ++ '\n' :: " * ".toList := rfl
  have middle : "\n * Generated: ".toList = '\n' :: " * Generated: ".toList := rfl
  have closer : "\n */".toList = "\n ".toList ++ "*/".toList := rfl
  unfold header generated
  rw [opener, middle, closer]
  simp only [List.append_assoc, List.cons_append]

theorem forall_mem_text (time : Moment) : ∀ c ∈ time.text, c.isDigit ∨ c ∈ "-+: ".toList := by
  have number (width n : Nat) : ∀ c ∈ Text.ofNatPadded width n, c.isDigit ∨ c ∈ "-+: ".toList := by
    intro c member
    rw [Text.ofNatPadded, List.mem_append] at member
    rcases member with padding | digit
    · rw [List.eq_of_mem_replicate padding]
      exact .inl rfl
    · exact .inl (Nat.isDigit_of_mem_toDigits (by decide) (by decide) digit)
  have year : ∀ c ∈ Moment.yearText time.year, c.isDigit ∨ c ∈ "-+: ".toList := by
    rw [Moment.yearText]
    split
    · exact List.forall_mem_cons.mpr ⟨.inr (by decide), number 4 _⟩
    · split
      · exact List.forall_mem_cons.mpr ⟨.inr (by decide), number 4 _⟩
      · exact number 4 _
  simp only [Moment.text, List.forall_mem_append, List.forall_mem_cons]
  and_intros
  all_goals first
    | exact year
    | exact number 2 _
    | exact .inr (by decide)

theorem slash_notMem_generated (time : Moment) : '/' ∉ generated time := by
  unfold generated
  rw [List.mem_append, List.mem_append, not_or, not_or]
  refine ⟨⟨by decide, fun member => ?_⟩, by decide⟩
  rcases forall_mem_text time '/' member with digit | sign
  · exact absurd digit (by decide)
  · exact absurd sign (by decide)

/-- A header stays a header when line comments are removed, with those in its title. -/
theorem eraseLine_header (title : Text) (time : Moment) (code : Text) :
    line.erase (annotate .block title time code) =
      annotate .block (line.erase title) time (line.erase code) := by
  have newline : isLineEnd '\n' := by decide
  have opener : line.erase "/*".toList = "/*".toList := by decide +kernel
  have closer : line.erase "*/".toList = "*/".toList := by decide +kernel
  have titled : line.erase (" * ".toList ++ title) = " * ".toList ++ line.erase title :=
    line_begins.erase_append (by decide) title
  have ending : line.erase (generated time ++ "*/".toList) = generated time ++ "*/".toList := by
    rw [line_begins.erase_append (slash_notMem_generated time), closer]
  have header_erased : line.erase (header title time) =
      header (line.erase title) time := by
    rw [header_eq, header_eq, eraseLine_append newline, eraseLine_append newline, opener, titled, ending]
  have split (title code : Text) : annotate .block title time code =
      header title time ++ '\n' :: ([] ++ '\n' :: code) := List.append_assoc ..
  rw [split, split, eraseLine_append newline, eraseLine_append newline, header_erased, line.erase_nil]

theorem closer_of_opener {title : Text} {time : Moment}
    (tail : '/' :: '*' :: s <:+ header title time) : "*/".toList <:+: s := by
  have closer : "\n */".toList = "\n ".toList ++ "*/".toList := rfl
  unfold header at tail
  obtain ⟨front, same⟩ := tail
  rcases List.append_eq_append_iff.mp same with ⟨middle, -, behind⟩ | ⟨middle, -, behind⟩
  · cases middle with
    | nil => simp at behind
    | cons c middle =>
      cases middle with
      | nil => simp at behind
      | cons d middle =>
        simp only [List.cons_append, List.cons.injEq] at behind
        obtain ⟨-, -, rfl⟩ := behind
        rw [closer, ← List.append_assoc]
        exact (List.suffix_append _ _).isInfix
  · have inside : "/*".toList <:+: "\n */".toList := by
      rw [behind]
      exact ⟨middle, s, by simp⟩
    exact absurd inside (by decide)

theorem eraseBlock_header (title : Text) (time : Moment) (r : Text) :
    block.erase (header title time ++ '\n' :: r) =
      block.erase (header title time) ++ '\n' :: block.erase r := by
  have behind : block.erase ('\n' :: r) = '\n' :: block.erase r :=
    block.erase_none (block_begins.read_eq_none (by decide))
  rw [← behind]
  refine Reader.erase_append block_faithful (fun t rest a _ found => ?_) fun c q tail unread => ?_
  · obtain ⟨q, rfl, cut⟩ := block_read_eq_some.mp found
    exact ⟨a, block_read_eq_some.mpr ⟨_, rfl, Text.cut?_append_of_found cut _⟩⟩
  · rw [block_read_eq_none]
    rintro body same -
    obtain ⟨rfl, first⟩ := List.cons.inj same
    cases q with
    | nil => simp at first
    | cons d q =>
      obtain ⟨rfl, -⟩ := List.cons.inj first
      exact block_read_eq_none.mp unread q rfl (closer_of_opener tail)

theorem eraseBlock_annotate (title : Text) (time : Moment) (code : Text) :
    block.erase (annotate .block title time code) =
      block.erase (header title time) ++ "\n\n".toList ++ block.erase code := by
  have split : annotate .block title time code =
      header title time ++ '\n' :: '\n' :: code := List.append_assoc ..
  rw [split, eraseBlock_header, block.erase_none (block_begins.read_eq_none (by decide)),
    List.append_assoc]
  rfl

theorem eraseBlock_header_eq_nil_iff (title : Text) (time : Moment) :
    block.erase (header title time) = [] ↔ StaysInside title := by
  have whole : header title time =
      '/' :: '*' :: (("\n * ".toList ++ title) ++ '\n' :: (generated time ++ "*/".toList)) := by
    rw [header_eq]
    simp only [List.append_assoc, List.cons_append]
    rfl
  have front : behindCloser? ("\n * ".toList ++ title) = behindCloser? title := by
    have lead : "\n * ".toList = ['\n', ' ', '*', ' '] := rfl
    rw [lead]
    simp only [List.cons_append, List.nil_append]
    rw [behindCloser?_cons (by simp), behindCloser?_cons (by simp), behindCloser?_cons (by simp),
      behindCloser?_cons (by simp)]
  rw [whole, eraseBlock_around (slash_notMem_generated time), staysInside_congr front]

theorem staysInside_iff (slashes : NoSlashes s) : StaysInside s ↔ ¬ "*/".toList <:+: s := by
  rw [← behindCloser?_eq_none_iff]
  refine ⟨fun stays => ?_, .unclosed⟩
  cases stays with
  | unclosed none => exact none
  | @reopened _ rest found _ =>
    obtain ⟨⟨inside, behind⟩, cut, rfl⟩ := Option.map_eq_some_iff.mp found
    refine absurd (Text.eq_append_of_cut? cut) ?_
    have parts : inside ++ "*/".toList ++ '/' :: '*' :: rest =
        (inside ++ ['*']) ++ ['/', '/'] ++ '*' :: rest := by simp
    rw [parts]
    exact slashes.line _ _

theorem closer_of_eraseLine (closer : "*/".toList <:+: line.erase s) : "*/".toList <:+: s := by
  have found := (Text.cut?_isSome_iff "*/".toList _).mpr closer
  rw [← Option.isSome_map (f := Prod.snd), cut?_eraseLine, Option.isSome_map] at found
  obtain ⟨⟨inside, behind⟩, cut⟩ := Option.isSome_iff_exists.mp found
  exact ⟨inside, behind, (eq_append_of_cutExposed? cut).symm⟩

/-- A header goes with the comments of a script unless a closer is left in its title, and with
those of a style if its title stays inside; without a closer in the title it goes with both. -/
theorem removeComments_header (title : Text) (time : Moment) (code : Text) :
    (removeComments .javascript (annotate .block title time code) =
        "\n\n".toList ++ removeComments .javascript code ↔ ¬ "*/".toList <:+: line.erase title) ∧
    (removeComments .css (annotate .block title time code) =
        "\n\n".toList ++ removeComments .css code ↔ StaysInside title) ∧
    (¬ "*/".toList <:+: title →
      removeComments .javascript (annotate .block title time code) =
          "\n\n".toList ++ removeComments .javascript code ∧
        removeComments .css (annotate .block title time code) =
          "\n\n".toList ++ removeComments .css code) := by
  have block_alone (title code : Text) : block.erase (annotate .block title time code) =
      "\n\n".toList ++ block.erase code ↔ StaysInside title := by
    rw [eraseBlock_annotate, List.append_assoc, List.append_left_eq_self, eraseBlock_header_eq_nil_iff]
  have script : removeComments .javascript (annotate .block title time code) =
      "\n\n".toList ++ removeComments .javascript code ↔ ¬ "*/".toList <:+: line.erase title := by
    rw [removeComments, eraseLine_header, ← staysInside_iff (noSlashes_eraseLine title)]
    exact block_alone _ _
  refine ⟨script, block_alone title code, fun unclosed => ⟨script.mpr ?_, ?_⟩⟩
  · exact fun closer => unclosed (closer_of_eraseLine closer)
  · exact (block_alone title code).mpr (.unclosed (behindCloser?_eq_none_iff.mpr unclosed))

theorem removeComments_header_address :
    let title := "see http://a.b/*".toList
    let annotated := annotate .block title ⟨2024, 1, 2, 3, 4, 5⟩ "x(); // y".toList
    ¬ "*/".toList <:+: title ∧
    removeComments .javascript annotated = "\n\nx(); ".toList ∧
    removeComments .css annotated = "\n\nx(); // y".toList := by
  have unclosed : ¬ "*/".toList <:+: "see http://a.b/*".toList := by decide +kernel
  obtain ⟨-, -, covered⟩ := removeComments_header "see http://a.b/*".toList ⟨2024, 1, 2, 3, 4, 5⟩
    "x(); // y".toList
  obtain ⟨script, style⟩ := covered unclosed
  exact ⟨unclosed, script.trans (by decide +kernel), style.trans (by decide +kernel)⟩

/-- A closer in a title ends the header, and the rest of the title is code. -/
theorem removeComments_header_closed :
    let annotated := annotate .block "*/ y(); /*".toList ⟨2024, 1, 2, 3, 4, 5⟩ "x();".toList
    removeComments .javascript annotated = " y(); \n\nx();".toList ∧
    removeComments .javascript "x();".toList = "x();".toList ∧
    removeComments .javascript annotated ≠
      "\n\n".toList ++ removeComments .javascript "x();".toList ∧
    removeComments .css annotated ≠ "\n\n".toList ++ removeComments .css "x();".toList := by
  decide +kernel

end Snippet.Comment
