import Snippet.Proofs.Layout
import Snippet.Proofs.Scanning

/-! Line layout, told by the gaps of a text.

Every pass of a line layout writes the visible characters as they are and each gap by a
rule that looks at the gap and at the characters around it. So the passes together are
one such rule, and a layout is stable if its rule is: a gap that the rule has written it
writes in the same way again.
-/

set_option autoImplicit false

namespace Snippet.Layout

/-- What becomes of the blanks between two visible characters. At the ends of a text
there is none on one side. -/
abbrev GapRule := (front : Option Char) → (gap : Text) → (behind : Option Char) → Text

namespace GapRule

/-- The text with its gaps written by the rule; `front` is the last visible character, and
`gap` what has been read behind it. -/
def fillFrom (rule : GapRule) (front : Option Char) (gap : Text) : Text → Text
  | [] => rule front gap none
  | c :: r =>
    if isBlank c then rule.fillFrom front (gap ++ [c]) r
    else rule front gap (some c) ++ c :: rule.fillFrom (some c) [] r

def fill (rule : GapRule) (s : Text) : Text := rule.fillFrom none [] s

def andThen (rule next : GapRule) : GapRule := fun front gap behind =>
  next front (rule front gap behind) behind

def WritesBlanks (rule : GapRule) : Prop :=
  ∀ front behind gap, (∀ c ∈ gap, isBlank c) → ∀ c ∈ rule front gap behind, isBlank c

def Stable (rule : GapRule) : Prop :=
  ∀ front behind gap, (∀ c ∈ gap, isBlank c) →
    rule front (rule front gap behind) behind = rule front gap behind

variable {rule next : GapRule} {front behind : Option Char} {s r gap : Text} {c : Char}

theorem fillFrom_append_of_blank {blanks : Text} (blank : ∀ c ∈ blanks, isBlank c) (r : Text) :
    rule.fillFrom front gap (blanks ++ r) = rule.fillFrom front (gap ++ blanks) r := by
  induction blanks generalizing gap with
  | nil => rw [List.nil_append, List.append_nil]
  | cons c blanks ih =>
    rw [List.cons_append, fillFrom, if_pos (blank c (by simp)),
      ih fun d member => blank d (by simp [member]), List.append_assoc, List.singleton_append]

theorem fillFrom_of_blank (blank : ∀ c ∈ gap, isBlank c) :
    rule.fillFrom front [] gap = rule front gap none := by
  have read : rule.fillFrom front [] (gap ++ []) = rule.fillFrom front ([] ++ gap) [] :=
    fillFrom_append_of_blank blank []
  rwa [List.append_nil] at read

theorem fillFrom_visible (blank : ∀ c ∈ gap, isBlank c) (visible : isBlank c = false) (r : Text) :
    rule.fillFrom front [] (gap ++ c :: r) =
      rule front gap (some c) ++ c :: rule.fillFrom (some c) [] r := by
  rw [fillFrom_append_of_blank blank, List.nil_append, fillFrom, if_neg (by simp [visible])]

/-- A pass that does with the end of a text and with a gap before a visible character as
the rule does fills the gaps by it. -/
theorem eq_fillFrom (pass : Option Char → Text → Text)
    (ends : ∀ front gap, (∀ c ∈ gap, isBlank c) → pass front gap = rule front gap none)
    (step : ∀ front gap c r, (∀ c ∈ gap, isBlank c) → isBlank c = false →
      pass front (gap ++ c :: r) = rule front gap (some c) ++ c :: pass (some c) r)
    (blank : ∀ c ∈ gap, isBlank c) (s : Text) :
    pass front (gap ++ s) = rule.fillFrom front gap s := by
  induction s generalizing front gap with
  | nil => rw [List.append_nil, fillFrom, ends front gap blank]
  | cons c r ih =>
    rw [fillFrom]
    split
    · next isGap =>
      have longer : ∀ d ∈ gap ++ [c], isBlank d :=
        List.forall_mem_append.mpr ⟨blank, List.forall_mem_singleton.mpr isGap⟩
      rw [← ih longer, List.append_assoc, List.singleton_append]
    · next visible =>
      have onward : pass (some c) ([] ++ r) = rule.fillFrom (some c) [] r := ih (by simp)
      rw [step front gap c r blank (by simpa using visible), ← onward, List.nil_append]

theorem eq_fill (pass : Option Char → Text → Text)
    (ends : ∀ front gap, (∀ c ∈ gap, isBlank c) → pass front gap = rule front gap none)
    (step : ∀ front gap c r, (∀ c ∈ gap, isBlank c) → isBlank c = false →
      pass front (gap ++ c :: r) = rule front gap (some c) ++ c :: pass (some c) r) (s : Text) :
    pass none s = rule.fill s := by
  have none_read : ∀ c ∈ ([] : Text), isBlank c := by simp
  exact eq_fillFrom pass ends step none_read s

theorem fill_fill (writes : rule.WritesBlanks) (s : Text) :
    next.fill (rule.fill s) = (rule.andThen next).fill s := by
  refine eq_fill (fun front s => next.fillFrom front [] (rule.fillFrom front [] s))
    (fun front gap blank => ?_) (fun front gap c r blank visible => ?_) s
  · rw [fillFrom_of_blank blank, fillFrom_of_blank (writes front none gap blank)]
    rfl
  · rw [fillFrom_visible blank visible, fillFrom_visible (writes front (some c) gap blank) visible]
    rfl

theorem WritesBlanks.andThen (first : rule.WritesBlanks) (second : next.WritesBlanks) :
    (rule.andThen next).WritesBlanks := fun front behind gap blank =>
  second front behind _ (first front behind gap blank)

theorem fill_fill_of_stable (writes : rule.WritesBlanks) (stable : rule.Stable) (s : Text) :
    rule.fill (rule.fill s) = rule.fill s := by
  rw [fill_fill writes]
  refine eq_fill (fun front s => (rule.andThen rule).fillFrom front [] s)
    (fun front gap blank => ?_) (fun front gap c r blank visible => ?_) s
  · rw [fillFrom_of_blank blank]
    exact stable front none gap blank
  · rw [fillFrom_visible blank visible]
    exact congrArg (· ++ _) (stable front (some c) gap blank)

/-! ## The rules of the passes -/

def afterMark (mark : Char) (after : Text) : GapRule := fun front gap _ =>
  if front = some mark then after else gap

/-- Before a mark the gap is written anew, and behind one something is put in front of it. -/
def aroundMark (mark : Char) (before after : Text) : GapRule := fun front gap behind =>
  (if front = some mark then after else []) ++ if behind = some mark then before else gap

def merged : GapRule := fun _ gap _ => mergeLines gap

def between : GapRule := fun front gap behind => if front.isSome ∧ behind.isSome then gap else []

variable {mark : Char} {before after : Text}

theorem writesBlanks_afterMark (blank : after.allBlank) : (afterMark mark after).WritesBlanks := by
  intro front behind gap gap_blank
  unfold afterMark
  split
  · exact List.all_eq_true.mp blank
  · exact gap_blank

theorem writesBlanks_aroundMark (before_blank : before.allBlank) (after_blank : after.allBlank) :
    (aroundMark mark before after).WritesBlanks := by
  intro front behind gap gap_blank c member
  rcases List.mem_append.mp member with inAfter | inGap
  · split at inAfter
    · exact List.all_eq_true.mp after_blank c inAfter
    · simp at inAfter
  · split at inGap
    · exact List.all_eq_true.mp before_blank c inGap
    · exact gap_blank c inGap

theorem writesBlanks_between : between.WritesBlanks := by
  intro front behind gap blank
  unfold between
  split
  · exact blank
  · simp

end GapRule

open GapRule

variable {mark c : Char} {s r rest gap before after : Text}

/-! ## Blanks behind and around a mark -/

theorem ne_of_isBlank {d : Char} (visible : isBlank c = false) (blank : isBlank d) : d ≠ c := by
  rintro rfl
  simp [visible] at blank

theorem replace_withBlanksAfter_gap (visible : isBlank mark = false)
    (blank : ∀ c ∈ gap, isBlank c) (write : Unit → Text) (r : Text) :
    (withBlanksAfter mark).replace write (gap ++ r) =
      gap ++ (withBlanksAfter mark).replace write r := by
  refine Reader.replace_passes _ (Reader.passes_of_unread fun part tail some_part => ?_)
  obtain ⟨d, part, rfl⟩ := List.exists_cons_of_ne_nil some_part
  have other := ne_of_isBlank visible (blank d (tail.subset (by simp)))
  simp [withBlanksAfter, other]

theorem replace_withBlanksAfter (visible : isBlank mark = false) (after s : Text) :
    (withBlanksAfter mark).replace (fun _ => mark :: after) s = (afterMark mark after).fill s := by
  -- Behind a mark the scan has passed the blanks together with it.
  refine eq_fill (fun front s =>
    if front = some mark then
      after ++ (withBlanksAfter mark).replace (fun _ => mark :: after) s.dropBlanks
    else (withBlanksAfter mark).replace (fun _ => mark :: after) s)
    (fun front gap blank => ?_) (fun front gap c r blank shown => ?_) s
  · have passed := replace_withBlanksAfter_gap visible blank (fun _ => mark :: after) []
    rw [List.append_nil, Reader.replace_nil, List.append_nil] at passed
    simp [Text.dropBlanks_of_blank blank, passed, afterMark]
  · have written : (withBlanksAfter mark).replace (fun _ => mark :: after) (c :: r) =
        c :: if some c = some mark then
            after ++ (withBlanksAfter mark).replace (fun _ => mark :: after) (Text.dropBlanks r)
          else (withBlanksAfter mark).replace (fun _ => mark :: after) r := by
      split
      · next same =>
        obtain rfl := Option.some.inj same
        exact (withBlanksAfter c).replace_some _ (a := ()) (by simp [withBlanksAfter])
      · next other =>
        refine (withBlanksAfter mark).replace_none _ ?_
        simpa [withBlanksAfter] using other
    rw [Text.dropBlanks_gap blank shown, replace_withBlanksAfter_gap visible blank, written,
      afterMark]
    split <;> rfl

theorem replace_withBlanksBefore (visible : isBlank mark = false) (before after s : Text) :
    (withBlanksBefore mark).replace (fun _ => before ++ mark :: after) s =
      (aroundMark mark before after).fill s := by
  refine eq_fill (fun front s => (if front = some mark then after else []) ++
      (withBlanksBefore mark).replace (fun _ => before ++ mark :: after) s)
    (fun front gap blank => ?_) (fun front gap c r blank shown => ?_) s
  · have passed : (withBlanksBefore mark).replace (fun _ => before ++ mark :: after) gap = gap := by
      refine Reader.replace_eq_self _ (Reader.passes_of_unread fun part tail _ => ?_)
      have dropped := Text.dropBlanks_of_blank fun c member => blank c (tail.subset member)
      simp [withBlanksBefore, dropped]
    simp [passed, aroundMark]
  · have reached {part : Text} (tail : part <:+ gap) :
        Text.dropBlanks (part ++ c :: r) = c :: r :=
      Text.dropBlanks_gap (fun d member => blank d (tail.subset member)) shown r
    by_cases same : c = mark
    · subst same
      rw [(withBlanksBefore c).replace_some _ (a := ())
        (by simp [withBlanksBefore, reached List.suffix_rfl] : _ = some ((), r))]
      simp [aroundMark]
    · have passes : (withBlanksBefore mark).Passes (c :: r) gap :=
        Reader.passes_of_unread fun part tail _ => by simp [withBlanksBefore, reached tail, same]
      have kept : (withBlanksBefore mark).read (c :: r) = none := by
        simp [withBlanksBefore, Text.dropBlanks_cons_of_visible shown, same]
      rw [Reader.replace_passes _ passes, (withBlanksBefore mark).replace_none _ kept]
      simp [aroundMark, same]

/-! ## Line breaks -/

def lastLine (gap : Text) : Text := (afterLineBreaks? gap).getD gap

theorem afterLineBreaks?_append (blank : ∀ c ∈ gap, isBlank c) (visible : isBlank c = false)
    (r : Text) :
    afterLineBreaks? (gap ++ c :: r) = (afterLineBreaks? gap).map (· ++ c :: r) := by
  induction gap with
  | nil => simp [afterLineBreaks?, visible]
  | cons d gap ih =>
    have inner := ih fun e member => blank e (by simp [member])
    simp only [List.cons_append, afterLineBreaks?, blank d (by simp), if_true, inner]
    cases afterLineBreaks? gap with
    | some rest => rfl
    | none => by_cases same : d = '\n' <;> simp [same]

theorem afterLineBreaks?_rest (found : afterLineBreaks? s = some rest) :
    afterLineBreaks? rest = none := by
  induction s with
  | nil => simp [afterLineBreaks?] at found
  | cons c r ih =>
    rw [afterLineBreaks?] at found
    split at found
    · split at found
      · next behind =>
        cases found
        exact ih behind
      · next last =>
        simp only [Option.ite_none_right_eq_some, Option.some.injEq] at found
        exact found.2 ▸ last
    · cases found

theorem afterLineBreaks?_lastLine (gap : Text) : afterLineBreaks? (lastLine gap) = none := by
  rw [lastLine]
  cases found : afterLineBreaks? gap with
  | some rest => exact afterLineBreaks?_rest found
  | none => exact found

theorem lastLine_lastLine (gap : Text) : lastLine (lastLine gap) = lastLine gap := by
  rw [lastLine, afterLineBreaks?_lastLine, Option.getD_none]

theorem afterLineBreaks?_of_break (blank : ∀ c ∈ gap, isBlank c) (r : Text) :
    afterLineBreaks? (gap ++ '\n' :: r) = some (lastLine r) := by
  induction gap with
  | nil =>
    simp only [List.nil_append, afterLineBreaks?, lastLine]
    cases afterLineBreaks? r <;> simp [isBlank]
  | cons c gap ih =>
    rw [List.cons_append, afterLineBreaks?, if_pos (blank c (by simp)),
      ih fun d member => blank d (by simp [member])]

theorem lastLine_of_break (blank : ∀ c ∈ gap, isBlank c) (r : Text) :
    lastLine (gap ++ '\n' :: r) = lastLine r := by
  rw [lastLine, afterLineBreaks?_of_break blank, Option.getD_some]

theorem blank_mergeLines (blank : ∀ c ∈ gap, isBlank c) : ∀ c ∈ mergeLines gap, isBlank c := by
  have same := (respaces_mergeLines gap).mono fun _ _ => Respaces.visible_eq
  have none := same.visible_eq.symm.trans (Text.visible_of_blank blank)
  simpa [Text.visible] using none

theorem mergeLines_nil : mergeLines [] = [] := Reader.replace_nil _ _

theorem mergeLines_ne_nil (some_text : s ≠ []) : mergeLines s ≠ [] := by
  obtain ⟨c, r, rfl⟩ := List.exists_cons_of_ne_nil some_text
  rw [mergeLines]
  cases found : emptyLines.read (c :: r) with
  | none => simp [emptyLines.replace_none _ found]
  | some accepted => simp [emptyLines.replace_some _ found]

theorem mergeLines_of_ne (other : c ≠ '\n') (r : Text) :
    mergeLines (c :: r) = c :: mergeLines r :=
  emptyLines.replace_none _ (by simp [emptyLines, other])

theorem mergeLines_eq_self (blank : ∀ c ∈ gap, isBlank c) (unbroken : afterLineBreaks? gap = none) :
    mergeLines gap = gap := by
  induction gap with
  | nil => exact mergeLines_nil
  | cons c gap ih =>
    rw [afterLineBreaks?, if_pos (blank c (by simp))] at unbroken
    split at unbroken
    · cases unbroken
    · next last =>
      have other : c ≠ '\n' := by simpa using unbroken
      rw [mergeLines_of_ne other, ih (fun d member => blank d (by simp [member])) last]

theorem mergeLines_break (blank : ∀ c ∈ gap, isBlank c) :
    mergeLines ('\n' :: gap) = '\n' :: lastLine gap := by
  cases found : afterLineBreaks? gap with
  | some rest =>
    obtain ⟨front, rfl, -⟩ := afterLineBreaks?_eq_append found
    have last := mergeLines_eq_self (fun c member => blank c (by simp [member]))
      (afterLineBreaks?_rest found)
    rw [mergeLines] at last ⊢
    rw [emptyLines.replace_some _ (by simp [emptyLines, found] : _ = some ((), rest)), last,
      lastLine, found]
    rfl
  | none =>
    have last := mergeLines_eq_self blank found
    rw [mergeLines] at last ⊢
    rw [emptyLines.replace_none _ (by simp [emptyLines, found]), last, lastLine, found,
      Option.getD_none]

theorem emptyLines_read_break (r : Text) :
    emptyLines.read ('\n' :: r) = (afterLineBreaks? r).map fun rest => ((), rest) := rfl

/-- Lines are merged within the gaps. -/
theorem mergeLines_append (blank : ∀ c ∈ gap, isBlank c) (visible : isBlank c = false) (r : Text) :
    mergeLines (gap ++ c :: r) = mergeLines gap ++ c :: mergeLines r := by
  unfold mergeLines
  induction gap using emptyLines.scan_induction with
  | done =>
    have other : c ≠ '\n' := by
      rintro rfl
      exact absurd visible (by decide)
    rw [Reader.replace_nil]
    exact mergeLines_of_ne other r
  | keep d gap kept ih =>
    have still : emptyLines.read (d :: (gap ++ c :: r)) = none := by
      by_cases line_end : d = '\n'
      · subst line_end
        rw [emptyLines_read_break, Option.map_eq_none_iff] at kept ⊢
        rw [afterLineBreaks?_append (fun e member => blank e (by simp [member])) visible, kept]
        rfl
      · simp [emptyLines, line_end]
    rw [List.cons_append, emptyLines.replace_none _ still,
      ih fun e member => blank e (by simp [member]), emptyLines.replace_none _ kept,
      List.cons_append]
  | take s a rest taken ih =>
    obtain ⟨front, rfl, -⟩ := emptyLines_eq_append taken
    have read : emptyLines.read ('\n' :: front ++ rest ++ c :: r) = some (a, rest ++ c :: r) := by
      simp only [emptyLines, List.cons_append, Option.map_eq_some_iff, Prod.mk.injEq,
        true_and] at taken ⊢
      obtain ⟨_, found, rfl⟩ := taken
      rw [afterLineBreaks?_append (fun e member => blank e (by simp [member])) visible, found]
      exact ⟨_, rfl, rfl⟩
    rw [emptyLines.replace_some _ read, ih fun e member => blank e (by simp [member]),
      emptyLines.replace_some _ taken, List.append_assoc]

theorem blank_lastLine (blank : ∀ c ∈ gap, isBlank c) : ∀ c ∈ lastLine gap, isBlank c := by
  rw [lastLine]
  cases found : afterLineBreaks? gap with
  | none => exact blank
  | some rest =>
    obtain ⟨front, rfl, -⟩ := afterLineBreaks?_eq_append found
    exact fun c member => blank c (List.mem_append_right front member)

theorem mergeLines_mergeLines (blank : ∀ c ∈ gap, isBlank c) :
    mergeLines (mergeLines gap) = mergeLines gap := by
  induction gap with
  | nil => rw [mergeLines_nil, mergeLines_nil]
  | cons c gap ih =>
    have behind : ∀ d ∈ gap, isBlank d := fun d member => blank d (by simp [member])
    by_cases line_end : c = '\n'
    · subst line_end
      rw [mergeLines_break behind, mergeLines_break (blank_lastLine behind), lastLine_lastLine]
    · rw [mergeLines_of_ne line_end, mergeLines_of_ne line_end, ih behind]

theorem mergeLines_indented (indented : ∀ c ∈ before, isBlank c) (blank : ∀ c ∈ gap, isBlank c) :
    mergeLines ('\n' :: (before ++ mergeLines ('\n' :: (before ++ gap)))) =
      mergeLines ('\n' :: (before ++ gap)) := by
  have behind : ∀ c ∈ before ++ gap, isBlank c := List.forall_mem_append.mpr ⟨indented, blank⟩
  have further : ∀ c ∈ before ++ '\n' :: lastLine (before ++ gap), isBlank c :=
    List.forall_mem_append.mpr
      ⟨indented, List.forall_mem_cons.mpr ⟨by decide, blank_lastLine behind⟩⟩
  rw [mergeLines_break behind, mergeLines_break further, lastLine_of_break indented,
    lastLine_lastLine]

theorem mergeLines_eq_fill (s : Text) : mergeLines s = merged.fill s :=
  eq_fill (fun _ => mergeLines) (fun _ _ _ => rfl)
    (fun _ _ _ r blank visible => mergeLines_append blank visible r) s

theorem trim_eq_fill (s : Text) : s.trim = between.fill s := by
  -- Behind the first visible character only the end is trimmed.
  refine eq_fill (fun front s => if front.isSome then s.dropTrailingBlanks else s.trim)
    (fun front gap blank => ?_) (fun front gap c r blank visible => ?_) s
  · have trimmed : gap.trim = [] := by
      rw [Text.trim, Text.dropBlanks_of_blank blank]
      rfl
    simp [between, Text.dropTrailingBlanks_of_blank blank, trimmed]
  · rw [Text.trim, Text.dropBlanks_gap blank visible,
      Text.dropTrailingBlanks_cons_of_visible visible, between]
    split
    · next some_front =>
      have ends := Text.dropTrailingBlanks_append (Text.endsVisible_concat visible gap) r
      rw [List.append_assoc, List.singleton_append] at ends
      simp [some_front, ends]
    · next none => simp [none]

/-! ## The two layouts -/

namespace GapRule

def script : GapRule :=
  (afterMark ';' "\n".toList).andThen <| (afterMark '{' "\n  ".toList).andThen <|
    (aroundMark '}' "\n".toList []).andThen <| merged.andThen between

def style : GapRule :=
  (aroundMark '{' " ".toList "\n  ".toList).andThen <| (afterMark ';' "\n  ".toList).andThen <|
    (aroundMark '}' "\n".toList "\n".toList).andThen <| merged.andThen between

theorem writesBlanks_merged : merged.WritesBlanks := fun _ _ _ => blank_mergeLines

theorem writesBlanks_script : script.WritesBlanks :=
  (writesBlanks_afterMark rfl).andThen <| (writesBlanks_afterMark rfl).andThen <|
    (writesBlanks_aroundMark rfl rfl).andThen <| writesBlanks_merged.andThen writesBlanks_between

theorem writesBlanks_style : style.WritesBlanks :=
  (writesBlanks_aroundMark rfl rfl).andThen <| (writesBlanks_afterMark rfl).andThen <|
    (writesBlanks_aroundMark rfl rfl).andThen <| writesBlanks_merged.andThen writesBlanks_between

theorem script_between (c d : Char) (gap : Text) : script (some c) gap (some d) =
    mergeLines (if d = '}' then "\n".toList else if c = '{' then "\n  ".toList
      else if c = ';' then "\n".toList else gap) := by
  simp [script, andThen, afterMark, aroundMark, merged, between]

theorem stable_script : script.Stable := by
  intro front behind gap blank
  cases front with
  | none => rfl
  | some c =>
    cases behind with
    | none => rfl
    | some d =>
      simp only [script_between]
      split
      · rfl
      · split
        · rfl
        · split
          · rfl
          · exact mergeLines_mergeLines blank

theorem style_between (c d : Char) (gap : Text) : style (some c) gap (some d) =
    mergeLines ((if c = '}' then "\n".toList else []) ++
      if d = '}' then "\n".toList else if c = ';' then "\n  ".toList
      else (if c = '{' then "\n  ".toList else []) ++ if d = '{' then [' '] else gap) := by
  simp [style, andThen, afterMark, aroundMark, merged, between]

/-- What is put in front of a gap behind a brace is not put there a second time, and every
other gap that is written anew does not depend on what it was. -/
theorem stable_style : style.Stable := by
  intro front behind gap blank
  cases front with
  | none => rfl
  | some c =>
    cases behind with
    | none => rfl
    | some d =>
      simp only [style_between]
      by_cases closing : d = '}'
      · simp only [closing, if_true]
      by_cases semicolon : c = ';'
      · simp only [semicolon, if_true]
      by_cases opening : d = '{'
      · simp only [opening, if_true]
      simp only [closing, semicolon, opening, if_false]
      by_cases behindClosing : c = '}'
      · subst behindClosing
        have indented : ∀ e ∈ ([] : Text), isBlank e := by simp
        exact mergeLines_indented indented blank
      by_cases behindOpening : c = '{'
      · subst behindOpening
        have indented : ∀ e ∈ "  ".toList, isBlank e := List.all_eq_true.mp (by decide)
        exact mergeLines_indented indented blank
      simpa only [behindClosing, behindOpening, if_false, List.nil_append] using
        mergeLines_mergeLines blank

end GapRule

theorem layOutScript_eq_fill (code : Text) : layOutScript code = script.fill code := by
  have statements (s : Text) : (withBlanksAfter ';').replace (fun _ => ";\n".toList) s =
      (afterMark ';' "\n".toList).fill s := replace_withBlanksAfter rfl "\n".toList s
  have opened (s : Text) : (withBlanksAfter '{').replace (fun _ => "\x7b\n  ".toList) s =
      (afterMark '{' "\n  ".toList).fill s := replace_withBlanksAfter rfl "\n  ".toList s
  have closed (s : Text) : (withBlanksBefore '}').replace (fun _ => "\n\x7d".toList) s =
      (aroundMark '}' "\n".toList []).fill s := replace_withBlanksBefore rfl "\n".toList [] s
  rw [layOutScript, closed, opened, statements, trim_eq_fill, mergeLines_eq_fill,
    fill_fill writesBlanks_merged, fill_fill (writesBlanks_aroundMark rfl rfl),
    fill_fill (writesBlanks_afterMark rfl), fill_fill (writesBlanks_afterMark rfl)]
  rfl

theorem layOutStyle_eq_fill (code : Text) : layOutStyle code = style.fill code := by
  have opened (s : Text) : (withBlanksBefore '{').replace (fun _ => " \x7b\n  ".toList) s =
      (aroundMark '{' " ".toList "\n  ".toList).fill s :=
    replace_withBlanksBefore rfl " ".toList "\n  ".toList s
  have declarations (s : Text) : (withBlanksAfter ';').replace (fun _ => ";\n  ".toList) s =
      (afterMark ';' "\n  ".toList).fill s := replace_withBlanksAfter rfl "\n  ".toList s
  have closed (s : Text) : (withBlanksBefore '}').replace (fun _ => "\n\x7d\n".toList) s =
      (aroundMark '}' "\n".toList "\n".toList).fill s :=
    replace_withBlanksBefore rfl "\n".toList "\n".toList s
  rw [layOutStyle, closed, declarations, opened, trim_eq_fill, mergeLines_eq_fill,
    fill_fill writesBlanks_merged, fill_fill (writesBlanks_aroundMark rfl rfl),
    fill_fill (writesBlanks_afterMark rfl), fill_fill (writesBlanks_aroundMark rfl rfl)]
  rfl

/-- Line layout changes nothing in what it has laid out. -/
theorem lineLayout_lineLayout (code : Text) :
    layOutScript (layOutScript code) = layOutScript code ∧
    layOutStyle (layOutStyle code) = layOutStyle code := by
  simp only [layOutScript_eq_fill, layOutStyle_eq_fill]
  exact ⟨fill_fill_of_stable writesBlanks_script stable_script code,
    fill_fill_of_stable writesBlanks_style stable_style code⟩

end Snippet.Layout
