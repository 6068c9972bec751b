import Snippet.Layout
import Snippet.Proofs.Compression.Spacing

/-! Layout moves blanks only.

Line layout writes gaps anew, and blanks around punctuation that needs none; markup
layout breaks and indents between tags. So every visible character stays, and what
line layout adds is what compression takes away.
-/

set_option autoImplicit false

namespace Snippet

variable {α : Type} {s t rest : Text}

/-! ## Visible characters -/

namespace Text

@[simp] theorem visible_append (s t : Text) : visible (s ++ t) = visible s ++ visible t :=
  List.filter_append ..

theorem visible_cons (c : Char) (s : Text) : visible (c :: s) = visible [c] ++ visible s :=
  visible_append [c] s

theorem visible_of_blank (blank : ∀ c ∈ s, isBlank c) : visible s = [] :=
  List.filter_eq_nil_iff.mpr fun c member => by simp [blank c member]

theorem visible_eq_nil_iff : visible s = [] ↔ allBlank s := by
  simp [visible, allBlank]

theorem visible_around {c : Char} {before after : Text} (before_blank : ∀ d ∈ before, isBlank d)
    (after_blank : ∀ d ∈ after, isBlank d) : visible (before ++ c :: after) = visible [c] := by
  rw [visible_append, visible_cons, visible_of_blank before_blank, visible_of_blank after_blank,
    List.nil_append, List.append_nil]

theorem visible_dropBlanks (s : Text) : visible s.dropBlanks = visible s := by
  conv_rhs => rw [← leadingBlanks_append_dropBlanks s]
  rw [visible_append, visible_of_blank fun c => isBlank_of_mem_leadingBlanks, List.nil_append]

theorem visible_dropTrailingBlanks (s : Text) : visible s.dropTrailingBlanks = visible s := by
  obtain ⟨gap, whole, blank⟩ := exists_trailingBlanks s
  conv_rhs => rw [whole]
  rw [visible_append, visible_of_blank blank, List.append_nil]

theorem visible_trim (s : Text) : visible s.trim = visible s := by
  rw [trim, visible_dropTrailingBlanks, visible_dropBlanks]

end Text

theorem Rewriting.visible_eq
    (rewriting : Rewriting (fun old new => Text.visible old = Text.visible new) s t) :
    Text.visible s = Text.visible t := by
  induction rewriting with
  | done => rfl
  | keep c _ ih => rw [Text.visible_cons, ih, ← Text.visible_cons]
  | write same _ ih => rw [Text.visible_append, Text.visible_append, same, ih]

namespace Layout

/-- A part of a text with other blanks: a gap for a gap, or any blanks around
punctuation that needs none. -/
inductive Respaces : Text → Text → Prop where
  | gap {old new : Text} : (∀ c ∈ old, isBlank c) → old ≠ [] → (∀ c ∈ new, isBlank c) → new ≠ [] →
      Respaces old new
  | around {c : Char} {before after before' after' : Text} : Compression.isTight c →
      (∀ d ∈ before, isBlank d) → (∀ d ∈ after, isBlank d) →
      (∀ d ∈ before', isBlank d) → (∀ d ∈ after', isBlank d) →
      Respaces (before ++ c :: after) (before' ++ c :: after')

namespace Respaces

variable {old new : Text}

theorem visible_eq (respaces : Respaces old new) : Text.visible old = Text.visible new := by
  cases respaces with
  | gap blank _ blank' _ => rw [Text.visible_of_blank blank, Text.visible_of_blank blank']
  | around _ before after before' after' =>
    rw [Text.visible_around before after, Text.visible_around before' after']

theorem alike (respaces : Respaces old new) : Compression.Alike old new := by
  cases respaces with
  | gap blank some_old blank' some_new => exact Compression.alike_gap blank some_old blank' some_new
  | around tight before after before' after' =>
    exact (Compression.alike_around_tight before tight after).trans
      (Compression.alike_around_tight before' tight after').symm

end Respaces

/-! ## Lines of scripts and styles -/

variable {mark : Char} {before after : Text}

theorem withBlanksAfter_eq_append {a : Unit}
    (found : (withBlanksAfter mark).read s = some (a, rest)) :
    ∃ gap, s = mark :: gap ++ rest ∧ ∀ d ∈ gap, isBlank d := by
  cases s with
  | nil => simp [withBlanksAfter] at found
  | cons c r =>
    simp only [withBlanksAfter, Option.ite_none_right_eq_some, Option.some.injEq, Prod.mk.injEq,
      true_and] at found
    obtain ⟨rfl, rfl⟩ := found
    refine ⟨Text.leadingBlanks r, ?_, fun d => Text.isBlank_of_mem_leadingBlanks⟩
    rw [List.cons_append, Text.leadingBlanks_append_dropBlanks]

theorem withBlanksBefore_eq_append {a : Unit}
    (found : (withBlanksBefore mark).read s = some (a, rest)) :
    ∃ gap, s = gap ++ [mark] ++ rest ∧ ∀ d ∈ gap, isBlank d := by
  simp only [withBlanksBefore] at found
  split at found
  · next c r behind =>
    simp only [Option.ite_none_right_eq_some, Option.some.injEq, Prod.mk.injEq, true_and] at found
    obtain ⟨rfl, rfl⟩ := found
    refine ⟨s.leadingBlanks, ?_, fun d => Text.isBlank_of_mem_leadingBlanks⟩
    rw [List.append_assoc, List.singleton_append, ← behind, Text.leadingBlanks_append_dropBlanks]
  · cases found

theorem afterLineBreaks?_eq_append (found : afterLineBreaks? s = some rest) :
    ∃ gap, s = gap ++ rest ∧ ∀ d ∈ gap, isBlank d := by
  induction s with
  | nil => simp [afterLineBreaks?] at found
  | cons c r ih =>
    rw [afterLineBreaks?] at found
    split at found
    · next blank =>
      split at found
      · next behind =>
        cases found
        obtain ⟨gap, rfl, blanks⟩ := ih behind
        exact ⟨c :: gap, rfl, List.forall_mem_cons.mpr ⟨blank, blanks⟩⟩
      · simp only [Option.ite_none_right_eq_some, Option.some.injEq] at found
        obtain ⟨rfl, rfl⟩ := found
        exact ⟨['\n'], rfl, by simpa using blank⟩
    · cases found

theorem emptyLines_eq_append {a : Unit} (found : emptyLines.read s = some (a, rest)) :
    ∃ gap, s = '\n' :: gap ++ rest ∧ ∀ d ∈ gap, isBlank d := by
  simp only [emptyLines] at found
  split at found
  · next r =>
    simp only [Option.map_eq_some_iff, Prod.mk.injEq, true_and] at found
    obtain ⟨_, behind, rfl⟩ := found
    obtain ⟨gap, rfl, blank⟩ := afterLineBreaks?_eq_append behind
    exact ⟨gap, rfl, blank⟩
  · cases found

theorem respaces_withBlanksAfter (tight : Compression.isTight mark)
    (blank : ∀ d ∈ after, isBlank d) (s : Text) :
    Rewriting Respaces s ((withBlanksAfter mark).replace (fun _ => mark :: after) s) := by
  refine .of_accepted _ _ (fun found => ?_) s
  obtain ⟨gap, rfl, gap_blank⟩ := withBlanksAfter_eq_append found
  have written : Respaces ([] ++ mark :: gap) ([] ++ mark :: after) :=
    .around tight (by simp) gap_blank (by simp) blank
  exact ⟨_, rfl, written⟩

theorem respaces_withBlanksBefore (tight : Compression.isTight mark)
    (before_blank : ∀ d ∈ before, isBlank d) (after_blank : ∀ d ∈ after, isBlank d) (s : Text) :
    Rewriting Respaces s
      ((withBlanksBefore mark).replace (fun _ => before ++ mark :: after) s) := by
  refine .of_accepted _ _ (fun found => ?_) s
  obtain ⟨gap, rfl, gap_blank⟩ := withBlanksBefore_eq_append found
  exact ⟨_, rfl, .around tight gap_blank (by simp) before_blank after_blank⟩

theorem respaces_mergeLines (s : Text) : Rewriting Respaces s (mergeLines s) := by
  refine .of_accepted _ _ (fun found => ?_) s
  obtain ⟨gap, rfl, blank⟩ := emptyLines_eq_append found
  have line_end : isBlank '\n' := by decide
  exact ⟨_, rfl, .gap (List.forall_mem_cons.mpr ⟨line_end, blank⟩) (by simp)
    (by simpa using line_end) (by simp)⟩

end Layout

open Layout (Respaces)

/-- A view of texts that does not depend on how they are spaced. -/
structure IgnoresSpacing {β : Type} (view : Text → β) : Prop where
  respaced : ∀ {s t : Text}, Rewriting Respaces s t → view s = view t
  trimmed : ∀ s : Text, view s.trim = view s

namespace IgnoresSpacing

variable {β : Type} {view : Text → β}

theorem view_withBlanksAfter (ignores : IgnoresSpacing view) {mark : Char} (after : Text)
    (tight : Compression.isTight mark) (blank : after.allBlank) (s : Text) :
    view ((Layout.withBlanksAfter mark).replace (fun _ => mark :: after) s) = view s :=
  (ignores.respaced (Layout.respaces_withBlanksAfter tight (List.all_eq_true.mp blank) s)).symm

theorem view_withBlanksBefore (ignores : IgnoresSpacing view) {mark : Char} (before after : Text)
    (tight : Compression.isTight mark) (before_blank : before.allBlank)
    (after_blank : after.allBlank) (s : Text) :
    view ((Layout.withBlanksBefore mark).replace (fun _ => before ++ mark :: after) s) = view s :=
  (ignores.respaced (Layout.respaces_withBlanksBefore tight (List.all_eq_true.mp before_blank)
    (List.all_eq_true.mp after_blank) s)).symm

theorem view_mergeLines (ignores : IgnoresSpacing view) (s : Text) :
    view (Layout.mergeLines s) = view s :=
  (ignores.respaced (Layout.respaces_mergeLines s)).symm

theorem view_layOutScript (ignores : IgnoresSpacing view) (code : Text) :
    view (layOutScript code) = view code := by
  rw [layOutScript, ignores.trimmed, ignores.view_mergeLines]
  calc view _ = view _ := ignores.view_withBlanksBefore ['\n'] []
        (by decide) (by decide) (by decide) _
    _ = view _ := ignores.view_withBlanksAfter "\n  ".toList (by decide) (by decide) _
    _ = view code := ignores.view_withBlanksAfter ['\n'] (by decide) (by decide) code

theorem view_layOutStyle (ignores : IgnoresSpacing view) (code : Text) :
    view (layOutStyle code) = view code := by
  rw [layOutStyle, ignores.trimmed, ignores.view_mergeLines]
  calc view _ = view _ := ignores.view_withBlanksBefore ['\n'] ['\n']
        (by decide) (by decide) (by decide) _
    _ = view _ := ignores.view_withBlanksAfter "\n  ".toList (by decide) (by decide) _
    _ = view code := ignores.view_withBlanksBefore [' '] "\n  ".toList
        (by decide) (by decide) (by decide) code

end IgnoresSpacing

theorem ignoresSpacing_visible : IgnoresSpacing Text.visible where
  respaced rewriting := (rewriting.mono fun _ _ => Respaces.visible_eq).visible_eq
  trimmed := Text.visible_trim

theorem ignoresSpacing_compress : IgnoresSpacing compress where
  respaced rewriting :=
    (Compression.Alike.of_rewriting (rewriting.mono fun _ _ => Respaces.alike)).compress_eq
  trimmed := Compression.compress_trim

theorem compress_lineLayout (code : Text) :
    compress (layOutScript code) = compress code ∧ compress (layOutStyle code) = compress code :=
  ⟨ignoresSpacing_compress.view_layOutScript code, ignoresSpacing_compress.view_layOutStyle code⟩

/-! ## Lines of markup -/

namespace Layout

theorem blanksBetweenTags_eq_append {a : Unit} (found : blanksBetweenTags.read s = some (a, rest)) :
    ∃ gap, s = '>' :: gap ++ '<' :: rest ∧ ∀ d ∈ gap, isBlank d := by
  simp only [blanksBetweenTags] at found
  split at found
  · next c r =>
    split at found
    · next blank =>
      split at found
      · next behind =>
        cases found
        refine ⟨c :: Text.leadingBlanks r, ?_,
          List.forall_mem_cons.mpr ⟨blank, fun d => Text.isBlank_of_mem_leadingBlanks⟩⟩
        rw [List.cons_append, List.cons_append, ← behind, Text.leadingBlanks_append_dropBlanks]
      · cases found
    · cases found
  · cases found

theorem tag_eq_append {whole : Text} (found : tag.read s = some (whole, rest)) :
    s = whole ++ rest := by
  simp only [tag] at found
  split at found
  · next r =>
    split at found
    · next behind =>
      split at found
      · cases found
      · cases found
        have parts := List.takeWhile_append_dropWhile (p := (· != '>')) (l := r)
        rw [behind] at parts
        simpa using parts.symm
    · cases found
  · cases found

theorem visible_joined (s : Text) :
    Text.visible (blanksBetweenTags.replace (fun _ => "><".toList) s) = Text.visible s := by
  refine (Rewriting.of_accepted _ _ (fun found => ?_) s).visible_eq.symm
  obtain ⟨gap, rfl, blank⟩ := blanksBetweenTags_eq_append found
  refine ⟨'>' :: gap ++ ['<'], by simp, ?_⟩
  rw [Text.visible_append, Text.visible_cons, Text.visible_of_blank blank]
  rfl

theorem visible_tagLine (depth : Nat) (tag : Text) :
    Text.visible (tagLine depth tag).1 = Text.visible tag := by
  have indented (n : Nat) : Text.visible (indentation n) = [] :=
    Text.visible_of_blank fun c member => (List.mem_replicate.mp member).2 ▸ by decide
  have line_end : Text.visible ['\n'] = [] := by decide
  rw [tagLine, Text.visible_append, Text.visible_append, indented, line_end, List.nil_append,
    List.append_nil]

theorem visible_tagLines (depth : Nat) (s : Text) :
    Text.visible (Segment.renderWith tagLine depth (tag.segments s)) = Text.visible s := by
  induction s using tag.scan_induction generalizing depth with
  | done => rw [Reader.segments_nil, Segment.renderWith]
  | keep c r kept ih =>
    rw [Reader.segments_none _ kept, Segment.renderWith, Text.visible_cons, ih, ← Text.visible_cons]
  | take s whole rest taken ih =>
    rw [Reader.segments_some _ taken, Segment.renderWith, Text.visible_append, visible_tagLine, ih,
      ← Text.visible_append, ← tag_eq_append taken]

end Layout

theorem visible_layOutMarkup (code : Text) :
    Text.visible (layOutMarkup code) = Text.visible code := by
  rw [layOutMarkup, Text.visible_trim, Layout.visible_tagLines, Layout.visible_joined]

/-- Layout keeps every visible character in its place, whatever the snippet is laid out as. -/
theorem visible_layOut (target : Target) (code : Text) :
    (layOut target code).visible = code.visible := by
  rw [layOut]
  cases target.resolve code with
  | javascript => exact ignoresSpacing_visible.view_layOutScript code
  | css => exact ignoresSpacing_visible.view_layOutStyle code
  | html | mixed | unknown | empty => exact visible_layOutMarkup code

end Snippet
