import Snippet.Proofs.Page.Reference

/-! A page cut into its blocks and the characters between them.

Where no style overlaps a script, one scan for both kinds of block finds what each of
the two scans finds. Splitting then goes through the pieces of that cut one by one.
-/

set_option autoImplicit false

namespace Snippet

/-- Where a character of the files comes from: from its place in the page, from its
place in a reference, or it ends the line of an extracted block. -/
inductive Origin where
  | page : Nat → Origin
  | reference : Embedded → Nat → Origin
  | lineEnd
  deriving DecidableEq, Repr

def number (page : Text) : Labelled Origin :=
  page.zipIdx.map fun (c, place) => (c, .page place)

theorem text_number (page : Text) : Labelled.text (number page) = page := by
  simp [Labelled.text, number, Function.comp_def]

def Embedded.inside (kind : Embedded) (page : Text) : Labelled Origin :=
  (kind.block.parts (number page)).flatten

/-- No style overlaps a script. -/
def Separate (page : Text) : Prop :=
  ∀ x ∈ Embedded.style.inside page, x ∉ Embedded.script.inside page

instance (page : Text) : Decidable (Separate page) :=
  inferInstanceAs (Decidable (∀ x ∈ Embedded.style.inside page, x ∉ Embedded.script.inside page))

/-- A character between the blocks of a page, or a block. -/
abbrev Piece := Segment (Embedded × Block)

namespace Piece

def source : Piece → Text := Segment.render fun (_, block) => block.text

def seenBy (kind : Embedded) : Piece → List (Segment Block)
  | .plain c => [.plain c]
  | .found (own, block) => if own = kind then [.found block] else block.text.map .plain

def linked : Piece → Text
  | .plain c => [c]
  | .found (.style, _) => "<link rel=\"stylesheet\" href=\"styles.css\">".toList
  | .found (.script, _) => "<script src=\"script.js\"></script>".toList

/-- The block without the tags of its kind and with a line end, in the file for that kind. -/
def extracted (kind : Embedded) : Piece → Text
  | .plain _ => []
  | .found (own, block) => if own = kind then kind.tag.erase block.text ++ ['\n'] else []

end Piece

/-- The pieces make up the page, and each scan for blocks finds those among them. -/
structure IsCutInto (page : Text) (pieces : List Piece) : Prop where
  source : pieces.flatMap Piece.source = page
  seen : ∀ kind, pieces.flatMap (Piece.seenBy kind) = kind.block.segments page

def SplitPage.ofPieces (pieces : List Piece) : SplitPage where
  html := pieces.flatMap Piece.linked
  css := pieces.flatMap (Piece.extracted .style)
  js := pieces.flatMap (Piece.extracted .script)

variable {page : Text} {pieces : List Piece} {L : Type}

/-- The pieces of a page, where each block is passed by the scans for the other kinds. -/
inductive Cut : Text → List Piece → Prop where
  | done : Cut [] []
  | plain {c : Char} {s : Text} {pieces : List Piece}
      (unread : ∀ kind : Embedded, kind.block.read (c :: s) = none) :
      Cut s pieces → Cut (c :: s) (.plain c :: pieces)
  | found {kind : Embedded} {block : Block} {s : Text} {pieces : List Piece}
      (isBlock : kind.IsBlock block)
      (passed : ∀ other : Embedded, kind ≠ other → other.block.Passes s block.text) :
      Cut s pieces → Cut (block.text ++ s) (.found (kind, block) :: pieces)

namespace Cut

open Embedded (style script IsPlain)

theorem source_eq (cut : Cut page pieces) : pieces.flatMap Piece.source = page := by
  induction cut with
  | done => rfl
  | plain _ _ ih =>
    rw [List.flatMap_cons, ih]
    rfl
  | found _ _ _ ih =>
    rw [List.flatMap_cons, ih]
    rfl

theorem segments_eq (cut : Cut page pieces) (kind : Embedded) :
    pieces.flatMap (Piece.seenBy kind) = kind.block.segments page := by
  induction cut with
  | done => simp
  | plain unread _ ih =>
    rw [List.flatMap_cons, ih, Reader.segments_none _ (unread kind)]
    rfl
  | @found own block s pieces isBlock passed _ ih =>
    rw [List.flatMap_cons, ih, Piece.seenBy]
    split
    · next same =>
      subst same
      rw [Reader.segments_some _ (Embedded.block_read_eq_some.mpr ⟨rfl, isBlock⟩)]
      rfl
    · next differs => rw [Reader.segments_passes (passed kind differs)]

theorem extract_eq (cut : Cut page pieces) (kind : Embedded) :
    kind.extract page = pieces.flatMap (Piece.extracted kind) := by
  rw [Embedded.extract]
  induction cut with
  | done => simp
  | plain unread _ ih =>
    rw [Reader.findAll_none _ (unread kind), ih]
    rfl
  | @found own block s pieces isBlock passed _ ih =>
    rw [List.flatMap_cons, Piece.extracted, ← ih]
    split
    · next same =>
      subst same
      rw [Reader.findAll_some _ (Embedded.block_read_eq_some.mpr ⟨rfl, isBlock⟩)]
      rfl
    · next differs => rw [Reader.findAll_passes (passed kind differs), List.nil_append]

theorem linked_eq (cut : Cut page pieces) :
    script.substitute script.defaultReference (style.substitute style.defaultReference page) =
      pieces.flatMap Piece.linked := by
  have plain (kind : Embedded) : IsPlain kind.part.defaultName :=
    Embedded.isPlain_defaultName kind.part
  simp only [Embedded.substitute, Embedded.defaultReference]
  induction cut with
  | done => simp
  | @plain c s pieces unread _ ih =>
    -- No script begins here among the links, because none begins here in the page.
    have rewriting := Embedded.rewriting_substitute style style.part.defaultName s
    have still := Embedded.read_kept (plain style) rewriting (unread script)
    rw [Reader.replace_none _ _ (unread style)]
    rw [Embedded.substitute] at still
    rw [Reader.replace_none _ _ still, ih]
    rfl
  | @found kind block s pieces isBlock passed _ ih =>
    cases kind with
    | style =>
      rw [Reader.replace_some _ _ (Embedded.block_read_eq_some.mpr ⟨rfl, isBlock⟩),
        Reader.replace_passes _ (Embedded.passes_link (plain style) _), ih]
      rfl
    | script =>
      rw [Reader.replace_passes _ (passed style (by decide)),
        Reader.replace_some _ _ (Embedded.block_read_eq_some.mpr ⟨rfl, isBlock⟩), ih]
      rfl

end Cut

/-! ## Finding the cut -/

namespace Embedded

def anyBlock : Reader (Embedded × Block) where
  read s :=
    match style.block.read s with
    | some (block, rest) => some ((style, block), rest)
    | none => (script.block.read s).map fun (block, rest) => ((script, block), rest)
  shorter := by
    intro s found rest h
    split at h
    · next block rest' read =>
      cases h
      exact style.block.shorter read
    · simp only [Option.map_eq_some_iff, Prod.exists] at h
      obtain ⟨block, rest', read, same⟩ := h
      cases same
      exact script.block.shorter read

theorem anyBlock_read_eq_some {kind : Embedded} {block : Block} {s rest : Text}
    (found : anyBlock.read s = some ((kind, block), rest)) :
    kind.block.read s = some (block, rest) := by
  simp only [anyBlock] at found
  split at found
  · next read =>
    cases found
    exact read
  · simp only [Option.map_eq_some_iff, Prod.exists] at found
    obtain ⟨_, _, read, same⟩ := found
    cases same
    exact read

theorem anyBlock_read_eq_none {s : Text} (unread : anyBlock.read s = none) (kind : Embedded) :
    kind.block.read s = none := by
  simp only [anyBlock] at unread
  split at unread
  · simp at unread
  · cases kind with
    | style => assumption
    | script => simpa using unread

theorem anyBlock_faithful : anyBlock.Faithful := by
  intro s rest found read
  exact block_faithful _ (anyBlock_read_eq_some read)

end Embedded

def Apart (t : Labelled L) : Prop :=
  ∀ kind other : Embedded, kind ≠ other →
    ∀ x ∈ (kind.block.parts t).flatten, x ∉ (other.block.parts t).flatten

theorem exists_cut {t : Labelled L} (apart : Apart t) : ∃ pieces, Cut (Labelled.text t) pieces := by
  induction t using Embedded.anyBlock.trace_induction Embedded.anyBlock_faithful with
  | done => exact ⟨[], .done⟩
  | keep x t kept ih =>
    have unread := Embedded.anyBlock_read_eq_none kept
    simp only [Apart, Reader.parts_none (unread _)] at apart
    obtain ⟨pieces, cut⟩ := ih apart
    exact ⟨.plain x.1 :: pieces, cut.plain unread⟩
  | take found part rest taken ih =>
    obtain ⟨kind, block⟩ := found
    have read := Embedded.anyBlock_read_eq_some taken
    obtain ⟨same, isBlock⟩ := Embedded.block_read_eq_some.mp read
    have text : Labelled.text part = block.text := List.append_cancel_right same
    -- Its characters lie in a part of its own kind, hence in none of another.
    have passed (other : Embedded) (differs : kind ≠ other) :
        other.block.Passes (Labelled.text rest) (Labelled.text part) := by
      refine Reader.passes_of_not_mem other.block_faithful fun x member => ?_
      refine apart kind other differs x ?_
      rw [Reader.parts_some read]
      exact List.mem_append_left _ member
    have further (own : Embedded) {x : Char × L} (member : x ∈ (own.block.parts rest).flatten) :
        x ∈ (own.block.parts (part ++ rest)).flatten := by
      by_cases differs : kind = own
      · subst differs
        rw [Reader.parts_some read]
        exact List.mem_append_right part member
      · rwa [Reader.parts_passes (passed own differs)]
    obtain ⟨pieces, cut⟩ := ih fun own other differs x member within =>
      apart own other differs x (further own member) (further other within)
    rw [Labelled.text_append, text] at *
    exact ⟨_, cut.found isBlock passed⟩

theorem Separate.apart (separate : Separate page) : Apart (number page) := by
  intro kind other differs x member within
  cases kind <;> cases other
  · exact differs rfl
  · exact separate x member within
  · exact separate x within member
  · exact differs rfl

/-- Splitting a page whose blocks do not overlap leaves each piece in its place or moves
it to the file for its kind. -/
theorem splitPage_of_separate (markup : (Category.of page).isMarkup) (separate : Separate page) :
    ∃ pieces, IsCutInto page pieces ∧ splitPage page = .ofPieces pieces := by
  obtain ⟨pieces, cut⟩ := exists_cut separate.apart
  rw [text_number] at cut
  refine ⟨pieces, ⟨cut.source_eq, cut.segments_eq⟩, ?_⟩
  rw [splitPage, if_pos markup, cut.linked_eq, cut.extract_eq, cut.extract_eq]
  rfl

theorem splitPage_of_separate_page :
    let page := "<p></p><STYLE x>a<style>b</style>\n<script>c</script><style> </style>d".toList
    let split : SplitPage :=
      { html := ("<p></p><link rel=\"stylesheet\" href=\"styles.css\">\n" ++
          "<script src=\"script.js\"></script><link rel=\"stylesheet\" href=\"styles.css\">d").toList
        css := "ab\n \n".toList
        js := "c\n".toList }
    (Category.of page).isMarkup ∧ Separate page ∧ splitPage page = split ∧
      ∃ pieces, IsCutInto page pieces ∧ .ofPieces pieces = split := by
  intro page split
  have markup : (Category.of page).isMarkup := by decide +kernel
  have separate : Separate page := by decide +kernel
  have files : splitPage page = split := by decide +kernel
  obtain ⟨pieces, cut, same⟩ := splitPage_of_separate markup separate
  exact ⟨markup, separate, files, pieces, cut, same.symm.trans files⟩

end Snippet
