import Mathlib.Data.List.Nodup
import Snippet.Proofs.Page.Cut

/-! Where each character of a page is delivered.

The files are written once more with the place in the page that each character comes
from. Scripts are looked for twice, in the page for their file and among the links for
the page that is left, and a character is delivered once exactly if the two agree
about it.
-/

set_option autoImplicit false

namespace Snippet

namespace Embedded

def labelledReference (kind : Embedded) : Labelled Origin :=
  kind.defaultReference.zipIdx.map fun (c, index) => (c, .reference kind index)

/-- The first character of a reference stands for it. -/
def mark (kind : Embedded) : Char × Origin := ('<', .reference kind 0)

def line (kind : Embedded) (block : Labelled Origin) : Labelled Origin :=
  kind.tag.outside block ++ [('\n', .lineEnd)]

def tagged (kind : Embedded) (page : Text) : Labelled Origin :=
  (kind.block.parts (number page)).flatMap fun block => (kind.tag.parts block).flatten

end Embedded

open Embedded (style script)

def styled (page : Text) : Labelled Origin :=
  style.block.rewrite (fun _ => style.labelledReference) (number page)

/-- The three files of a split page, with the origin of every character. -/
structure Delivery where
  html : Labelled Origin
  css : Labelled Origin
  js : Labelled Origin

namespace Delivery

def of (page : Text) : Delivery where
  html := script.block.rewrite (fun _ => script.labelledReference) (styled page)
  css := (style.block.parts (number page)).flatMap style.line
  js := (script.block.parts (number page)).flatMap script.line

def text (delivery : Delivery) : SplitPage where
  html := Labelled.text delivery.html
  css := Labelled.text delivery.css
  js := Labelled.text delivery.js

def count (delivery : Delivery) (x : Char × Origin) : Nat :=
  delivery.html.count x + delivery.css.count x + delivery.js.count x

end Delivery

/-- Every character outside the tags is delivered once, and the page has one reference
for each block that was moved. -/
structure DeliversOnce (page : Text) : Prop where
  once : ∀ x ∈ number page, (∀ kind : Embedded, x ∉ kind.tagged page) →
    (Delivery.of page).count x = 1
  references : ∀ kind : Embedded,
    (Delivery.of page).html.count kind.mark = (kind.block.findAll page).length

def scriptsBehindLinks (page : Text) : Labelled Origin := (script.block.parts (styled page)).flatten

/-- Scripts are the same in the page and in the page with links, but for tags. -/
structure ScriptsAgree (page : Text) : Prop where
  inside : ∀ x ∈ number page, (∀ kind : Embedded, x ∉ kind.tagged page) →
    (x ∈ script.inside page ↔ x ∈ scriptsBehindLinks page)
  links : style.mark ∉ scriptsBehindLinks page
  number : (script.block.parts (styled page)).length = (script.block.findAll page).length

/-! ## The texts of the files -/

variable {α L : Type} {page : Text} {x : Char × Origin} {kind : Embedded}

namespace Embedded

theorem text_labelledReference (kind : Embedded) :
    Labelled.text kind.labelledReference = kind.defaultReference := by
  simp [Labelled.text, labelledReference, Function.comp_def]

theorem text_of_read {part rest : Labelled L} {block : Block}
    (found : kind.block.read (Labelled.text part ++ Labelled.text rest) =
      some (block, Labelled.text rest)) : Labelled.text part = block.text :=
  List.append_cancel_right (block_read_eq_some.mp found).1

theorem text_parts (kind : Embedded) (t : Labelled L) :
    (kind.block.parts t).map Labelled.text =
      (kind.block.findAll (Labelled.text t)).map Block.text := by
  induction t using kind.block.trace_induction kind.block_faithful with
  | done => simp
  | keep x t kept ih =>
    rw [Reader.parts_none kept, Labelled.text_cons, Reader.findAll_none _ kept, ih]
  | take block part rest found ih =>
    rw [Reader.parts_some found, Labelled.text_append, Reader.findAll_some _ found,
      List.map_cons, List.map_cons, ih, text_of_read found]

theorem text_line (kind : Embedded) (block : Labelled Origin) :
    Labelled.text (kind.line block) = kind.tag.erase (Labelled.text block) ++ ['\n'] := by
  rw [line, Labelled.text_append, Reader.outside,
    Reader.text_rewrite kind.tag_faithful block fun _ _ _ _ => rfl]
  rfl

theorem text_lines (kind : Embedded) (page : Text) :
    Labelled.text ((kind.block.parts (number page)).flatMap kind.line) = kind.extract page := by
  have blocks := kind.text_parts (number page)
  rw [text_number] at blocks
  have lines : kind.extract page =
      ((kind.block.findAll page).map Block.text).flatMap fun s => kind.tag.erase s ++ ['\n'] := by
    rw [extract, List.flatMap_map]
    rfl
  rw [lines, ← blocks, List.flatMap_map]
  simp only [Labelled.text, List.map_flatMap]
  congr
  funext block
  exact kind.text_line block

end Embedded

theorem text_styled (page : Text) :
    Labelled.text (styled page) = style.substitute style.defaultReference page := by
  rw [styled, Reader.text_rewrite style.block_faithful _ fun _ _ _ _ =>
    Embedded.text_labelledReference style, text_number]
  rfl

theorem Delivery.text_of (markup : (Category.of page).isMarkup) :
    (Delivery.of page).text = splitPage page := by
  have html : Labelled.text (Delivery.of page).html =
      script.substitute script.defaultReference (style.substitute style.defaultReference page) := by
    rw [Delivery.of, Reader.text_rewrite script.block_faithful _ fun _ _ _ _ =>
      Embedded.text_labelledReference script, text_styled]
    rfl
  rw [splitPage, if_pos markup, Delivery.text, html]
  simp only [Delivery.of, Embedded.text_lines]

/-! ## Counting characters -/

theorem nodup_number (page : Text) : (number page).Nodup := by
  have places : ((number page).map Prod.snd).Nodup := by
    have same : (number page).map Prod.snd = (page.zipIdx.map Prod.snd).map Origin.page := by
      rw [number, List.map_map, List.map_map]
      rfl
    rw [same, List.zipIdx_map_snd]
    exact List.Nodup.map (fun _ _ same => Origin.page.inj same) List.nodup_range'
  exact places.of_map _

theorem count_number (member : x ∈ number page) : (number page).count x = 1 :=
  List.count_eq_one_of_mem (nodup_number page) member

theorem origin_of_mem_number (member : x ∈ number page) : ∃ place, x.2 = .page place := by
  obtain ⟨⟨c, place⟩, -, rfl⟩ := List.mem_map.mp member
  exact ⟨place, rfl⟩

theorem count_labelledReference (kind : Embedded) (member : x ∈ number page) :
    kind.labelledReference.count x = 0 := by
  refine List.count_eq_zero.mpr fun inReference => ?_
  obtain ⟨place, origin⟩ := origin_of_mem_number member
  obtain ⟨⟨c, index⟩, -, rfl⟩ := List.mem_map.mp inReference
  cases origin

theorem count_lines (kind : Embedded) (blocks : List (Labelled Origin)) (other : x.2 ≠ .lineEnd) :
    (blocks.flatMap kind.line).count x +
      (blocks.flatMap fun block => (kind.tag.parts block).flatten).count x =
      blocks.flatten.count x := by
  induction blocks with
  | nil => rfl
  | cons block blocks ih =>
    have inBlock := Reader.count_outside kind.tag_faithful block x
    have lineEnd : [('\n', Origin.lineEnd)].count x = 0 := by
      refine List.count_eq_zero.mpr fun member => other ?_
      rw [List.mem_singleton.mp member]
    simp only [List.flatMap_cons, List.flatten_cons, List.count_append, Embedded.line] at ih ⊢
    omega

theorem length_parts (kind : Embedded) (page : Text) :
    (kind.block.parts (number page)).length = (kind.block.findAll page).length := by
  have lengths := congrArg List.length (kind.text_parts (number page))
  rwa [List.length_map, List.length_map, text_number] at lengths

theorem count_inside_le (kind : Embedded) (page : Text) (x : Char × Origin) :
    (kind.inside page).count x ≤ (number page).count x := by
  rw [Embedded.inside, ← Reader.count_outside kind.block_faithful (number page) x]
  exact Nat.le_add_left _ _

theorem count_scriptsBehindLinks_le (page : Text) (x : Char × Origin) :
    (scriptsBehindLinks page).count x ≤ (styled page).count x := by
  rw [scriptsBehindLinks, ← Reader.count_outside script.block_faithful (styled page) x]
  exact Nat.le_add_left _ _

theorem count_styled (page : Text) (x : Char × Origin) :
    (styled page).count x + (style.inside page).count x =
      (number page).count x +
        (style.block.findAll page).length * style.labelledReference.count x := by
  have parted := Reader.count_outside style.block_faithful (number page) x
  rw [styled, Reader.count_rewrite style.block_faithful, length_parts, Embedded.inside]
  omega

theorem count_html (page : Text) (x : Char × Origin) :
    (Delivery.of page).html.count x + (scriptsBehindLinks page).count x = (styled page).count x +
      (script.block.parts (styled page)).length * script.labelledReference.count x := by
  have parted := Reader.count_outside script.block_faithful (styled page) x
  rw [Delivery.of, Reader.count_rewrite script.block_faithful, scriptsBehindLinks]
  omega

/-- What is delivered and what is dropped: a character is delivered once, and once more
in the file for scripts, save that it is dropped with a tag or with a script that
stands among the links. -/
theorem count_delivered (member : x ∈ number page) :
    (Delivery.of page).count x + (style.tagged page).count x + (script.tagged page).count x +
      (scriptsBehindLinks page).count x = 1 + (script.inside page).count x := by
  obtain ⟨place, origin⟩ := origin_of_mem_number member
  have notLineEnd : x.2 ≠ .lineEnd := by simp [origin]
  have whole := count_number member
  have links := count_styled page x
  have references := count_html page x
  have css := count_lines style (style.block.parts (number page)) notLineEnd
  have js := count_lines script (script.block.parts (number page)) notLineEnd
  rw [count_labelledReference _ member, Nat.mul_zero] at links references
  -- The places in styles leave the page with the links and come back in their file.
  simp only [Delivery.count, Delivery.of, Embedded.tagged, Embedded.inside] at *
  omega

theorem count_mark_number (kind : Embedded) (page : Text) : (number page).count kind.mark = 0 := by
  refine List.count_eq_zero.mpr fun member => ?_
  obtain ⟨place, origin⟩ := origin_of_mem_number member
  cases origin

/-- A link is inserted for each style, and dropped again where a script surrounds it. -/
theorem count_links (page : Text) :
    (Delivery.of page).html.count style.mark + (scriptsBehindLinks page).count style.mark =
      (style.block.findAll page).length := by
  have one : style.labelledReference.count style.mark = 1 := by decide +kernel
  have other : script.labelledReference.count style.mark = 0 := by decide +kernel
  have none_before := count_mark_number style page
  have inside := count_inside_le style page style.mark
  have links := count_styled page style.mark
  have references := count_html page style.mark
  rw [one, Nat.mul_one] at links
  rw [other, Nat.mul_zero] at references
  omega

theorem count_scriptReferences (page : Text) :
    (Delivery.of page).html.count script.mark = (script.block.parts (styled page)).length := by
  have one : script.labelledReference.count script.mark = 1 := by decide +kernel
  have other : style.labelledReference.count script.mark = 0 := by decide +kernel
  have none_before := count_mark_number script page
  have behind := count_scriptsBehindLinks_le page script.mark
  have links := count_styled page script.mark
  have references := count_html page script.mark
  rw [other, Nat.mul_zero] at links
  rw [one, Nat.mul_one] at references
  omega

/-! ## When everything is delivered once -/

theorem deliversOnce_iff (page : Text) : DeliversOnce page ↔ ScriptsAgree page := by
  have counted {x : Char × Origin} (member : x ∈ number page)
      (untagged : ∀ kind : Embedded, x ∉ kind.tagged page) :
      (Delivery.of page).count x = 1 ↔
        (x ∈ script.inside page ↔ x ∈ scriptsBehindLinks page) := by
    have law := count_delivered member
    rw [List.count_eq_zero.mpr (untagged style), List.count_eq_zero.mpr (untagged script)] at law
    -- Both counts are at most one, so that they agree if the memberships do.
    have whole := count_number member
    have inside := count_inside_le script page x
    have behind := count_scriptsBehindLinks_le page x
    have links := count_styled page x
    rw [count_labelledReference style member, Nat.mul_zero] at links
    rw [← List.count_pos_iff, ← List.count_pos_iff]
    omega
  have links := count_links page
  have scripts := count_scriptReferences page
  constructor
  · intro delivers
    refine ⟨fun x member untagged => (counted member untagged).mp
      (delivers.once x member untagged), ?_, ?_⟩
    · rw [← List.count_eq_zero]
      have kept := delivers.references style
      omega
    · rw [← scripts]
      exact delivers.references script
  · intro agree
    refine ⟨fun x member untagged => (counted member untagged).mpr
      (agree.inside x member untagged), fun kind => ?_⟩
    cases kind with
    | style =>
      rw [List.count_eq_zero.mpr agree.links] at links
      exact links
    | script => exact scripts.trans agree.number

theorem Cut.parts_rewrite {s file : Text} {pieces : List Piece} (cut : Cut s pieces)
    (plain : Embedded.IsPlain file) {link : Labelled L}
    (same : Labelled.text link = style.reference file) {t : Labelled L}
    (text : Labelled.text t = s) :
    script.block.parts (style.block.rewrite (fun _ => link) t) = script.block.parts t := by
  have substituted (t : Labelled L) :
      Rewriting (style.Replaces file) (Labelled.text t)
        (Labelled.text (style.block.rewrite (fun _ => link) t)) := by
    rw [Reader.text_rewrite style.block_faithful t fun _ _ _ _ => same]
    exact Embedded.rewriting_substitute style file _
  induction cut generalizing t with
  | done =>
    obtain rfl := List.map_eq_nil_iff.mp text
    simp
  | plain unread _ ih =>
    obtain ⟨x, rest, rfl, rfl, rfl⟩ := List.map_eq_cons_iff.mp text
    have still := Embedded.read_kept plain (substituted rest) (unread script)
    rw [Reader.rewrite_none _ (unread style), Reader.parts_none still,
      Reader.parts_none (unread script), ih rfl]
  | @found kind block s pieces isBlock passed _ ih =>
    obtain ⟨part, rest, rfl, same_part, rfl⟩ := List.map_eq_append_iff.mp text
    have read (behind : Labelled L) :
        kind.block.read (Labelled.text part ++ Labelled.text behind) =
          some (block, Labelled.text behind) :=
      Embedded.block_read_eq_some.mpr ⟨congrArg (· ++ Labelled.text behind) same_part, isBlock⟩
    rw [← same_part] at passed
    cases kind with
    | style =>
      rw [Reader.rewrite_some _ (read rest), Reader.parts_passes (passed script (by decide)),
        Reader.parts_passes (same ▸ Embedded.passes_link plain _), ih rfl]
    | script =>
      rw [Reader.rewrite_passes _ (passed style (by decide)), Reader.parts_some (read rest),
        Reader.parts_some (read _), ih rfl]

theorem scriptsAgree_of_separate (separate : Separate page) : ScriptsAgree page := by
  obtain ⟨pieces, cut⟩ := exists_cut separate.apart
  have same : script.block.parts (styled page) = script.block.parts (number page) :=
    cut.parts_rewrite (Embedded.isPlain_defaultName style.part)
      (Embedded.text_labelledReference style) rfl
  refine ⟨fun x _ _ => ?_, fun member => ?_, ?_⟩
  · rw [scriptsBehindLinks, same, Embedded.inside]
  · rw [scriptsBehindLinks, same] at member
    have some_mark : 0 < (script.inside page).count style.mark := List.count_pos_iff.mpr member
    have none_before := count_mark_number style page
    have inside := count_inside_le script page style.mark
    omega
  · rw [same, length_parts]

/-- The files of a split page hold every character once exactly if the two searches for
scripts agree; where no style overlaps a script they do. -/
theorem splitPage_delivers (markup : (Category.of page).isMarkup) :
    (Delivery.of page).text = splitPage page ∧
      (DeliversOnce page ↔ ScriptsAgree page) ∧ (Separate page → DeliversOnce page) :=
  ⟨Delivery.text_of markup, deliversOnce_iff page, fun separate =>
    (deliversOnce_iff page).mpr (scriptsAgree_of_separate separate)⟩

theorem splitPage_delivers_page :
    let page := "<p></p><style>a</style><script>b</script>".toList
    (Category.of page).isMarkup ∧ (Delivery.of page).text = splitPage page ∧ DeliversOnce page :=
  have markup : (Category.of "<p></p><style>a</style><script>b</script>".toList).isMarkup := by
    decide +kernel
  have separate : Separate "<p></p><style>a</style><script>b</script>".toList := by
    decide +kernel
  have delivers := splitPage_delivers markup
  ⟨markup, delivers.1, delivers.2.2 separate⟩

/-- A style in the text of a script is moved to the file for styles as well, and the link
to that file is dropped with the script. -/
theorem not_deliversOnce_style_in_script :
    let page := "<p></p><script>f('<style>b</style>')</script>".toList
    (Category.of page).isMarkup ∧
    splitPage page = ⟨"<p></p><script src=\"script.js\"></script>".toList, "b\n".toList,
      "f('<style>b</style>')\n".toList⟩ ∧
    ¬ DeliversOnce page := by
  refine ⟨by decide +kernel, by decide +kernel, fun delivers => ?_⟩
  have links := delivers.references style
  revert links
  decide +kernel

end Snippet
