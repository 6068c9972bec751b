import Snippet.Proofs.Page.Delivery

/-! Which files a split page has.

A reference is inserted for a block, but a file is made only of content that is not
blank. So a page can refer to a file that is not there, and it does so exactly if its
blocks hold nothing but blanks outside their tags.
-/

set_option autoImplicit false

namespace Snippet

open Embedded (style script IsPlain)

variable {α : Type} {page file s : Text} {kind : Embedded}

namespace Embedded

def IsInserted (kind : Embedded) (page : Text) : Prop :=
  (Category.of page).isMarkup ∧ kind.mark ∈ (Delivery.of page).html

instance (kind : Embedded) (page : Text) : Decidable (kind.IsInserted page) :=
  inferInstanceAs (Decidable (_ ∧ _))

/-- Some block holds more than blanks outside its tags. -/
def HasContent (kind : Embedded) (page : Text) : Prop :=
  ∃ block ∈ kind.block.findAll page, ¬ Text.allBlank (kind.tag.erase block.text)

end Embedded

/-! ## References come from blocks -/

theorem Reader.passes_of_findAll {reader : Reader α} (nothing : reader.findAll s = []) :
    reader.Passes [] s := by
  induction s with
  | nil => trivial
  | cons c r ih =>
    cases found : reader.read (c :: r) with
    | some part => simp [reader.findAll_some found] at nothing
    | none =>
      rw [reader.findAll_none found] at nothing
      exact ⟨by simpa using found, ih nothing⟩

theorem Embedded.passes_substitute_link (plain : IsPlain file) (passes : script.block.Passes [] s) :
    script.block.Passes [] (style.substitute (style.reference file) s) := by
  have rewriting := Embedded.rewriting_substitute style file
  simp only [Embedded.substitute] at rewriting ⊢
  induction s using style.block.scan_induction with
  | done => simp [Reader.Passes]
  | keep c r kept ih =>
    rw [Reader.replace_none _ _ kept]
    have unread := passes.1
    refine ⟨?_, ih passes.2⟩
    rw [List.append_nil] at unread ⊢
    exact Embedded.read_kept plain (rewriting r) unread
  | take s block rest taken ih =>
    rw [Reader.replace_some _ _ taken]
    obtain ⟨rfl, -⟩ := Embedded.block_read_eq_some.mp taken
    exact (Embedded.passes_link plain _).append (ih passes.of_append)

theorem findAll_ne_nil_of_isInserted (inserted : kind.IsInserted page) :
    kind.block.findAll page ≠ [] := by
  have member := List.count_pos_iff.mpr inserted.2
  intro nothing
  cases kind with
  | style =>
    have links := count_links page
    rw [nothing, List.length_nil] at links
    omega
  | script =>
    -- The references count the scripts among the links, and there are none.
    have passes := Embedded.passes_substitute_link (Embedded.isPlain_defaultName style.part)
      (Reader.passes_of_findAll nothing)
    have scripts := congrArg List.length (script.text_parts (styled page))
    rw [List.length_map, List.length_map, text_styled, ← count_scriptReferences] at scripts
    have none_left := Reader.findAll_passes passes
    rw [List.append_nil, Reader.findAll_nil] at none_left
    rw [Embedded.defaultReference, none_left, List.length_nil] at scripts
    omega

/-! ## Files come from content -/

theorem allBlank_extract : Text.allBlank (kind.extract page) ↔ ¬ kind.HasContent page := by
  simp only [Embedded.extract, Embedded.HasContent, not_exists, not_and, not_not]
  rw [Text.allBlank, List.all_flatMap, List.all_eq_true]
  refine forall₂_congr fun block _ => ?_
  simp [Embedded.extracted, Text.allBlank, isBlank]

theorem SplitPage.mem_files_iff {split : SplitPage} {part : Part} {text : Text} :
    (part, text) ∈ split.files ↔
      ¬ Text.allBlank (split.content part) ∧ text = split.content part := by
  have all : part ∈ Part.all := by cases part <;> decide
  simp only [files, List.mem_filter, List.mem_map, Bool.not_eq_true']
  constructor
  · rintro ⟨⟨own, -, same⟩, visible⟩
    obtain ⟨rfl, rfl⟩ := Prod.mk.inj same
    exact ⟨by simp [visible], rfl⟩
  · rintro ⟨visible, rfl⟩
    exact ⟨⟨part, all, rfl⟩, by simpa using visible⟩

theorem SplitPage.mem_files {split : SplitPage} {part : Part} :
    part ∈ split.files.map Prod.fst ↔ ¬ Text.allBlank (split.content part) := by
  simp [mem_files_iff]

theorem content_splitPage (markup : (Category.of page).isMarkup) (kind : Embedded) :
    (splitPage page).content kind.part = kind.extract page := by
  rw [splitPage, if_pos markup]
  cases kind <;> rfl

/-- A page with a reference had a block for it, and it has the file exactly if some block
had content; other names for the files change nothing of that. -/
theorem mem_files_of_isInserted (inserted : kind.IsInserted page) :
    (Delivery.of page).text = splitPage page ∧
      kind.block.findAll page ≠ [] ∧
      (kind.part ∈ (splitPage page).files.map Prod.fst ↔ kind.HasContent page) ∧
      ∀ cssFile jsFile, kind.part ∈ ((splitPage page).relink cssFile jsFile).files.map Prod.fst ↔
        kind.HasContent page := by
  have content := content_splitPage inserted.1 kind
  refine ⟨Delivery.text_of inserted.1, findAll_ne_nil_of_isInserted inserted, ?_,
    fun cssFile jsFile => ?_⟩
  · rw [SplitPage.mem_files, content, allBlank_extract, not_not]
  · have same : ((splitPage page).relink cssFile jsFile).content kind.part =
        (splitPage page).content kind.part := by cases kind <;> rfl
    rw [SplitPage.mem_files, same, content, allBlank_extract, not_not]

theorem mem_files_of_isInserted_page :
    let page := "<p></p><style>a</style><style> </style>".toList
    style.IsInserted page ∧ (Part.css ∈ (splitPage page).files.map Prod.fst ↔
      style.HasContent page) :=
  have inserted : style.IsInserted "<p></p><style>a</style><style> </style>".toList := by
    decide +kernel
  ⟨inserted, (mem_files_of_isInserted inserted).2.2.1⟩

theorem dangling_script_reference :
    let page := "<div></div><script src=\"app.js\"></script>".toList
    script.IsInserted page ∧ Part.js ∉ (splitPage page).files.map Prod.fst := by
  decide +kernel

end Snippet
