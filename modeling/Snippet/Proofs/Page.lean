import Snippet.Proofs.Detection
import Snippet.Proofs.Page.Reference

/-! Splitting a page that was split before.

What is left of a page holds no style, no script but references, and it is still
markup; so splitting it again leaves it as it is.
-/

set_option autoImplicit false

namespace Snippet

variable {α : Type} {s file : Text}

/-! ## Replacing by a fixed text -/

theorem Reader.replace_eq_self_or (reader : Reader α) (new s : Text) :
    reader.replace (fun _ => new) s = s ∨ new <:+: reader.replace (fun _ => new) s := by
  induction s using reader.scan_induction with
  | done => exact .inl (reader.replace_nil _)
  | keep c r kept ih =>
    rw [reader.replace_none _ kept]
    rcases ih with same | within
    · exact .inl (by rw [same])
    · exact .inr (within.trans (List.suffix_cons c _).isInfix)
  | take s a rest taken ih =>
    rw [reader.replace_some _ taken]
    exact .inr (List.prefix_append new _).isInfix

open Embedded (style script IsPlain scriptReference)

namespace Embedded

theorem substitute_eq_self {kind : Embedded} {inserted : Text}
    (same : ∀ block ∈ kind.block.findAll s, block.text = inserted) :
    kind.substitute inserted s = s := by
  rw [substitute]
  induction s using kind.block.scan_induction with
  | done => simp
  | keep c r kept ih =>
    rw [Reader.findAll_none _ kept] at same
    rw [Reader.replace_none _ _ kept, ih same]
  | take s block rest taken ih =>
    rw [Reader.findAll_some _ taken] at same
    obtain ⟨rfl, -⟩ := block_read_eq_some.mp taken
    rw [Reader.replace_some _ _ taken, ih fun other member => same other (by simp [member]),
      same block (by simp)]

/-! ## What is left to be found -/

theorem passes_substitute_style (plain : IsPlain file) (s : Text) :
    style.block.Passes [] (style.substitute (style.reference file) s) := by
  have rewriting := rewriting_substitute style file
  simp only [substitute] at rewriting ⊢
  induction s using style.block.scan_induction with
  | done => simp [Reader.Passes]
  | keep c r kept ih =>
    rw [Reader.replace_none _ _ kept]
    -- No style began here before the links stood behind it.
    refine ⟨?_, ih⟩
    rw [List.append_nil]
    exact read_kept plain (rewriting r) kept
  | take s block rest taken ih =>
    rw [Reader.replace_some _ _ taken]
    exact (passes_link plain _).append ih

theorem passes_substitute_script (plain : IsPlain file) (passes : style.block.Passes [] s) :
    style.block.Passes [] (script.substitute (script.reference file) s) := by
  have rewriting := rewriting_substitute script file
  simp only [substitute] at rewriting ⊢
  induction s using script.block.scan_induction with
  | done => simp [Reader.Passes]
  | keep c r kept ih =>
    rw [Reader.replace_none _ _ kept]
    -- At a kept place no style began, and none begins now.
    have unread := passes.1
    refine ⟨?_, ih passes.2⟩
    rw [List.append_nil] at unread ⊢
    exact read_kept plain (rewriting r) unread
  | take s block rest taken ih =>
    rw [Reader.replace_some _ _ taken]
    obtain ⟨rfl, -⟩ := block_read_eq_some.mp taken
    exact (passes_scriptReference plain _).append (ih passes.of_append)

theorem findAll_substitute_script (plain : IsPlain file) (s : Text) :
    script.block.findAll (script.substitute (script.reference file) s) =
      List.replicate (script.block.findAll s).length (scriptReference file) := by
  have rewriting := rewriting_substitute script file
  simp only [substitute] at rewriting ⊢
  induction s using script.block.scan_induction with
  | done => simp
  | keep c r kept ih =>
    rw [Reader.replace_none _ _ kept, Reader.findAll_none _ (read_kept plain (rewriting r) kept),
      Reader.findAll_none _ kept, ih]
  | take s block rest taken ih =>
    have found (behind : Text) : script.block.read (script.reference file ++ behind) =
        some (scriptReference file, behind) :=
      block_read_eq_some.mpr ⟨by rw [text_scriptReference], isBlock_scriptReference plain⟩
    rw [Reader.replace_some _ _ taken, Reader.findAll_some _ (found _),
      Reader.findAll_some _ taken, ih]
    rfl

/-! ## What the next split finds -/

theorem isMarkup_of_reference {kind : Embedded} (within : kind.reference file <:+: s) :
    (Category.of s).isMarkup := by
  obtain ⟨before, after, rfl⟩ := within
  cases kind with
  | style =>
    have whole : before ++ style.reference file ++ after = before ++ ('<' :: "link".toList ++
        (" rel=\"stylesheet\" href=\"".toList ++ file ++ "\">".toList ++ after)) := by
      unfold reference
      simp
    rw [whole]
    exact isMarkup_of_tag (by decide) rfl (by simp [Text.EndsVisible, isBlank]) rfl
  | script =>
    have whole : before ++ script.reference file ++ after = before ++ ('<' :: "script".toList ++
        (" src=\"".toList ++ file ++ "\"></script>".toList ++ after)) := by
      unfold reference
      simp
    rw [whole]
    exact isMarkup_of_tag (by decide) rfl (by simp [Text.EndsVisible, isBlank]) rfl

theorem isMarkup_substitute {kind : Embedded} (markup : (Category.of s).isMarkup) :
    (Category.of (kind.substitute kind.defaultReference s)).isMarkup := by
  rcases kind.block.replace_eq_self_or kind.defaultReference s with same | within
  · rwa [substitute, same]
  · exact isMarkup_of_reference within

theorem extract_of_references
    (same : ∀ block ∈ script.block.findAll s, block.text = script.defaultReference) :
    script.extract s = List.replicate (script.block.findAll s).length '\n' := by
  have line : script.tag.erase script.defaultReference = [] := by decide +kernel
  rw [extract]
  generalize script.block.findAll s = blocks at same
  induction blocks with
  | nil => rfl
  | cons block blocks ih =>
    rw [List.flatMap_cons, ih fun other member => same other (by simp [member]), extracted,
      same block (by simp), line]
    rfl

end Embedded

/-- Where references are all there is to find, the page stays as it is. -/
theorem splitPage_of_linked (markup : (Category.of s).isMarkup)
    (styles : style.block.findAll s = [])
    (scripts : ∀ block ∈ script.block.findAll s, block.text = script.defaultReference) :
    splitPage s =
      { html := s, css := [], js := List.replicate (script.block.findAll s).length '\n' } := by
  have unstyled : style.substitute style.defaultReference s = s := by
    refine Embedded.substitute_eq_self ?_
    rw [styles]
    simp
  have css : style.extract s = [] := by
    rw [Embedded.extract, styles]
    rfl
  rw [splitPage, if_pos markup, unstyled, css, Embedded.substitute_eq_self scripts,
    Embedded.extract_of_references scripts]

theorem splitPage_of_other (other : ¬ (Category.of s).isMarkup) : splitPage s = .empty :=
  if_neg other

theorem isMarkup_splitPage {page : Text} (markup : (Category.of page).isMarkup) :
    (Category.of (splitPage page).html).isMarkup := by
  rw [splitPage, if_pos markup]
  exact Embedded.isMarkup_substitute (Embedded.isMarkup_substitute markup)

theorem html_ne_nil {page : Text} (markup : (Category.of page).isMarkup) :
    (splitPage page).html ≠ [] := by
  intro none
  have still := isMarkup_splitPage markup
  rw [none] at still
  exact absurd still (by decide)

theorem isEmpty_splitPage {page : Text} (markup : (Category.of page).isMarkup) :
    (splitPage page).isEmpty = false := by
  simp [SplitPage.isEmpty, html_ne_nil markup]

theorem passes_splitPage (page : Text) : style.block.Passes [] (splitPage page).html := by
  have plain := Embedded.isPlain_defaultName
  rw [splitPage]
  split
  · exact Embedded.passes_substitute_script (plain .js)
      (Embedded.passes_substitute_style (plain .css) page)
  · trivial

theorem scripts_splitPage (page : Text) :
    ∀ block ∈ script.block.findAll (splitPage page).html, block.text = script.defaultReference := by
  rw [splitPage]
  split
  · intro block member
    have found := Embedded.findAll_substitute_script (Embedded.isPlain_defaultName .js)
      (style.substitute style.defaultReference page)
    obtain ⟨-, rfl⟩ := List.mem_replicate.mp (found ▸ member)
    exact Embedded.text_scriptReference _
  · simp [SplitPage.empty]

/-- A split page is empty only where nothing was split; its text holds no style, no
script but references, it is markup, and splitting it again leaves it as it is. -/
theorem splitPage_splitPage (page : Text) :
    ((splitPage page).isEmpty ↔ ¬ (Category.of page).isMarkup) ∧
    style.block.findAll (splitPage page).html = [] ∧
    (∀ block ∈ script.block.findAll (splitPage page).html,
      block.text = script.defaultReference) ∧
    (¬ (splitPage page).isEmpty → (Category.of (splitPage page).html).isMarkup) ∧
    splitPage (splitPage page).html =
      { html := (splitPage page).html
        css := []
        js := List.replicate (script.block.findAll (splitPage page).html).length '\n' } := by
  have styles : style.block.findAll (splitPage page).html = [] := by
    simpa using Reader.findAll_passes (passes_splitPage page)
  have scripts := scripts_splitPage page
  refine ⟨?_, styles, scripts, fun some_file => ?_, ?_⟩
  · constructor
    · intro empty markup
      simp only [SplitPage.isEmpty, Bool.and_eq_true, List.isEmpty_iff] at empty
      exact html_ne_nil markup empty.1.1
    · intro other
      rw [splitPage_of_other other]
      rfl
  · by_cases markup : (Category.of page).isMarkup
    · exact isMarkup_splitPage markup
    · rw [splitPage_of_other markup] at some_file
      exact absurd rfl some_file
  · by_cases markup : (Category.of page).isMarkup
    · exact splitPage_of_linked (isMarkup_splitPage markup) styles scripts
    · rw [splitPage_of_other markup]
      have blank : splitPage [] = .empty := splitPage_of_other (by decide)
      simp [SplitPage.empty, blank]

theorem splitPage_splitPage_page :
    let split := splitPage "<p></p><script>a</script>".toList
    ¬ split.isEmpty ∧ (Category.of split.html).isMarkup :=
  have some_file : ¬ (splitPage "<p></p><script>a</script>".toList).isEmpty := by decide +kernel
  ⟨some_file, (splitPage_splitPage _).2.2.2.1 some_file⟩

end Snippet
