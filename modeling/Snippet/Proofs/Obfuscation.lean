import Snippet.Obfuscation
import Snippet.Proofs.Comment
import Snippet.Proofs.Compression
import Snippet.Proofs.Quoted

/-! Passes one after the other.

What one pass establishes is kept by every pass that can run after it, whichever of
them do run.
-/

set_option autoImplicit false

namespace Snippet

open Declaration (Renames SettledFrom)
open Rewriting (Unmarked)

variable {s : Text}

/-! ## Marks of comments -/

theorem isMark_eq_false (class_ : Char → Bool) (slash : class_ '/' = false)
    (star : class_ '*' = false) {c : Char} (member : class_ c) : Comment.isMark c = false := by
  by_contra mark
  simp only [Comment.isMark, Bool.not_eq_false, Bool.or_eq_true, beq_iff_eq] at mark
  rcases mark with rfl | rfl
  · simp [slash] at member
  · simp [star] at member

theorem isMark_of_isWord {c : Char} : isWord c → Comment.isMark c = false :=
  isMark_eq_false isWord (by decide) (by decide)

theorem unmarked_gap (s : Text) :
    Rewriting (Unmarked Comment.isMark) s (Compression.gap.replace (fun _ => [' ']) s) :=
  .of_replace _ Compression.gap_faithful _ fun _ _ _ _ _ => ⟨by simp, by simp [Comment.isMark]⟩

theorem unmarked_aroundTight (s : Text) :
    Rewriting (Unmarked Comment.isMark) s (Compression.aroundTight.replace (fun c => [c]) s) := by
  refine .of_replace _ Compression.aroundTight_faithful _ fun old rest c _ found => ⟨by simp, ?_⟩
  obtain ⟨r, -, tight, -⟩ := Compression.aroundTight_read_eq_some.mp found
  simpa using isMark_eq_false Compression.isTight (by decide) (by decide) tight

theorem unmarked_terminators (s : Text) :
    Rewriting (Unmarked Comment.isMark) s (Compression.terminators.replace (fun _ => ['}']) s) :=
  .of_replace _ Compression.terminators_faithful _ fun _ _ _ _ _ =>
    ⟨by simp, by simp [Comment.isMark]⟩

theorem unmarked_renames {old new : Text} (renames : Renames old new) :
    Unmarked Comment.isMark old new := by
  obtain ⟨declaration, c, -, word, -, rfl⟩ := renames
  refine ⟨by simp, fun d member => ?_⟩
  simp only [List.mem_append, List.mem_cons, List.not_mem_nil, or_false] at member
  rcases member with letter | rfl | rfl
  · exact isMark_of_isWord (Keyword.isWord_of_mem _ letter)
  · decide
  · exact isMark_of_isWord word

theorem unmarked_encodeStrings (s : Text) :
    Rewriting (Unmarked Comment.isMark) s (encodeStrings s) := by
  refine .of_replace _ Quoted.literal_faithful _ fun old rest content _ _ => ?_
  refine ⟨by simp [Quoted.encode], fun c member => ?_⟩
  rcases Quoted.mem_encode member with coded | ⟨-, lineEnd⟩
  · exact Quoted.eq_false_of_mem_alphabet Comment.isMark (by decide) coded
  · exact isMark_eq_false isLineEnd (by decide) (by decide) lineEnd

namespace Comment

theorem Uncommented.compress (uncommented : Uncommented s) : Uncommented (compress s) :=
  (((uncommented.rewriting (unmarked_gap _)).rewriting (unmarked_aroundTight _)).rewriting
    (unmarked_terminators _)).within (Text.isInfix_trim _)

theorem Uncommented.renameVariables (uncommented : Uncommented s) :
    Uncommented (renameVariables s) :=
  uncommented.rewriting
    ((Declaration.rewriting_renameVariables s).mono fun _ _ => unmarked_renames)

theorem Uncommented.encodeStrings (uncommented : Uncommented s) : Uncommented (encodeStrings s) :=
  uncommented.rewriting (unmarked_encodeStrings s)

end Comment

/-! ## Blanks -/

namespace Compression

theorem retouches_renames {old new : Text} (renames : Renames old new) : Retouches old new := by
  obtain ⟨declaration, c, wellFormed, word, rfl, rfl⟩ := renames
  obtain ⟨first, second, others, letters⟩ := declaration.keyword.text_eq
  have plain {d : Char} (letter : isWord d) : isBlank d = false ∧ isTight d = false :=
    ⟨isBlank_of_isWord letter, isTight_of_isWord letter⟩
  have keyword : ∀ d ∈ declaration.keyword.text, isBlank d = false ∧ isTight d = false :=
    fun d member => plain (Keyword.isWord_of_mem _ member)
  -- All is visible and loose but the one space, which stands between letters.
  have space : Fits ' ' c := fits_before_plain (plain word).1 (plain word).2 ' '
  refine ⟨by simp [Declaration.text, letters], by simp [Declaration.text, letters], by simp,
    fun d member blank => ?_, ?_, by simpa using plain word⟩
  · simp only [List.mem_append, List.mem_cons, List.not_mem_nil, or_false] at member
    rcases member with letter | rfl | rfl
    · simp [(keyword d letter).1] at blank
    · rfl
    · simp [(plain word).1] at blank
  · refine List.isChain_append.mpr ⟨fits_of_all_plain keyword, by simp [space], ?_⟩
    intro d lastly e _
    have letter := keyword d (List.mem_of_getLast? lastly)
    exact fits_of_plain letter.1 letter.2 e

/-- In compressed text no line ends, so that codes are all that encoding writes. -/
theorem retouches_encode {old content rest : Text} (spaces : ∀ c ∈ old, isBlank c → c = ' ')
    (found : Quoted.literal.read (old ++ rest) = some (content, rest)) :
    Retouches old (Quoted.encode content) := by
  obtain rfl : old = '"' :: content ++ ['"'] :=
    List.append_cancel_right ((Quoted.literal_read_eq_some found).trans (by simp))
  have plain : ∀ c ∈ Quoted.encode content, isBlank c = false ∧ isTight c = false := by
    intro c member
    rcases Quoted.mem_encode member with coded | ⟨inside, lineEnd⟩
    · exact ⟨Quoted.eq_false_of_mem_alphabet isBlank (by decide) coded,
        Quoted.eq_false_of_mem_alphabet isTight (by decide) coded⟩
    · obtain rfl := spaces c (by simp [inside]) (isBlank_of_isLineEnd lineEnd)
      exact absurd lineEnd (by decide)
  exact ⟨rfl, by simp, by simp [Quoted.encode],
    fun c member blank => by simp [(plain c member).1] at blank, fits_of_all_plain plain,
    fun c lastly => plain c (List.mem_of_getLast? lastly)⟩

theorem IsCompressed.renameVariables (compressed : IsCompressed s) :
    IsCompressed (renameVariables s) :=
  compressed.rewriting
    ((Declaration.rewriting_renameVariables s).mono fun _ _ => retouches_renames)

theorem IsCompressed.encodeStrings (compressed : IsCompressed s) :
    IsCompressed (encodeStrings s) := by
  refine compressed.rewriting (.of_replace _ Quoted.literal_faithful _ ?_)
  intro old rest content tail found
  refine retouches_encode (fun c member => compressed.spaces c ?_) found
  exact tail.subset (List.mem_append_left rest member)

end Compression

/-! ## Runs of passes -/

namespace Pass

variable {category : Category} {holds : Text → Prop}

theorem run_keeps {passes : List Pass}
    (keeps : ∀ pass ∈ passes, ∀ s, holds s → holds (pass.apply category s)) (held : holds s) :
    holds (run category passes s) := by
  induction passes generalizing s with
  | nil => exact held
  | cons pass passes ih =>
    exact ih (fun later member => keeps later (by simp [member])) (keeps pass (by simp) s held)

/-- A chosen pass establishes what no pass behind it undoes. -/
theorem obfuscateAs_holds (holds : Text → Prop) {options : PassOptions} (before : List Pass)
    (pass : Pass) {behind : List Pass}
    (order : all = before ++ pass :: behind) (chosen : options.has pass)
    (gives : ∀ s, holds (pass.apply category s))
    (keeps : ∀ later ∈ behind, ∀ s, holds s → holds (later.apply category s)) (code : Text) :
    holds (obfuscateAs options category code) := by
  rw [obfuscateAs, PassOptions.passes, order, List.filter_append, List.filter_cons_of_pos chosen,
    run, List.foldl_append, List.foldl_cons]
  exact run_keeps (fun later member => keeps later (List.mem_of_mem_filter member)) (gives _)

end Pass

theorem obfuscateAs_compressed {options : PassOptions} (chosen : options.compressWhitespace)
    (category : Category) (code : Text) :
    Compression.IsCompressed (obfuscateAs options category code) := by
  refine Pass.obfuscateAs_holds _ [.removeComments] .compressWhitespace rfl chosen
    Compression.isCompressed_compress (fun later member s compressed => ?_) code
  simp only [List.mem_cons, List.not_mem_nil, or_false] at member
  rcases member with rfl | rfl
  · exact compressed.renameVariables
  · exact compressed.encodeStrings

theorem obfuscateAs_settled {options : PassOptions} (chosen : options.renameVariables)
    (category : Category) (code : Text) :
    SettledFrom none (obfuscateAs options category code) := by
  refine Pass.obfuscateAs_holds (SettledFrom none) [.removeComments, .compressWhitespace]
    .renameVariables rfl chosen Declaration.settledFrom_renameVariables
    (fun later member s settled => ?_) code
  obtain rfl := List.mem_singleton.mp member
  exact Quoted.settledFrom_encodeStrings settled

theorem obfuscateAs_uncommented {options : PassOptions} (chosen : options.removeComments)
    (code : Text) : Comment.Uncommented (obfuscateAs options .javascript code) := by
  refine Pass.obfuscateAs_holds _ [] .removeComments rfl chosen
    Comment.uncommented_removeComments (fun later member s uncommented => ?_) code
  simp only [List.mem_cons, List.not_mem_nil, or_false] at member
  rcases member with rfl | rfl | rfl
  · exact uncommented.compress
  · exact uncommented.renameVariables
  · exact uncommented.encodeStrings

/-- No pass undoes what an earlier one has done, whichever of them run. -/
theorem obfuscateAs_undoes_nothing (options : PassOptions) (category : Category) (code : Text) :
    (options.compressWhitespace →
      compress (obfuscateAs options category code) = obfuscateAs options category code) ∧
    (options.renameVariables →
      renameVariables (obfuscateAs options category code) = obfuscateAs options category code) ∧
    (options.removeComments → category = .javascript →
      Comment.Uncommented (obfuscateAs options category code)) := by
  refine ⟨fun chosen => ?_, fun chosen => ?_, ?_⟩
  · exact (obfuscateAs_compressed chosen category code).compress_eq_self
  · exact Declaration.renameVariables_eq_self (obfuscateAs_settled chosen category code)
  · rintro chosen rfl
    exact obfuscateAs_uncommented chosen code

theorem obfuscateAs_undoes_nothing_script :
    let out := obfuscateAs .all .javascript "let total = \"a b\"; // sum".toList
    compress out = out ∧ renameVariables out = out ∧ Comment.Uncommented out :=
  have kept := obfuscateAs_undoes_nothing .all .javascript "let total = \"a b\"; // sum".toList
  ⟨kept.1 rfl, kept.2.1 rfl, kept.2.2 rfl rfl⟩

end Snippet
