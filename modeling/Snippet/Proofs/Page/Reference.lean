import Snippet.Page
import Snippet.Proofs.Page.Blocks
import Snippet.Proofs.Page.Trace

/-! References in place of blocks.

A reference puts a tag next to text that it has nothing to do with. Still no block
begins that did not begin before: a name has no angle in it, so it was not put
together from pieces, and what the tag needs behind it the replaced block had too.
-/

set_option autoImplicit false

namespace Snippet.Embedded

variable {kind other : Embedded} {file s t front : Text} {block : Block} {c : Char}

/-- The name of a file that holds no part of a tag. -/
def IsPlain (file : Text) : Prop := '<' ∉ file ∧ '>' ∉ file

theorem isPlain_defaultName (part : Part) : IsPlain part.defaultName := by
  cases part <;> exact ⟨by decide, by decide⟩

/-- The reference to a script is itself a block, with nothing in it. -/
def scriptReference (file : Text) : Block where
  opening := "<script src=\"".toList ++ file ++ "\">".toList
  body := []
  closing := "</script>".toList

theorem text_scriptReference (file : Text) :
    (scriptReference file).text = script.reference file := by
  unfold Block.text scriptReference reference
  simp

theorem isBlock_scriptReference (plain : IsPlain file) :
    script.IsBlock (scriptReference file) := by
  have isName : script.IsName "script".toList :=
    (by decide : Text.lower "script".toList = script.tagName)
  refine ⟨⟨"script".toList, " src=\"".toList ++ file ++ ['"'], ?_, isName, by simp [plain.2]⟩,
    ⟨"script".toList, ?_, isName⟩, ?_⟩
  · unfold scriptReference
    simp
  · exact (by decide : "</script>".toList = '<' :: '/' :: ("script".toList ++ ['>']))
  · rintro ⟨tag, ⟨name, rfl, -⟩, within⟩
    cases List.infix_nil.mp within

theorem link_eq (plain : IsPlain file) :
    ∃ inner, style.reference file = '<' :: 'l' :: inner ∧ '<' ∉ inner := by
  refine ⟨"ink rel=\"stylesheet\" href=\"".toList ++ file ++ "\">".toList, ?_, by simp [plain.1]⟩
  unfold reference
  simp

theorem scriptReference_eq (plain : IsPlain file) : ∃ inner, script.reference file =
    '<' :: 's' :: 'c' :: (inner ++ ['<', '/', 's', 'c', 'r', 'i', 'p', 't', '>']) ∧
      '<' ∉ inner := by
  refine ⟨"ript src=\"".toList ++ file ++ "\">".toList, ?_, by simp [plain.1]⟩
  unfold reference
  simp

/-! ## Tags around a reference -/

theorem Closes.of_tag (closes : kind.Closes ('<' :: c :: s)) (letter : c ≠ '/') :
    kind.Closes (c :: s) := by
  obtain ⟨tag, closing, within⟩ := closes
  rcases List.infix_cons_iff.mp within with ⟨_, whole⟩ | within
  · obtain ⟨_, rfl, -⟩ := closing
    simp only [List.cons_append, List.cons.injEq] at whole
    exact absurd whole.2.1.symm letter
  · exact ⟨tag, closing, within⟩

theorem Closes.of_scriptEnd
    (closes : kind.Closes ('<' :: '/' :: (['s', 'c', 'r', 'i', 'p', 't', '>'] ++ s))) :
    kind = script ∨ kind.Closes s := by
  obtain ⟨tag, closing, within⟩ := closes
  rcases List.infix_cons_iff.mp within with ⟨rest, whole⟩ | within
  · obtain ⟨name, rfl, isName⟩ := closing
    have same : name ++ '>' :: rest = ['s', 'c', 'r', 'i', 'p', 't', '>'] ++ s := by
      simpa using whole
    have front := isName.take_append ('>' :: rest)
    rw [same] at front
    cases kind with
    | style => simp [IsName, tagName, Text.lower] at front
    | script => exact .inl rfl
  · have behind : kind.Closes (['/', 's', 'c', 'r', 'i', 'p', 't', '>'] ++ s) :=
      ⟨tag, closing, within⟩
    exact .inr (behind.of_append (by decide))

theorem Closes.of_reference (plain : IsPlain file)
    (closes : other.Closes (kind.reference file ++ s)) : other = kind ∨ other.Closes s := by
  cases kind with
  | style =>
    obtain ⟨inner, whole, noAngle⟩ := link_eq plain
    rw [whole] at closes
    have behind : other.Closes (('l' :: inner) ++ s) := closes.of_tag (by decide)
    exact .inr (behind.of_append (by simp [noAngle]))
  | script =>
    obtain ⟨inner, whole, noAngle⟩ := scriptReference_eq plain
    rw [whole] at closes
    have ends : other.Closes
        (inner ++ ('<' :: '/' :: (['s', 'c', 'r', 'i', 'p', 't', '>'] ++ s))) := by
      have behind := (closes.of_tag (by decide)).of_cons (by decide) |>.of_cons (by decide)
      simpa using behind
    exact (ends.of_append noAngle).of_scriptEnd

theorem Begins.isName (begins : kind.Begins ('<' :: s)) :
    kind.IsName (s.take kind.tagName.length) := by
  obtain ⟨name, rest, same, isName, -⟩ := begins
  obtain rfl := (List.cons.inj same).2
  exact isName.take_append rest

theorem passes_of_no_angle (plain : '<' ∉ front) (s : Text) : kind.block.Passes s front := by
  induction front with
  | nil => trivial
  | cons c front ih =>
    simp only [List.mem_cons, not_or] at plain
    refine ⟨block_read_eq_none.mpr ?_, ih plain.2⟩
    rintro ⟨name, rest, same, -⟩
    exact plain.1 (List.cons.inj same).1.symm

theorem passes_link (plain : IsPlain file) (s : Text) :
    kind.block.Passes s (style.reference file) := by
  obtain ⟨inner, whole, noAngle⟩ := link_eq plain
  rw [whole]
  refine ⟨block_read_eq_none.mpr fun begins => ?_, passes_of_no_angle (by simp [noAngle]) s⟩
  have isName := begins.isName
  cases kind <;> simp [IsName, tagName, Text.lower] at isName

theorem passes_scriptReference (plain : IsPlain file) (s : Text) :
    style.block.Passes s (script.reference file) := by
  obtain ⟨inner, whole, noAngle⟩ := scriptReference_eq plain
  rw [whole]
  have ends : style.block.Passes s ['<', '/', 's', 'c', 'r', 'i', 'p', 't', '>'] := by
    refine ⟨block_read_eq_none.mpr fun begins => ?_, passes_of_no_angle (by decide) s⟩
    have isName := begins.isName
    simp [IsName, tagName, Text.lower] at isName
  have opens (behind : Text) : style.block.Passes behind ('s' :: 'c' :: inner) :=
    passes_of_no_angle (by simp [noAngle]) behind
  refine ⟨block_read_eq_none.mpr fun begins => ?_, (opens _).append ends⟩
  have isName := begins.isName
  simp [IsName, tagName, Text.lower] at isName

/-! ## What a substitution keeps -/

def Replaces (kind : Embedded) (file old new : Text) : Prop :=
  (∃ block, kind.IsBlock block ∧ old = block.text) ∧ new = kind.reference file

theorem rewriting_substitute (kind : Embedded) (file s : Text) :
    Rewriting (kind.Replaces file) s (kind.substitute (kind.reference file) s) := by
  refine .of_replace _ kind.block_faithful _ fun old rest block _ found => ?_
  obtain ⟨same, isBlock⟩ := block_read_eq_some.mp found
  exact ⟨⟨block, isBlock, List.append_cancel_right same⟩, rfl⟩

theorem front_kept {old new : Text} (rewriting : Rewriting (kind.Replaces file) old new)
    (same : new = front ++ t) (plain : '<' ∉ front) :
    ∃ s, old = front ++ s ∧ Rewriting (kind.Replaces file) s t := by
  induction front generalizing old new with
  | nil =>
    obtain rfl : new = t := same
    exact ⟨old, rfl, rewriting⟩
  | cons c front ih =>
    simp only [List.mem_cons, not_or] at plain
    cases rewriting with
    | done => simp at same
    | keep d inner =>
      obtain ⟨rfl, behind⟩ := List.cons.inj same
      obtain ⟨s, rfl, further⟩ := ih inner behind plain.2
      exact ⟨s, rfl, further⟩
    | write written inner =>
      obtain ⟨-, rfl⟩ := written
      cases kind <;> exact absurd (List.cons.inj same).1 plain.1

section
variable (plain : IsPlain file) (rewriting : Rewriting (kind.Replaces file) s t)
include plain rewriting

theorem Closes.of_rewriting (closes : other.Closes t) : other.Closes s := by
  induction rewriting with
  | done => exact closes
  | @keep s t c inner ih =>
    obtain ⟨tag, closing, within⟩ := closes
    rcases List.infix_cons_iff.mp within with ⟨rest, whole⟩ | within
    · -- Behind its angle the tag holds no other, so all of it was kept.
      obtain ⟨name, rfl, isName⟩ := closing
      obtain ⟨rfl, same⟩ := List.cons.inj whole
      obtain ⟨behind, rfl, -⟩ := front_kept inner same.symm (by simp [isName.angle.1])
      exact ⟨_, ⟨name, rfl, isName⟩, [], behind, rfl⟩
    · exact (ih ⟨tag, closing, within⟩).within (List.suffix_cons c s).isInfix
  | write written inner ih =>
    -- A reference that closes its own kind replaces a block, which closes it too.
    obtain ⟨⟨block, isBlock, rfl⟩, rfl⟩ := written
    rcases closes.of_reference plain with rfl | behind
    · exact (isBlock.closes.append_left _).append_right _
    · exact (ih behind).append_left _

theorem Ends.of_rewriting (ends : other.Ends t) : other.Ends s := by
  induction rewriting with
  | done => exact ends
  | @keep s t c inner ih =>
    obtain ⟨front, behind, same, closes⟩ := ends
    cases front with
    | nil =>
      obtain ⟨rfl, rfl⟩ := List.cons.inj same
      exact ⟨[], s, rfl, closes.of_rewriting plain inner⟩
    | cons d front =>
      obtain ⟨rfl, rfl⟩ := List.cons.inj same
      obtain ⟨front, behind, rfl, closes⟩ := ih ⟨front, behind, rfl, closes⟩
      exact ⟨c :: front, behind, rfl, closes⟩
  | write written inner ih =>
    obtain ⟨⟨block, isBlock, rfl⟩, rfl⟩ := written
    obtain ⟨front, behind, same, closes⟩ := ends
    -- Wherever the tag ends, the block has an end of a tag before all that closes in it.
    have within := closes.within (t := kind.reference file ++ _)
      (same ▸ ((List.suffix_cons '>' behind).trans (List.suffix_append front _)).isInfix)
    refine isBlock.ends ?_
    rcases within.of_reference plain with rfl | further
    · exact isBlock.closes.append_right _
    · exact (further.of_rewriting plain inner).append_left _

/-- At a place that is kept no block begins that did not begin there before. -/
theorem Begins.of_rewriting (begins : other.Begins (c :: t)) : other.Begins (c :: s) := by
  obtain ⟨name, rest, whole, isName, ends⟩ := begins
  obtain ⟨rfl, same⟩ := List.cons.inj whole
  obtain ⟨behind, rfl, further⟩ := front_kept rewriting same isName.angle.1
  exact ⟨name, behind, rfl, isName, ends.of_rewriting plain further⟩

theorem read_kept (unread : other.block.read (c :: s) = none) :
    other.block.read (c :: t) = none :=
  block_read_eq_none.mpr fun begins =>
    block_read_eq_none.mp unread (begins.of_rewriting plain rewriting)

end

end Snippet.Embedded
