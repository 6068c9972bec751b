import Mathlib.Data.List.Infix
import Snippet.Page.Embedded
import Snippet.Proofs.Rewriting
import Snippet.Proofs.Scanning

/-! What the readers of embedded elements accept.

A tag and a block are described by the texts they are made of, without regard to
what follows them. So a block that was read is read again wherever its text stands,
and whether a block begins at a place is a question of an opening tag and of some
closing tag behind it.
-/

set_option autoImplicit false

namespace Snippet

variable {s rest : Text}

namespace Embedded

variable {kind : Embedded} {tag : Text} {block : Block}

def IsName (kind : Embedded) (name : Text) : Prop := name.lower = kind.tagName

def IsOpening (kind : Embedded) (tag : Text) : Prop :=
  ∃ name attributes, tag = '<' :: (name ++ attributes ++ ['>']) ∧ kind.IsName name ∧
    '>' ∉ attributes

def IsClosing (kind : Embedded) (tag : Text) : Prop :=
  ∃ name, tag = '<' :: '/' :: (name ++ ['>']) ∧ kind.IsName name

def Closes (kind : Embedded) (s : Text) : Prop := ∃ tag, kind.IsClosing tag ∧ tag <:+: s

/-- A tag ends, and a closing tag stands somewhere behind it. -/
def Ends (kind : Embedded) (s : Text) : Prop :=
  ∃ front inner, s = front ++ '>' :: inner ∧ kind.Closes inner

def Begins (kind : Embedded) (s : Text) : Prop :=
  ∃ name rest, s = '<' :: (name ++ rest) ∧ kind.IsName name ∧ kind.Ends rest

/-- Tags with a body between them in which nothing closes. -/
structure IsBlock (kind : Embedded) (block : Block) : Prop where
  opening : kind.IsOpening block.opening
  closing : kind.IsClosing block.closing
  inner : ¬ kind.Closes block.body

/-! ## Names and tags -/

theorem IsName.angle {name : Text} (isName : kind.IsName name) : '<' ∉ name ∧ '>' ∉ name := by
  have letters : '<' ∉ kind.tagName ∧ '>' ∉ kind.tagName := by cases kind <;> decide
  constructor
  · exact fun member => letters.1 (isName ▸ List.mem_map.mpr ⟨'<', member, rfl⟩)
  · exact fun member => letters.2 (isName ▸ List.mem_map.mpr ⟨'>', member, rfl⟩)

theorem IsName.length_eq {name : Text} (isName : kind.IsName name) :
    name.length = kind.tagName.length := by
  rw [← isName, Text.lower, List.length_map]

theorem IsName.take_append {name : Text} (isName : kind.IsName name) (s : Text) :
    kind.IsName ((name ++ s).take kind.tagName.length) := by
  rwa [← isName.length_eq, List.take_left]

theorem opening?_eq_some :
    kind.opening? s = some (tag, rest) ↔ s = tag ++ rest ∧ kind.IsOpening tag := by
  constructor
  · intro found
    refine ⟨eq_append_of_opening? found, ?_⟩
    unfold opening? at found
    split at found
    · next r =>
      split at found
      · simp at found
      · next behind named =>
        obtain ⟨name, rfl, isName⟩ := Text.afterName?_eq_some.mp named
        split at found
        · cases found
          refine ⟨name, behind.takeWhile (· != '>'), by simp [← IsName.length_eq isName], isName,
            fun member => ?_⟩
          simpa using List.all_eq_true.mp List.all_takeWhile _ member
        · simp at found
    · simp at found
  · rintro ⟨rfl, name, attributes, rfl, isName, plain⟩
    have named : Text.afterName? kind.tagName (name ++ (attributes ++ '>' :: rest)) =
        some (attributes ++ '>' :: rest) := Text.afterName?_eq_some.mpr ⟨name, rfl, isName⟩
    have inTag : ∀ c ∈ attributes, (c != '>') = true := by
      intro c member
      simpa using fun same : c = '>' => plain (same ▸ member)
    simp only [List.cons_append, List.append_assoc, List.nil_append, opening?, named,
      List.dropWhile_append_of_pos inTag, List.takeWhile_append_of_pos inTag]
    simp [← IsName.length_eq isName]

theorem closing?_eq_some :
    kind.closing? s = some (tag, rest) ↔ s = tag ++ rest ∧ kind.IsClosing tag := by
  constructor
  · intro found
    refine ⟨eq_append_of_closing? found, ?_⟩
    unfold closing? at found
    split at found
    · next r =>
      split at found
      · next behind named =>
        obtain ⟨name, rfl, isName⟩ := Text.afterName?_eq_some.mp named
        cases found
        exact ⟨name, by simp [← IsName.length_eq isName], isName⟩
      · simp at found
    · simp at found
  · rintro ⟨rfl, name, rfl, isName⟩
    have named : Text.afterName? kind.tagName (name ++ '>' :: rest) = some ('>' :: rest) :=
      Text.afterName?_eq_some.mpr ⟨name, rfl, isName⟩
    simp only [List.cons_append, List.append_assoc, List.nil_append, closing?, named]
    simp [← IsName.length_eq isName]

theorem tag_read_eq_some : kind.tag.read s = some (tag, rest) ↔
    s = tag ++ rest ∧ (kind.IsOpening tag ∨ kind.IsClosing tag) := by
  -- No text is both: a name does not begin with a slash.
  have exclusive (closing : kind.closing? s = some (tag, rest)) : kind.opening? s = none := by
    obtain ⟨rfl, name, rfl, -⟩ := closing?_eq_some.mp closing
    cases kind <;> simp [opening?, tagName, Text.afterName?]
  simp only [Embedded.tag, Option.or_eq_some_iff, opening?_eq_some, closing?_eq_some]
  constructor
  · rintro (⟨same, opening⟩ | ⟨-, same, closing⟩)
    · exact ⟨same, .inl opening⟩
    · exact ⟨same, .inr closing⟩
  · rintro ⟨same, opening | closing⟩
    · exact .inl ⟨same, opening⟩
    · exact .inr ⟨exclusive (closing?_eq_some.mpr ⟨same, closing⟩), same, closing⟩

theorem tag_faithful (kind : Embedded) : kind.tag.Faithful := by
  intro s rest tag found
  exact ⟨tag, (tag_read_eq_some.mp found).1.symm⟩

/-! ## Closing tags behind a place -/

variable {c : Char} {front t : Text}

theorem Closes.within (closes : kind.Closes s) (inside : s <:+: t) : kind.Closes t := by
  obtain ⟨tag, closing, within⟩ := closes
  exact ⟨tag, closing, within.trans inside⟩

theorem Closes.append_left (closes : kind.Closes s) (front : Text) : kind.Closes (front ++ s) :=
  closes.within (List.suffix_append front s).isInfix

theorem Closes.append_right (closes : kind.Closes s) (back : Text) : kind.Closes (s ++ back) :=
  closes.within (List.prefix_append s back).isInfix

theorem Closes.of_cons (closes : kind.Closes (c :: s)) (plain : c ≠ '<') : kind.Closes s := by
  obtain ⟨tag, closing, within⟩ := closes
  rcases List.infix_cons_iff.mp within with ⟨_, whole⟩ | within
  · obtain ⟨name, rfl, -⟩ := closing
    exact absurd (List.cons.inj whole).1.symm plain
  · exact ⟨tag, closing, within⟩

theorem Closes.of_append (closes : kind.Closes (front ++ s)) (plain : '<' ∉ front) :
    kind.Closes s := by
  induction front with
  | nil => exact closes
  | cons c front ih =>
    simp only [List.mem_cons, not_or] at plain
    exact ih (closes.of_cons (Ne.symm plain.1)) plain.2

/-- The first place where the tag can end will do. -/
theorem Ends.at_first (ends : kind.Ends s) :
    ∃ attributes inner, s = attributes ++ '>' :: inner ∧ '>' ∉ attributes ∧ kind.Closes inner := by
  obtain ⟨front, inner, rfl, closes⟩ := ends
  induction front with
  | nil => exact ⟨[], inner, rfl, by simp, closes⟩
  | cons c front ih =>
    by_cases angle : c = '>'
    · subst angle
      exact ⟨[], front ++ '>' :: inner, rfl, by simp,
        closes.within ((List.suffix_cons '>' inner).trans (List.suffix_append front _)).isInfix⟩
    · obtain ⟨attributes, behind, same, plain, closes⟩ := ih
      exact ⟨c :: attributes, behind, by simp [same], by simp [plain, Ne.symm angle], closes⟩

theorem IsClosing.prefix_of_angle (closing : kind.IsClosing tag) (some_front : front ≠ [])
    (within : tag <+: front ++ '<' :: s) : tag <+: front := by
  rcases List.prefix_or_prefix_of_prefix within (List.prefix_append front _) with done | ⟨tail, rfl⟩
  · exact done
  · cases tail with
    | nil => simp
    | cons d tail =>
      obtain rfl : d = '<' := by
        rw [List.prefix_append_right_inj] at within
        exact (List.cons_prefix_cons.mp within).1
      obtain ⟨name, spelled, isName⟩ := closing
      cases front with
      | nil => exact absurd rfl some_front
      | cons e front =>
        have member : '<' ∈ '/' :: (name ++ ['>']) := by
          rw [← (List.cons.inj spelled).2]
          simp
        simp [isName.angle.1] at member

/-! ## Blocks -/

theorem IsBlock.closes (isBlock : kind.IsBlock block) : kind.Closes block.closing :=
  ⟨block.closing, isBlock.closing, List.infix_rfl⟩

theorem IsBlock.ends {other : Embedded} (isBlock : kind.IsBlock block)
    (closes : other.Closes (block.closing ++ rest)) : other.Ends (block.text ++ rest) := by
  obtain ⟨name, attributes, opening, -⟩ := isBlock.opening
  exact ⟨'<' :: (name ++ attributes), block.body ++ (block.closing ++ rest),
    by simp [Block.text, opening], closes.append_left block.body⟩

theorem take_closing (body closing rest : Text) :
    ((body ++ (closing ++ rest)).drop body.length).take
      ((body ++ (closing ++ rest)).length - body.length - rest.length) = closing := by
  have size : (body ++ (closing ++ rest)).length - body.length - rest.length = closing.length := by
    simp only [List.length_append]
    omega
  rw [List.drop_left, size, List.take_left]

theorem cutAt?_closing_eq_some {body : Text} :
    Text.cutAt? (fun t => (kind.closing? t).map (·.2)) s = some (body, rest) ↔
      ∃ closing, s = body ++ (closing ++ rest) ∧ kind.IsClosing closing ∧ ¬ kind.Closes body := by
  have skips (t : Text) : (kind.closing? t).map (·.2) = some rest ↔
      ∃ tag, t = tag ++ rest ∧ kind.IsClosing tag := by
    simp [closing?_eq_some]
  rw [Text.cutAt?_eq_some]
  constructor
  · rintro ⟨t, rfl, reached, earliest⟩
    obtain ⟨closing, rfl, isClosing⟩ := (skips t).mp reached
    refine ⟨closing, rfl, isClosing, ?_⟩
    rintro ⟨tag, isTag, front, back, rfl⟩
    -- A closing tag in the body would have been the first one.
    have unread := earliest front (tag ++ back) (by simp)
      (by obtain ⟨name, rfl, -⟩ := isTag; simp)
    have read : kind.closing? (tag ++ back ++ (closing ++ rest)) =
        some (tag, back ++ (closing ++ rest)) :=
      closing?_eq_some.mpr ⟨by simp, isTag⟩
    rw [read] at unread
    cases unread
  · rintro ⟨closing, rfl, isClosing, inner⟩
    refine ⟨_, rfl, (skips _).mpr ⟨closing, rfl, isClosing⟩, ?_⟩
    intro front back whole some_back
    rw [Option.map_eq_none_iff, ← Option.not_isSome_iff_eq_none]
    intro found
    obtain ⟨⟨tag, behind⟩, found⟩ := Option.isSome_iff_exists.mp found
    obtain ⟨same, isTag⟩ := closing?_eq_some.mp found
    obtain ⟨name, rfl, -⟩ := isClosing
    -- A closing tag found earlier would lie in the body, since it holds one angle only.
    have within : tag <+: back := by
      refine isTag.prefix_of_angle (s := '/' :: (name ++ ['>']) ++ rest) some_back ?_
      exact ⟨behind, by rw [← same]; rfl⟩
    refine inner ⟨tag, isTag, within.isInfix.trans ?_⟩
    exact whole ▸ (List.suffix_append front back).isInfix

theorem block_read_eq_some : kind.block.read s = some (block, rest) ↔
    s = block.text ++ rest ∧ kind.IsBlock block := by
  constructor
  · intro found
    simp only [Embedded.block] at found
    split at found
    · simp at found
    · next opening inner opened =>
      obtain ⟨rfl, isOpening⟩ := opening?_eq_some.mp opened
      split at found
      · simp at found
      · next body tail cut =>
        cases found
        obtain ⟨closing, rfl, isClosing, inner⟩ := cutAt?_closing_eq_some.mp cut
        rw [take_closing]
        exact ⟨by simp [Block.text], isOpening, isClosing, inner⟩
  · rintro ⟨rfl, isBlock⟩
    obtain ⟨opening, body, closing⟩ := block
    have opened : kind.opening? (opening ++ (body ++ (closing ++ rest))) =
        some (opening, body ++ (closing ++ rest)) :=
      opening?_eq_some.mpr ⟨rfl, isBlock.opening⟩
    have cut : Text.cutAt? (fun t => (kind.closing? t).map (·.2)) (body ++ (closing ++ rest)) =
        some (body, rest) :=
      cutAt?_closing_eq_some.mpr ⟨closing, rfl, isBlock.closing, isBlock.inner⟩
    simp only [Embedded.block, Block.text, List.append_assoc, opened, cut, take_closing]

theorem block_faithful (kind : Embedded) : kind.block.Faithful := by
  intro s rest block found
  exact ⟨block.text, (block_read_eq_some.mp found).1.symm⟩

theorem block_read_isSome : (kind.block.read s).isSome ↔ kind.Begins s := by
  constructor
  · intro found
    obtain ⟨⟨block, rest⟩, found⟩ := Option.isSome_iff_exists.mp found
    obtain ⟨rfl, isBlock⟩ := block_read_eq_some.mp found
    obtain ⟨name, attributes, opening, isName, -⟩ := isBlock.opening
    refine ⟨name, attributes ++ '>' :: (block.body ++ (block.closing ++ rest)), ?_, isName,
      attributes, _, rfl, (isBlock.closes.append_right rest).append_left block.body⟩
    simp [Block.text, opening]
  · rintro ⟨name, _, rfl, isName, ends⟩
    obtain ⟨attributes, behind, rfl, plain, closes⟩ := ends.at_first
    have opened : kind.opening? ('<' :: (name ++ (attributes ++ '>' :: behind))) =
        some ('<' :: (name ++ attributes ++ ['>']), behind) :=
      opening?_eq_some.mpr ⟨by simp, name, attributes, rfl, isName, plain⟩
    obtain ⟨tag, isClosing, before, after, rfl⟩ := closes
    have closed : kind.closing? (tag ++ after) = some (tag, after) :=
      closing?_eq_some.mpr ⟨rfl, isClosing⟩
    have cut : (Text.cutAt? (fun t => (kind.closing? t).map (·.2))
        (before ++ tag ++ after)).isSome :=
      Text.cutAt?_isSome (t := tag ++ after) ⟨before, by simp⟩ (by simp [closed])
    obtain ⟨⟨body, rest⟩, cut⟩ := Option.isSome_iff_exists.mp cut
    simp only [Embedded.block, opened, cut, Option.isSome_some]

theorem block_read_eq_none : kind.block.read s = none ↔ ¬ kind.Begins s := by
  rw [← block_read_isSome, Option.not_isSome_iff_eq_none]

end Embedded

end Snippet
