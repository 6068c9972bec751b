import Snippet.Proofs.Blanks
import Snippet.Proofs.Comment
import Snippet.Proofs.Comment.Conditional
import Snippet.Proofs.Seams

/-! Comments that come together when others are removed.

A second removal finds nothing unless neighbours of a removed comment have become a comment
themselves. Those of script comments never do. For styles and for markup it takes the parts
of an opener on both sides; in a mixed snippet the comments of markup are removed last, and
what they part may also be a comment of a script.
-/

set_option autoImplicit false

namespace Snippet

variable {s rest : Text}

namespace Comment

/-! ## One comment at the front -/

theorem markup_read_opener (body : Text) :
    (markup.read (opener ++ body)).isSome ↔ ¬ isConditional body ∧ closer <:+: body := by
  rw [← Text.cut?_isSome_iff]
  have opened : Text.after? opener (opener ++ body) = some body := Text.after?_eq_some.mpr rfl
  simp only [markup, opened, Option.bind_some]
  split <;> simp_all

theorem line_local : line.Local := by
  intro part rest a behind found
  obtain ⟨r, whole, -, rfl⟩ := line_read_eq_some.mp found
  obtain ⟨inLine, same⟩ := List.dropWhile_suffix (l := r) (!isLineEnd ·)
  obtain rfl : part = '/' :: '/' :: inLine := by
    refine List.append_cancel_right (whole.trans ?_)
    conv_lhs => rw [← same]
    rfl
  rfl

theorem block_local : block.Local := by
  intro part rest a behind found
  obtain ⟨r, whole, cut⟩ := block_read_eq_some.mp found
  obtain rfl : part = '/' :: '*' :: (a ++ "*/".toList) := by
    refine List.append_cancel_right (whole.trans ?_)
    rw [Text.eq_append_of_cut? cut]
    simp
  exact (block_read_opener (a ++ "*/".toList ++ behind)).mpr (List.infix_append a _ behind)

theorem isConditional_append (conditional : isConditional s) (behind : Text) :
    isConditional (s ++ behind) := by
  rw [isConditional_iff] at conditional ⊢
  simp only [Text.after?_eq_some] at conditional ⊢
  rcases conditional with ⟨rest, rfl⟩ | ⟨rest, rfl, blank⟩
  · exact .inl ⟨rest ++ behind, by simp⟩
  · refine .inr ⟨rest ++ behind, by simp, ?_⟩
    cases rest with
    | nil => cases blank
    | cons c rest => exact blank

theorem markup_local : markup.Local := by
  intro part rest inside behind found
  obtain ⟨body, whole, plain, closed⟩ := markup_read_eq_some.mp found
  obtain rfl := Text.eq_append_of_cut? closed
  obtain rfl : part = opener ++ (inside ++ closer) :=
    List.append_cancel_right (whole.trans (by simp))
  -- Whether a comment is a marker shows before its closer.
  have still : ¬ isConditional (inside ++ closer ++ behind) := by
    intro conditional
    rw [List.append_assoc] at conditional plain
    exact plain (isConditional_append (isConditional_append_closer conditional) _)
  have read := (markup_read_opener _).mpr ⟨still, List.infix_append inside closer behind⟩
  rwa [← List.append_assoc] at read

/-! ## Openers -/

theorem block_opens : block.Opens '/' ['*'] where
  begins found := by
    obtain ⟨body, rfl, cut⟩ := block_read_eq_some.mp found
    rw [Text.eq_append_of_cut? cut]
    exact ⟨_, rfl, List.suffix_append _ _⟩
  once := by decide
  stays {body} unread := by
    have unclosed : ¬ "*/".toList <:+: body := by
      rw [← block_read_opener body, Option.not_isSome_iff_eq_none]
      exact unread
    rwa [eraseBlock_eq_self unclosed]

theorem isConditional_erase (conditional : isConditional s) : isConditional (markup.erase s) := by
  rw [isConditional_iff] at conditional
  simp only [Text.after?_eq_some] at conditional
  rcases conditional with ⟨rest, rfl⟩ | ⟨rest, rfl, blank⟩
  · have unread : markup.read ('<' :: ("![endif]".toList ++ rest)) = none :=
      markup_read_eq_none rfl
    have kept : markup.erase ("<![endif]".toList ++ rest) =
        '<' :: ("![endif]".toList ++ markup.erase rest) :=
      (markup.erase_none unread).trans (by rw [erase_of_notMem (by decide)])
    rw [kept]
    rfl
  · obtain ⟨c, r, rfl, blank⟩ := Text.head?_any_iff.mp blank
    have plain : '<' ∉ "[if".toList ++ [c] := by
      have visible : '<' ≠ c := fun same => by
        rw [← same] at blank
        cases blank
      simpa using visible
    have kept := erase_of_notMem (s := r) plain
    rw [List.append_assoc, List.append_assoc, List.singleton_append, List.singleton_append] at kept
    rw [kept, isConditional_iff]
    exact .inr ⟨_, Text.after?_eq_some.mpr rfl, by simpa using blank⟩

theorem eraseMarkup_eq_self (unclosed : ¬ closer <:+: s) : markup.erase s = s :=
  erase_eq_self_of_unclosed fun body tail closed =>
    unclosed (closed.trans ((List.suffix_append opener body).trans tail).isInfix)

theorem markup_opens : markup.Opens '<' ['!', '-', '-'] where
  begins found := by
    obtain ⟨body, rfl, -, cut⟩ := markup_read_eq_some.mp found
    rw [Text.eq_append_of_cut? cut]
    exact ⟨_, rfl, List.suffix_append _ _⟩
  once := by decide
  stays {body} unread := by
    have kept : ¬ (¬ isConditional body ∧ closer <:+: body) := by
      rw [← markup_read_opener, Option.not_isSome_iff_eq_none]
      exact unread
    have still : ¬ (¬ isConditional (markup.erase body) ∧ closer <:+: markup.erase body) := by
      rintro ⟨plain, closed⟩
      by_cases unclosed : closer <:+: body
      · exact kept ⟨mt isConditional_erase plain, unclosed⟩
      · exact unclosed (eraseMarkup_eq_self unclosed ▸ closed)
    rwa [← markup_read_opener, Option.not_isSome_iff_eq_none] at still

/-! ## Scripts -/

theorem unread_line (uncommented : Uncommented s) : line.Unread s := by
  refine .of_accepted fun tail found => ?_
  obtain ⟨front, rfl⟩ := tail
  obtain ⟨r, rfl, -⟩ := line_read_eq_some.mp found
  exact uncommented.line front r (by simp)

theorem unread_block (uncommented : Uncommented s) : block.Unread s := by
  refine .of_accepted fun {_ rest inside} tail found => ?_
  obtain ⟨front, rfl⟩ := tail
  obtain ⟨r, rfl, cut⟩ := block_read_eq_some.mp found
  refine uncommented.block front inside rest ?_
  rw [Text.eq_append_of_cut? cut]
  simp

theorem removeComments_uncommented (uncommented : Uncommented s) :
    removeComments .javascript s = s := by
  rw [removeComments, (unread_line uncommented).erase_eq_self,
    (unread_block uncommented).erase_eq_self]

/-! ## Mixed snippets -/

/-- Block comments are looked for twice, but none is left for the second time. -/
theorem removeComments_mixed (code : Text) :
    removeComments .mixed code = markup.erase (removeComments .javascript code) := by
  have unread := unread_block (uncommented_removeComments code)
  have scans : removeComments .mixed code =
      eraseMarkup (block.erase (removeComments .javascript code)) := rfl
  rw [scans, eraseMarkup_eq, unread.erase_eq_self]

theorem removeComments_mixed_eq_self_iff : removeComments .mixed s = s ↔
    line.Unread s ∧ block.Unread s ∧ markup.Unread s := by
  rw [removeComments_mixed, removeComments, ← Reader.erase_eq_self_iff line_faithful,
    ← Reader.erase_eq_self_iff block_faithful, ← Reader.erase_eq_self_iff markup_faithful]
  constructor
  · intro same
    -- Each removal only takes away, so that none may change anything.
    have lines := Reader.erase_sublist line_faithful s
    have blocks := Reader.erase_sublist block_faithful (line.erase s)
    have markups := Reader.erase_sublist markup_faithful (block.erase (line.erase s))
    rw [same] at markups
    have sameLine : line.erase s = s := lines.antisymm (markups.trans blocks)
    rw [sameLine] at same markups blocks
    have sameBlock : block.erase s = s := blocks.antisymm markups
    rw [sameBlock] at same
    exact ⟨sameLine, sameBlock, same⟩
  · rintro ⟨lines, blocks, markups⟩
    rw [lines, blocks, markups]

/-! ## All categories -/

/-- The last removal makes a comment of a kind that the category can hold from what stands on
both sides of a removed one. -/
def JoinsComment : Category → Text → Prop
  | .javascript, code => ∃ before behind, block.Seam (line.erase code) before behind ∧
      (line.Joins before behind ∨ block.Joins before behind)
  | .css, code => ∃ before behind, block.Seam code before behind ∧ block.Joins before behind
  | .html, code => ∃ before behind, markup.Seam code before behind ∧ markup.Joins before behind
  | .mixed, code => ∃ before behind, markup.Seam (removeComments .javascript code) before behind ∧
      (line.Joins before behind ∨ block.Joins before behind ∨ markup.Joins before behind)
  | .unknown, _ | .empty, _ => False

theorem not_joinsComment_script (code : Text) : ¬ JoinsComment .javascript code := by
  have uncommented := uncommented_removeComments code
  rintro ⟨before, behind, seam, joins | joins⟩
  · exact Reader.not_unread_of_joins seam joins (unread_line uncommented)
  · exact Reader.not_unread_of_joins seam joins (unread_block uncommented)

theorem joinsComment_mixed_iff (code : Text) : JoinsComment .mixed code ↔
    ¬ (line.Unread (removeComments .mixed code) ∧ block.Unread (removeComments .mixed code) ∧
      markup.Unread (removeComments .mixed code)) := by
  have uncommented := uncommented_removeComments code
  rw [removeComments_mixed,
    Reader.unread_erase_iff markup_faithful line_faithful line_local
      fun c r tail _ => unread_line uncommented _ tail,
    Reader.unread_erase_iff markup_faithful block_faithful block_local
      fun c r tail _ => unread_block uncommented _ tail,
    Reader.unread_erase_iff markup_faithful markup_faithful markup_local fun _ _ _ => id]
  simp only [JoinsComment, and_or_left, exists_or, not_and_or, not_not]

theorem joinsComment_css_iff (code : Text) : JoinsComment .css code ↔
    ∃ front body, block.Seam code (front ++ ['/']) ('*' :: body) ∧ "*/".toList <:+: body := by
  refine (block_opens.joins_iff block_faithful).trans ⟨?_, ?_⟩
  · rintro ⟨front, x, y, body, seam, whole, some_x, some_y, read⟩
    obtain ⟨c, x, rfl⟩ := List.exists_cons_of_ne_nil some_x
    obtain ⟨rfl, others⟩ := List.cons.inj whole
    rcases List.append_eq_singleton_iff.mp others with ⟨rfl, rfl⟩ | ⟨-, none⟩
    · exact ⟨front, body, seam, (block_read_opener body).mp read⟩
    · exact absurd none some_y
  · rintro ⟨front, body, seam, closed⟩
    exact ⟨front, ['/'], ['*'], body, seam, rfl, by simp, by simp,
      (block_read_opener body).mpr closed⟩

/-- The parts of an opener come together, with a closer further on, and not to the marker of a
conditional comment. -/
theorem joinsComment_html_iff (code : Text) : JoinsComment .html code ↔
    ∃ front x y body, markup.Seam code (front ++ x) (y ++ body) ∧ x ++ y = opener ∧
      x ≠ [] ∧ y ≠ [] ∧ ¬ isConditional body ∧ closer <:+: body := by
  refine (markup_opens.joins_iff markup_faithful).trans ?_
  have read (body : Text) : (markup.read ('<' :: (['!', '-', '-'] ++ body))).isSome ↔
      ¬ isConditional body ∧ closer <:+: body := markup_read_opener body
  simp only [read]
  rfl

/-- Removing comments a second time changes nothing, unless the first time neighbours are joined
to a comment, which those of script comments never are. -/
theorem removeComments_removeComments (code : Text) :
    (∀ category, removeComments category (removeComments category code) =
        removeComments category code ↔ ¬ JoinsComment category code) ∧
    ¬ JoinsComment .javascript code ∧ ¬ JoinsComment .unknown code ∧
    ¬ JoinsComment .empty code := by
  refine ⟨fun category => ?_, not_joinsComment_script code, id, id⟩
  cases category with
  | javascript =>
    have stays := removeComments_uncommented (uncommented_removeComments code)
    exact iff_of_true stays (not_joinsComment_script code)
  | css => exact Reader.erase_erase_iff block_faithful block_local
  | html =>
    simp only [removeComments, eraseMarkup_eq]
    exact Reader.erase_erase_iff markup_faithful markup_local
  | mixed => rw [removeComments_mixed_eq_self_iff, joinsComment_mixed_iff, not_not]
  | unknown | empty => exact iff_of_true rfl id

theorem removeComments_joined :
    removeComments .css (removeComments .css "//*x*/*y*/".toList) ≠
      removeComments .css "//*x*/*y*/".toList ∧
    removeComments .html (removeComments .html "<!<!--x-->--y-->".toList) ≠
      removeComments .html "<!<!--x-->--y-->".toList ∧
    removeComments .mixed (removeComments .mixed "/<!--x-->/y".toList) ≠
      removeComments .mixed "/<!--x-->/y".toList := by
  decide +kernel

end Comment

end Snippet
