import Snippet.Proofs.Layout

/-! Layout of complete tags.

Markup is read back as the tags and the characters that it was put together from, if no
angle bracket stands anywhere else. So its layout is known piece by piece: gaps of blanks
between two tags are dropped, and each tag gets a line and an indentation that depends on
the tags in front of it alone.
-/

set_option autoImplicit false

namespace Snippet

variable {s front rest gap tag : Text} {c : Char} {piece : Segment Text}
variable {pieces before after : List (Segment Text)}

def isAngle (c : Char) : Bool := c == '<' || c == '>'

theorem isAngle_eq_false : isAngle c = false ↔ c ≠ '<' ∧ c ≠ '>' := by
  simp [isAngle]

theorem Text.anyEnd_iff {test : Text → Bool} : anyEnd test s ↔ ∃ t, t <:+ s ∧ test t := by
  induction s with
  | nil => simp [anyEnd]
  | cons c r ih => simp [anyEnd, ih, List.suffix_cons_iff]

namespace Layout

/-! ## Tags -/

/-- Some text without angle brackets, between two of them. -/
def IsTag (tag : Text) : Prop :=
  ∃ inner, tag = '<' :: (inner ++ ['>']) ∧ inner ≠ [] ∧ ∀ c ∈ inner, isAngle c = false

theorem blockName_plain {name : Text} (member : name ∈ blockNames) : '>' ∉ name := by
  revert name
  decide

theorem IsTag.eq_of_suffix (isTag : IsTag tag) {r : Text} (tail : '<' :: r <:+ tag) :
    '<' :: r = tag := by
  obtain ⟨inner, rfl, -, plain⟩ := isTag
  rcases List.suffix_cons_iff.mp tail with whole | within
  · exact whole
  · have member : '<' ∈ inner ++ ['>'] := within.subset (by simp)
    rcases List.mem_append.mp member with member | member
    · exact absurd rfl (isAngle_eq_false.mp (plain '<' member)).1
    · exact absurd member (by decide)

theorem IsTag.closesBlock_iff (isTag : IsTag tag) :
    closesBlock tag ↔ ∃ name ∈ blockNames, tag = '<' :: '/' :: (name ++ ['>']) := by
  have closing (name : Text) : "</".toList ++ name ++ ['>'] = '<' :: '/' :: (name ++ ['>']) := rfl
  simp only [closesBlock, Text.anyEnd_iff, List.any_eq_true, Option.isSome_iff_exists,
    Text.after?_eq_some, closing]
  constructor
  · rintro ⟨_, tail, name, member, rest, rfl⟩
    refine ⟨name, member, ?_⟩
    have whole := isTag.eq_of_suffix tail
    obtain ⟨inner, rfl, -, plain⟩ := isTag
    -- The first closing bracket of a tag is its last character.
    rcases List.eq_nil_or_concat' rest with rfl | ⟨behind, c, rfl⟩
    · simpa using whole.symm
    · have parts : '/' :: (name ++ '>' :: behind) ++ [c] = inner ++ ['>'] := by simpa using whole
      have same : '/' :: (name ++ '>' :: behind) = inner := (List.append_inj' parts rfl).1
      exact absurd rfl (isAngle_eq_false.mp (plain '>' (by simp [← same]))).2
  · rintro ⟨name, member, rfl⟩
    exact ⟨_, List.suffix_rfl, name, member, [], by simp⟩

/-- A tag opens a block if a name of a block stands at its front, whatever follows. -/
theorem IsTag.opensBlock_iff (isTag : IsTag tag) :
    opensBlock tag ↔ ∃ name ∈ blockNames, '<' :: name <+: tag := by
  simp only [opensBlock, Text.anyEnd_iff, List.any_eq_true, Option.any_eq_true,
    Text.after?_eq_some, List.contains_iff_mem]
  constructor
  · rintro ⟨_, tail, name, member, rest, rfl, -⟩
    have whole := isTag.eq_of_suffix tail
    exact ⟨name, member, rest, whole⟩
  · rintro ⟨name, member, rest, rfl⟩
    refine ⟨_, List.suffix_rfl, name, member, rest, rfl, ?_⟩
    obtain ⟨inner, whole, -⟩ := isTag
    have closing : '>' ∈ '<' :: name ++ rest := by
      rw [whole]
      simp
    rcases List.mem_append.mp closing with inName | behind
    · exact absurd inName (by simp [blockName_plain member])
    · exact behind

theorem IsTag.not_closesBlock (isTag : IsTag tag) (selfClosing : "/>".toList <:+ tag) :
    closesBlock tag = false := by
  by_contra closes
  obtain ⟨name, member, same⟩ := isTag.closesBlock_iff.mp (by simpa using closes)
  have never : ∀ name ∈ blockNames, ¬ "/>".toList <:+ '<' :: '/' :: (name ++ ['>']) := by decide
  exact never name member (same ▸ selfClosing)

/-! ## Depths -/

def depthAt (depth : Nat) (tag : Text) : Nat := if closesBlock tag then depth - 1 else depth

def depthBehind (depth : Nat) (tag : Text) : Nat :=
  if opensBlock tag then depthAt depth tag + 1 else depthAt depth tag

theorem tagLine_eq (depth : Nat) (tag : Text) : tagLine depth tag =
    (indentation (depthAt depth tag) ++ tag ++ ['\n'], depthBehind depth tag) := rfl

/-! ## Pieces of markup -/

def IsPiece : Segment Text → Prop
  | .plain c => isAngle c = false
  | .found tag => IsTag tag

def markup (pieces : List (Segment Text)) : Text := pieces.flatMap (Segment.render id)

theorem markup_plain (c : Char) (pieces : List (Segment Text)) :
    markup (.plain c :: pieces) = c :: markup pieces := rfl

theorem markup_found (tag : Text) (pieces : List (Segment Text)) :
    markup (.found tag :: pieces) = tag ++ markup pieces := rfl

theorem tag_read_tag (isTag : IsTag tag) (s : Text) : Layout.tag.read (tag ++ s) = some (tag, s) := by
  obtain ⟨inner, rfl, some_text, plain⟩ := isTag
  have unclosed : ∀ c ∈ inner, (c != '>') = true := fun c member =>
    bne_iff_ne.mpr (isAngle_eq_false.mp (plain c member)).2
  have taken : (inner ++ '>' :: s).takeWhile (· != '>') = inner := by
    rw [List.takeWhile_append_of_pos unclosed]
    exact List.append_nil inner
  have left : (inner ++ '>' :: s).dropWhile (· != '>') = '>' :: s :=
    List.dropWhile_append_of_pos unclosed
  rw [List.cons_append, List.append_assoc, List.singleton_append]
  simp only [Layout.tag, taken, left, List.isEmpty_iff, some_text, if_false, List.cons_append]

theorem tag_read_plain (other : c ≠ '<') (s : Text) : Layout.tag.read (c :: s) = none := by
  simp only [Layout.tag]
  split
  · next same => exact absurd (List.cons.inj same).1 other
  · rfl

theorem segments_markup (arePieces : ∀ piece ∈ pieces, IsPiece piece) :
    Layout.tag.segments (markup pieces) = pieces := by
  induction pieces with
  | nil => exact Layout.tag.segments_nil
  | cons piece pieces ih =>
    obtain ⟨isPiece, others⟩ := List.forall_mem_cons.mp arePieces
    cases piece with
    | plain c =>
      have other := (isAngle_eq_false.mp isPiece).1
      rw [markup_plain, Reader.segments_none _ (tag_read_plain other _), ih others]
    | found tag => rw [markup_found, Reader.segments_some _ (tag_read_tag isPiece _), ih others]

/-! ## Gaps between tags -/

def joined (s : Text) : Text := blanksBetweenTags.replace (fun _ => "><".toList) s

theorem joined_front (plain : ∀ c ∈ front, c ≠ '>') (s : Text) :
    joined (front ++ s) = front ++ joined s := by
  induction front with
  | nil => rfl
  | cons c front ih =>
    obtain ⟨other, others⟩ := List.forall_mem_cons.mp plain
    have unread : blanksBetweenTags.read (c :: (front ++ s)) = none := by
      simp only [blanksBetweenTags]
      split
      · next same => exact absurd (List.cons.inj same).1 other
      · rfl
    rw [List.cons_append, joined, blanksBetweenTags.replace_none _ unread, ← joined, ih others]
    rfl

theorem joined_gap (blank : ∀ d ∈ gap, isBlank d) (s : Text) :
    joined ('>' :: (gap ++ '<' :: s)) = '>' :: joined ('<' :: s) := by
  have apart : ∀ c ∈ ['<'], c ≠ '>' := by simp
  have opening : joined ('<' :: s) = '<' :: joined s := joined_front apart s
  cases gap with
  | nil =>
    have unread : blanksBetweenTags.read ('>' :: '<' :: s) = none := by
      simp [blanksBetweenTags, isBlank]
    exact blanksBetweenTags.replace_none _ unread
  | cons d gap =>
    obtain ⟨first, others⟩ := List.forall_mem_cons.mp blank
    have behind : Text.dropBlanks (gap ++ '<' :: s) = '<' :: s :=
      Text.dropBlanks_gap others (by decide) s
    have taken : blanksBetweenTags.read ('>' :: d :: (gap ++ '<' :: s)) = some ((), s) := by
      simp [blanksBetweenTags, first, behind]
    rw [opening]
    exact blanksBetweenTags.replace_some _ taken

theorem joined_kept (unled : ∀ gap rest, s = gap ++ '<' :: rest → ¬ ∀ d ∈ gap, isBlank d) :
    joined ('>' :: s) = '>' :: joined s := by
  refine blanksBetweenTags.replace_none _ ?_
  by_contra read
  obtain ⟨⟨_, rest⟩, taken⟩ := Option.ne_none_iff_exists'.mp read
  obtain ⟨gap, whole, blank⟩ := blanksBetweenTags_eq_append taken
  exact unled gap rest (List.cons.inj whole).2 blank

def leadsToTag : List (Segment Text) → Bool
  | [] => false
  | .plain c :: pieces => isBlank c && leadsToTag pieces
  | .found _ :: _ => true

/-- The pieces without the blanks that fill a gap between two tags. -/
def closeUp (behindTag : Bool) : List (Segment Text) → List (Segment Text)
  | [] => []
  | .plain c :: pieces =>
    if behindTag && leadsToTag (.plain c :: pieces) then closeUp true pieces
    else .plain c :: closeUp false pieces
  | .found tag :: pieces => .found tag :: closeUp true pieces

theorem closeUp_sublist (behindTag : Bool) (pieces : List (Segment Text)) :
    (closeUp behindTag pieces).Sublist pieces := by
  induction pieces generalizing behindTag with
  | nil => exact List.Sublist.refl _
  | cons piece pieces ih =>
    cases piece with
    | plain c =>
      rw [closeUp]
      split
      · exact (ih true).cons _
      · exact (ih false).cons_cons _
    | found tag => exact (ih true).cons_cons _

theorem leadsToTag_iff (arePieces : ∀ piece ∈ pieces, IsPiece piece) :
    leadsToTag pieces ↔ ∃ gap rest, markup pieces = gap ++ '<' :: rest ∧ ∀ d ∈ gap, isBlank d := by
  induction pieces with
  | nil => simp [leadsToTag, markup]
  | cons piece pieces ih =>
    obtain ⟨isPiece, others⟩ := List.forall_mem_cons.mp arePieces
    cases piece with
    | plain c =>
      rw [leadsToTag, Bool.and_eq_true, ih others, markup_plain]
      constructor
      · rintro ⟨blank, gap, rest, whole, blanks⟩
        exact ⟨c :: gap, rest, by rw [whole]; rfl, List.forall_mem_cons.mpr ⟨blank, blanks⟩⟩
      · rintro ⟨gap, rest, whole, blanks⟩
        cases gap with
        | nil =>
          exact absurd (List.cons.inj whole).1 (isAngle_eq_false.mp isPiece).1
        | cons d gap =>
          obtain ⟨rfl, inner⟩ := List.cons.inj whole
          obtain ⟨blank, blanks⟩ := List.forall_mem_cons.mp blanks
          exact ⟨blank, gap, rest, inner, blanks⟩
    | found tag =>
      obtain ⟨inner, rfl, -⟩ := isPiece
      exact iff_of_true rfl ⟨[], inner ++ ['>'] ++ markup pieces, rfl, by simp⟩

theorem IsTag.joined (isTag : IsTag tag) (s : Text) : ∃ inner, tag = '<' :: inner ++ ['>'] ∧
    Layout.joined (tag ++ s) = '<' :: inner ++ Layout.joined ('>' :: s) := by
  obtain ⟨inner, rfl, -, plain⟩ := isTag
  refine ⟨inner, rfl, ?_⟩
  rw [← List.cons_append, List.append_assoc, joined_front]
  · rfl
  · exact List.forall_mem_cons.mpr
      ⟨by decide, fun c member => (isAngle_eq_false.mp (plain c member)).2⟩

/-- Closing up the gaps of the text drops the blanks of the pieces, from any place on. -/
theorem joined_markup (arePieces : ∀ piece ∈ pieces, IsPiece piece) :
    joined (markup pieces) = markup (closeUp false pieces) ∧
      joined ('>' :: markup pieces) = '>' :: markup (closeUp true pieces) := by
  induction pieces with
  | nil => decide +kernel
  | cons piece pieces ih =>
    have isGap := leadsToTag_iff arePieces
    obtain ⟨isPiece, others⟩ := List.forall_mem_cons.mp arePieces
    obtain ⟨apart, behind⟩ := ih others
    cases piece with
    | plain c =>
      have plain : joined (c :: markup pieces) = c :: markup (closeUp false pieces) := by
        rw [← apart]
        exact joined_front (List.forall_mem_singleton.mpr (isAngle_eq_false.mp isPiece).2) _
      refine ⟨plain, ?_⟩
      rw [closeUp, Bool.true_and]
      split
      · next leads =>
        -- The character is the first of a gap, and a gap less by it is closed up as well.
        rw [leadsToTag, Bool.and_eq_true, leadsToTag_iff others] at leads
        obtain ⟨blank, gap, rest, whole, blanks⟩ := leads
        rw [← behind, markup_plain, whole, joined_gap blanks]
        exact joined_gap (List.forall_mem_cons.mpr ⟨blank, blanks⟩) rest
      · next stays =>
        rw [joined_kept fun gap rest whole blank => stays (isGap.mpr ⟨gap, rest, whole, blank⟩),
          markup_plain, plain, markup_plain]
    | found tag =>
      have isTag : IsTag tag := isPiece
      obtain ⟨inner, rfl, joins⟩ := isTag.joined (markup pieces)
      have whole : joined (markup (.found ('<' :: inner ++ ['>']) :: pieces)) =
          markup (.found ('<' :: inner ++ ['>']) :: closeUp true pieces) := by
        rw [markup_found, joins, behind, markup_found]
        simp
      refine ⟨whole, ?_⟩
      have noGap : ∀ d ∈ ([] : Text), isBlank d := by simp
      have bracket := joined_gap noGap (inner ++ ['>'] ++ markup pieces)
      exact bracket.trans (congrArg _ whole)

theorem layOutMarkup_markup (arePieces : ∀ piece ∈ pieces, IsPiece piece) :
    layOutMarkup (markup pieces) =
      Text.trim (Segment.renderWith tagLine 0 (closeUp false pieces)) := by
  have areKept : ∀ piece ∈ closeUp false pieces, IsPiece piece :=
    fun piece member => arePieces piece ((closeUp_sublist false pieces).subset member)
  have read := segments_markup areKept
  rw [← (joined_markup arePieces).1] at read
  rw [layOutMarkup, ← joined, read]

end Layout

end Snippet
