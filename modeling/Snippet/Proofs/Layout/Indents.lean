import Snippet.Proofs.Layout.Tags

/-! The spaces in front of tags.

How far a tag is indented depends on the tags in front of it, and on them only through one
depth. A self-closing tag stands for no element with content, but if it is named like a
block it raises the depth, and the tags behind it are indented by it up to the place where
a stray closing tag makes both depths zero.
-/

set_option autoImplicit false

namespace Snippet

variable {tag : Text} {tags others : List Text} {pieces before after : List (Segment Text)}

namespace Layout

def tagsOf : List (Segment Text) → List Text
  | [] => []
  | .plain _ :: pieces => tagsOf pieces
  | .found tag :: pieces => tag :: tagsOf pieces

theorem tagsOf_append (before after : List (Segment Text)) :
    tagsOf (before ++ after) = tagsOf before ++ tagsOf after := by
  induction before with
  | nil => rfl
  | cons piece before ih => cases piece <;> simp [tagsOf, ih]

theorem mem_tagsOf : tag ∈ tagsOf pieces ↔ .found tag ∈ pieces := by
  induction pieces with
  | nil => simp [tagsOf]
  | cons piece pieces ih => cases piece <;> simp [tagsOf, ih]

theorem tagsOf_closeUp (behindTag : Bool) (pieces : List (Segment Text)) :
    tagsOf (closeUp behindTag pieces) = tagsOf pieces := by
  induction pieces generalizing behindTag with
  | nil => rfl
  | cons piece pieces ih =>
    cases piece with
    | plain c =>
      rw [closeUp]
      split
      · exact ih true
      · exact ih false
    | found tag => exact congrArg (tag :: ·) (ih true)

/-- For each tag the number of spaces that are written in front of it. -/
def indents (depth : Nat) : List Text → List Nat
  | [] => []
  | tag :: tags => 2 * depthAt depth tag :: indents (depthBehind depth tag) tags

def depthAfter (depth : Nat) (tags : List Text) : Nat := tags.foldl depthBehind depth

theorem indents_append (depth : Nat) (tags others : List Text) :
    indents depth (tags ++ others) = indents depth tags ++ indents (depthAfter depth tags) others := by
  induction tags generalizing depth with
  | nil => rfl
  | cons tag tags ih => simp [indents, depthAfter, ih]

theorem length_indents (depth : Nat) (tags : List Text) :
    (indents depth tags).length = tags.length := by
  induction tags generalizing depth with
  | nil => rfl
  | cons tag tags ih => simp [indents, ih]

/-- The pieces with each tag on a line of its own, behind the next number of spaces. -/
def indented : List Nat → List (Segment Text) → Text
  | _, [] => []
  | ns, .plain c :: pieces => c :: indented ns pieces
  | [], .found tag :: pieces => tag ++ '\n' :: indented [] pieces
  | n :: ns, .found tag :: pieces => List.replicate n ' ' ++ tag ++ '\n' :: indented ns pieces

theorem renderWith_tagLine (depth : Nat) (pieces : List (Segment Text)) :
    Segment.renderWith tagLine depth pieces = indented (indents depth (tagsOf pieces)) pieces := by
  induction pieces generalizing depth with
  | nil => rfl
  | cons piece pieces ih =>
    cases piece with
    | plain c => exact congrArg (c :: ·) (ih depth)
    | found tag =>
      simp only [Segment.renderWith, tagLine_eq, ih]
      simp [tagsOf, indents, indented, indentation]

theorem layOutMarkup_indented (arePieces : ∀ piece ∈ pieces, IsPiece piece) :
    layOutMarkup (markup pieces) =
      Text.trim (indented (indents 0 (tagsOf pieces)) (closeUp false pieces)) := by
  rw [layOutMarkup_markup arePieces, renderWith_tagLine, tagsOf_closeUp]

/-! ## One level more -/

theorem depthAt_succ_eq_iff (depth : Nat) (tag : Text) :
    depthAt (depth + 1) tag = depthAt depth tag ↔ depth = 0 ∧ closesBlock tag := by
  unfold depthAt
  split <;> simp_all
  omega

theorem depthBehind_selfClosing (depth : Nat) (isTag : IsTag tag)
    (selfClosing : "/>".toList <:+ tag) :
    depthBehind depth tag = if opensBlock tag then depth + 1 else depth := by
  have own : depthAt depth tag = depth := by simp [depthAt, isTag.not_closesBlock selfClosing]
  rw [depthBehind, own]

/-- One level more is seen at the next tag or nowhere. -/
theorem indents_succ_eq_iff (depth : Nat) (tags : List Text) :
    indents (depth + 1) tags = indents depth tags ↔
      ∀ next ∈ tags.head?, depth = 0 ∧ closesBlock next := by
  cases tags with
  | nil => simp [indents]
  | cons next tags =>
    simp only [List.head?_cons, Option.mem_some_iff, forall_eq', ← depthAt_succ_eq_iff]
    constructor
    · intro same
      have first := (List.cons.inj same).1
      omega
    · intro same
      rw [indents, indents, depthBehind, depthBehind, same]

end Layout

open Layout

/-- The number of spaces in front of each other tag is the same without a self-closing tag,
exactly if its name does not begin like that of a block, or no tag follows it, or it stands at
depth zero and the next tag closes a block. -/
theorem indents_without_selfClosing
    (arePieces : ∀ piece ∈ before ++ .found tag :: after, IsPiece piece)
    (selfClosing : "/>".toList <:+ tag) :
    layOutMarkup (markup (before ++ .found tag :: after)) =
        Text.trim (indented (indents 0 (tagsOf (before ++ .found tag :: after)))
          (closeUp false (before ++ .found tag :: after))) ∧
      layOutMarkup (markup (before ++ after)) =
        Text.trim (indented (indents 0 (tagsOf (before ++ after)))
          (closeUp false (before ++ after))) ∧
      ((indents 0 (tagsOf (before ++ .found tag :: after))).eraseIdx (tagsOf before).length =
          indents 0 (tagsOf (before ++ after)) ↔
        ((∃ name ∈ blockNames, '<' :: name <+: tag) → ∀ next ∈ (tagsOf after).head?,
          depthAfter 0 (tagsOf before) = 0 ∧ ∃ name ∈ blockNames,
            next = '<' :: '/' :: (name ++ ['>']))) := by
  obtain ⟨areBefore, areBehind⟩ := List.forall_mem_append.mp arePieces
  obtain ⟨isTag, areAfter⟩ := List.forall_mem_cons.mp areBehind
  refine ⟨layOutMarkup_indented arePieces,
    layOutMarkup_indented (List.forall_mem_append.mpr ⟨areBefore, areAfter⟩), ?_⟩
  have erased : (indents 0 (tagsOf (before ++ .found tag :: after))).eraseIdx
      (tagsOf before).length = indents 0 (tagsOf before) ++
        indents (depthBehind (depthAfter 0 (tagsOf before)) tag) (tagsOf after) := by
    rw [tagsOf_append, tagsOf, indents_append, indents, ← length_indents 0 (tagsOf before),
      List.eraseIdx_append_of_length_le (Nat.le_refl _), Nat.sub_self, List.eraseIdx_cons_zero]
  rw [erased, tagsOf_append, indents_append, List.append_cancel_left_eq,
    depthBehind_selfClosing _ isTag selfClosing]
  have closing : (∀ next ∈ (tagsOf after).head?, depthAfter 0 (tagsOf before) = 0 ∧
      closesBlock next) ↔ ∀ next ∈ (tagsOf after).head?, depthAfter 0 (tagsOf before) = 0 ∧
        ∃ name ∈ blockNames, next = '<' :: '/' :: (name ++ ['>']) :=
    forall₂_congr fun _ first => and_congr_right'
      (IsTag.closesBlock_iff (areAfter _ (mem_tagsOf.mp (List.mem_of_mem_head? first))))
  rw [← closing, ← isTag.opensBlock_iff, ← indents_succ_eq_iff]
  by_cases opens : opensBlock tag
  · simp only [opens, if_true, forall_const]
  · simp only [opens, if_false, Bool.false_eq_true, false_implies]

theorem indents_without_selfClosing_stray :
    let before : List (Segment Text) := [.found "</ul>".toList, .plain 'a']
    let after : List (Segment Text) := [.plain ' ', .found "</div>".toList, .found "<b>".toList]
    (∀ piece ∈ before ++ .found "<div/>".toList :: after, IsPiece piece) ∧
      "/>".toList <:+ "<div/>".toList ∧
      (indents 0 (tagsOf (before ++ .found "<div/>".toList :: after))).eraseIdx 1 =
        indents 0 (tagsOf (before ++ after)) := by
  intro before after
  have isTag (inner : Text) (some_text : inner ≠ []) (plain : inner.all (!isAngle ·)) :
      IsPiece (.found ('<' :: (inner ++ ['>']))) := ⟨inner, rfl, some_text, by simpa using plain⟩
  have arePieces : ∀ piece ∈ before ++ .found "<div/>".toList :: after, IsPiece piece := by
    simp only [before, after, List.cons_append, List.nil_append, List.forall_mem_cons]
    exact ⟨isTag "/ul".toList (by decide) (by decide), rfl,
      isTag "div/".toList (by decide) (by decide), rfl,
      isTag "/div".toList (by decide) (by decide),
      isTag "b".toList (by decide) (by decide), by simp⟩
  have selfClosing : "/>".toList <:+ "<div/>".toList := by decide
  refine ⟨arePieces, selfClosing, ?_⟩
  refine (indents_without_selfClosing arePieces selfClosing).2.2.mpr fun _ next first => ?_
  obtain rfl : "</div>".toList = next := by simpa [before, after, tagsOf] using first
  exact ⟨by decide +kernel, "div".toList, by decide, rfl⟩

/-- A slash at the end does not keep a tag from opening a block. -/
theorem indents_behind_selfClosing_div :
    let after : List (Segment Text) := [.found "<p>".toList, .found "</p>".toList]
    (indents 0 (tagsOf (.found "<div/>".toList :: after))).eraseIdx 0 ≠ indents 0 (tagsOf after) ∧
      layOutMarkup "<div/><p></p>".toList = "<div/>\n  <p>\n  </p>".toList ∧
      layOutMarkup "<p></p>".toList = "<p>\n</p>".toList := by
  decide +kernel

end Snippet
