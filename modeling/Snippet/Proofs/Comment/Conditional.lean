import Snippet.Comment
import Snippet.Proofs.Comment.Markup

/-! Markup with conditional comments, piece by piece.

A hidden conditional comment is one comment with markup inside: only its opener is
found, and that is a marker. A revealed one is two comments with markup between them.
The opener at the end of the first is no marker, so that for the search a comment
begins there, and the closer of the second ends it.
-/

set_option autoImplicit false

namespace Snippet.Comment

/-- The condition of a conditional comment stands between `[if` and `]`. -/
inductive MarkupPiece where
  | plain : (text : Text) → MarkupPiece
  | comment : (inside : Text) → MarkupPiece
  | hidden : (condition body : Text) → MarkupPiece
  | revealed : (condition body : Text) → MarkupPiece
  deriving DecidableEq, Repr

def Bare (s : Text) : Prop := ¬ opener <:+: s ∧ ¬ closer <:+: s

instance (s : Text) : Decidable (Bare s) := inferInstanceAs (Decidable (_ ∧ _))

def ifMarker (condition : Text) : Text := opener ++ ("[if".toList ++ (condition ++ "]>".toList))

namespace MarkupPiece

def text : MarkupPiece → Text
  | .plain text => text
  | .comment inside => opener ++ (inside ++ closer)
  | .hidden condition body => ifMarker condition ++ (body ++ ("<![endif]".toList ++ closer))
  | .revealed condition body =>
    ifMarker condition ++
      (opener ++ ('>' :: (body ++ (opener ++ ("<![endif]".toList ++ closer)))))

def uncommented : MarkupPiece → Text
  | .comment _ => []
  | piece => piece.text

/-- What the search for comments leaves. -/
def left : MarkupPiece → Text
  | .comment _ => []
  | .revealed condition _ => ifMarker condition
  | piece => piece.text

def IsRevealed : MarkupPiece → Prop
  | .revealed _ _ => True
  | _ => False

instance : DecidablePred IsRevealed
  | .revealed _ _ => isTrue trivial
  | .plain _ | .comment _ | .hidden _ _ => isFalse id

/-- Comments are not nested, and a blank stands in front of each condition. -/
def WellFormed : MarkupPiece → Prop
  | .plain text => Bare text
  | .comment inside => Bare inside ∧ ¬ isConditional inside
  | .hidden condition body | .revealed condition body =>
    condition.head?.any isBlank ∧ Bare condition ∧ Bare body

instance : DecidablePred WellFormed
  | .plain _ => inferInstanceAs (Decidable (Bare _))
  | .comment _ => inferInstanceAs (Decidable (_ ∧ _))
  | .hidden _ _ | .revealed _ _ => inferInstanceAs (Decidable (_ ∧ _ ∧ _))

end MarkupPiece

open MarkupPiece

/-- The pieces are well-formed, and so is the plain text that neighbours form together;
`before` is the plain text in front of them. -/
def Unambiguous (before : Text) : List MarkupPiece → Prop
  | [] => Bare before
  | .plain text :: pieces => Unambiguous (before ++ text) pieces
  | piece :: pieces => Bare before ∧ piece.WellFormed ∧ Unambiguous [] pieces

def Unambiguous.decide : (before : Text) → (pieces : List MarkupPiece) →
    Decidable (Unambiguous before pieces)
  | before, [] => inferInstanceAs (Decidable (Bare before))
  | before, .plain text :: pieces => Unambiguous.decide (before ++ text) pieces
  | before, .comment _ :: pieces
  | before, .hidden _ _ :: pieces
  | before, .revealed _ _ :: pieces =>
    have := Unambiguous.decide [] pieces
    inferInstanceAs (Decidable (Bare before ∧ _ ∧ Unambiguous [] pieces))

instance (before : Text) (pieces : List MarkupPiece) : Decidable (Unambiguous before pieces) :=
  Unambiguous.decide before pieces

variable {s t rest body inside condition before : Text} {piece : MarkupPiece}
  {pieces : List MarkupPiece}

/-! ## One piece at the front -/

theorem erase_of_notMem (other : '<' ∉ t) : markup.erase (t ++ s) = t ++ markup.erase s := by
  refine Reader.replace_passes _ (Reader.passes_of_unread fun part tail some_part => ?_)
  obtain ⟨c, part, rfl⟩ := List.exists_cons_of_ne_nil some_part
  have differs : '<' ≠ c := fun same => other (same ▸ tail.subset List.mem_cons_self)
  exact markup_read_eq_none (by simp [opener, Text.after?, differs])

theorem not_completes_opener (other : ∀ c ∈ s.head?, c ∉ ['!', '-', '-']) :
    ¬ Text.Completes opener s :=
  Text.not_completes_of_head other

theorem after?_append_closer {marker : Text} (dashless : '-' ∉ marker)
    (found : Text.after? marker (t ++ (closer ++ s)) = some rest) :
    ∃ r, rest = r ++ (closer ++ s) ∧ Text.after? marker t = some r := by
  rcases List.append_eq_append_iff.mp (Text.after?_eq_some.mp found) with
    ⟨back, rfl, behind⟩ | ⟨back, rfl, rfl⟩
  · cases back with
    | nil => exact ⟨[], behind.symm, Text.after?_eq_some.mpr (by simp)⟩
    | cons c back =>
      have same : '-' :: '-' :: '>' :: s = c :: (back ++ rest) := behind
      obtain ⟨rfl, -⟩ := List.cons.inj same
      exact absurd (by simp) dashless
  · exact ⟨back, rfl, Text.after?_eq_some.mpr rfl⟩

theorem isConditional_append_closer (conditional : isConditional (inside ++ (closer ++ s))) :
    isConditional inside := by
  rw [isConditional_iff] at conditional ⊢
  rcases conditional with ⟨rest, found⟩ | ⟨rest, found, blank⟩
  · obtain ⟨r, -, within⟩ := after?_append_closer (by decide) found
    exact .inl ⟨r, within⟩
  · obtain ⟨r, rfl, within⟩ := after?_append_closer (by decide) found
    refine .inr ⟨r, within, ?_⟩
    cases r with
    | nil => exact absurd blank (by simp [closer]; decide)
    | cons c r => exact blank

theorem erase_comment (bare : Bare inside) (plain : ¬ isConditional inside) (s : Text) :
    markup.erase (opener ++ (inside ++ closer) ++ s) = markup.erase s := by
  have closed : Text.cut? closer (inside ++ (closer ++ s)) = some (inside, s) :=
    Text.cut?_at_marker bare.2 (Text.not_completes_marker (by decide) s)
  refine markup.erase_some (a := inside) (markup_read_eq_some.mpr ?_)
  exact ⟨inside ++ (closer ++ s), by simp, mt isConditional_append_closer plain, closed⟩

theorem erase_ifMarker (blank : condition.head?.any isBlank) (bare : Bare condition) (s : Text) :
    markup.erase (ifMarker condition ++ s) = ifMarker condition ++ markup.erase s := by
  obtain ⟨c, condition, rfl⟩ : ∃ c r, condition = c :: r := by
    cases condition with
    | nil => simp at blank
    | cons c r => exact ⟨c, r, rfl⟩
  have marker : isConditional ("[if".toList ++ (c :: condition ++ ("]>".toList ++ s))) :=
    isConditional_iff.mpr (.inr ⟨_, Text.after?_eq_some.mpr rfl, blank⟩)
  calc markup.erase (ifMarker (c :: condition) ++ s)
      = markup.erase (opener ++ ("[if".toList ++ (c :: condition ++ ("]>".toList ++ s)))) := by
        simp [ifMarker]
    _ = '<' :: markup.erase ("!--[if".toList ++ (c :: condition ++ ("]>".toList ++ s))) :=
        (erase_conditional marker).symm
    _ = "<!--[if".toList ++ markup.erase (c :: condition ++ ("]>".toList ++ s)) := by
        rw [erase_of_notMem (by decide)]
        rfl
    _ = "<!--[if".toList ++ (c :: condition ++ ("]>".toList ++ markup.erase s)) := by
        rw [erase_plain bare.1 (not_completes_opener (by simp)), erase_of_notMem (by decide)]
    _ = ifMarker (c :: condition) ++ markup.erase s := by simp [ifMarker, opener]

theorem erase_hidden (bare : Bare body) (s : Text) :
    markup.erase (body ++ ("<![endif]".toList ++ closer) ++ s) =
      body ++ ("<![endif]".toList ++ closer) ++ markup.erase s := by
  have marker : markup.read ('<' :: ("![endif]-->".toList ++ s)) = none :=
    markup_read_eq_none rfl
  calc markup.erase (body ++ ("<![endif]".toList ++ closer) ++ s)
      = markup.erase (body ++ ('<' :: ("![endif]-->".toList ++ s))) := by simp [closer]
    _ = body ++ markup.erase ('<' :: ("![endif]-->".toList ++ s)) :=
        erase_plain bare.1 (not_completes_opener (by simp))
    _ = body ++ '<' :: markup.erase ("![endif]-->".toList ++ s) := by rw [markup.erase_none marker]
    _ = body ++ '<' :: ("![endif]-->".toList ++ markup.erase s) := by
        rw [erase_of_notMem (by decide)]
    _ = body ++ ("<![endif]".toList ++ closer) ++ markup.erase s := by simp [closer]

theorem erase_revealed (bare : Bare body) (s : Text) :
    markup.erase (opener ++ ('>' :: (body ++ (opener ++ ("<![endif]".toList ++ closer)))) ++ s) =
      markup.erase s := by
  have marker : Text.cut? closer ("<!--<![endif]".toList ++ (closer ++ s)) =
      some ("<!--<![endif]".toList, s) :=
    Text.cut?_at_marker (by decide) (Text.not_completes_marker (by decide) s)
  have further : Text.cut? closer (body ++ ("<!--<![endif]".toList ++ (closer ++ s))) =
      some (body ++ "<!--<![endif]".toList, s) := by
    rw [Text.cut?_append bare.2 (Text.not_completes_of_head (by simp; decide)), marker]
    rfl
  have closed : Text.cut? closer ('>' :: (body ++ ("<!--<![endif]".toList ++ (closer ++ s)))) =
      some ('>' :: (body ++ "<!--<![endif]".toList), s) := by
    rw [Text.cut?] at further
    rw [Text.cut?, Text.cutAt?, further]
    rfl
  refine markup.erase_some (a := '>' :: (body ++ "<!--<![endif]".toList))
    (markup_read_eq_some.mpr ⟨_, List.append_assoc _ _ _, ?_, ?_⟩)
  · intro conditional
    rcases isConditional_iff.mp conditional with ⟨_, found⟩ | ⟨_, found, -⟩ <;> cases found
  · simpa [opener] using closed

theorem not_completes_text (notPlain : ∀ t, piece ≠ .plain t) :
    ¬ Text.Completes opener (piece.text ++ s) := by
  refine not_completes_opener ?_
  cases piece with
  | plain t => exact absurd rfl (notPlain t)
  | comment | hidden | revealed => simp [text, ifMarker, opener]

theorem erase_piece (notPlain : ∀ t, piece ≠ .plain t) (wellFormed : piece.WellFormed) (s : Text) :
    markup.erase (piece.text ++ s) = piece.left ++ markup.erase s := by
  cases piece with
  | plain t => exact absurd rfl (notPlain t)
  | comment inside => exact erase_comment wellFormed.1 wellFormed.2 s
  | hidden condition body =>
    obtain ⟨blank, ifBare, bare⟩ := wellFormed
    rw [text, List.append_assoc, erase_ifMarker blank ifBare, erase_hidden bare,
      ← List.append_assoc]
    rfl
  | revealed condition body =>
    obtain ⟨blank, ifBare, bare⟩ := wellFormed
    rw [text, List.append_assoc, erase_ifMarker blank ifBare, erase_revealed bare, left]

/-! ## All pieces -/

theorem unambiguous_cons (notPlain : ∀ t, piece ≠ .plain t) :
    Unambiguous before (piece :: pieces) ↔
      Bare before ∧ piece.WellFormed ∧ Unambiguous [] pieces := by
  cases piece with
  | plain t => exact absurd rfl (notPlain t)
  | comment | hidden | revealed => rfl

theorem erase_pieces (unambiguous : Unambiguous before pieces) :
    markup.erase (before ++ pieces.flatMap text) = before ++ pieces.flatMap left := by
  induction pieces generalizing before with
  | nil => simpa using erase_unopened unambiguous.1
  | cons piece pieces ih =>
    by_cases plain : ∃ t, piece = .plain t
    · -- Plain text is read together with the plain text in front of it.
      obtain ⟨t, rfl⟩ := plain
      have joined : Unambiguous (before ++ t) pieces := unambiguous
      simpa [text, left] using ih joined
    · have notPlain := not_exists.mp plain
      obtain ⟨bare, wellFormed, further⟩ := (unambiguous_cons notPlain).mp unambiguous
      have onward := ih further
      rw [List.nil_append, List.nil_append] at onward
      rw [List.flatMap_cons, erase_plain bare.1 (not_completes_text notPlain),
        erase_piece notPlain wellFormed, onward, List.flatMap_cons]

theorem left_eq_uncommented_iff : piece.left = piece.uncommented ↔ ¬ piece.IsRevealed := by
  cases piece <;> simp [left, uncommented, text, IsRevealed, opener]

theorem length_left_le (piece : MarkupPiece) : piece.left.length ≤ piece.uncommented.length := by
  cases piece <;> simp [left, uncommented, text]

theorem length_flatMap_left_le (pieces : List MarkupPiece) :
    (pieces.flatMap left).length ≤ (pieces.flatMap uncommented).length := by
  induction pieces with
  | nil => rfl
  | cons piece pieces ih =>
    rw [List.flatMap_cons, List.flatMap_cons, List.length_append, List.length_append]
    exact Nat.add_le_add (length_left_le piece) ih

theorem flatMap_left_eq_iff :
    pieces.flatMap left = pieces.flatMap uncommented ↔ ∀ piece ∈ pieces, ¬ piece.IsRevealed := by
  induction pieces with
  | nil => simp
  | cons piece pieces ih =>
    rw [List.flatMap_cons, List.flatMap_cons, List.forall_mem_cons, ← ih,
      ← left_eq_uncommented_iff]
    constructor
    · intro same
      -- No piece leaves more than it should, so each leaves as much.
      have lengths := congrArg List.length same
      rw [List.length_append, List.length_append] at lengths
      have first := length_left_le piece
      have others := length_flatMap_left_le pieces
      exact List.append_inj same (by omega)
    · rintro ⟨first, others⟩
      rw [first, others]

/-- Of markup with conditional comments the comments are removed, and of a revealed
conditional comment everything behind the marker of its condition. So exactly the
markup without revealed conditional comments keeps everything but its comments. -/
theorem removeComments_pieces (pieces : List MarkupPiece) (unambiguous : Unambiguous [] pieces) :
    removeComments .html (pieces.flatMap text) = pieces.flatMap left ∧
    (removeComments .html (pieces.flatMap text) = pieces.flatMap uncommented ↔
      ∀ piece ∈ pieces, ¬ piece.IsRevealed) := by
  have erased : removeComments .html (pieces.flatMap text) = pieces.flatMap left :=
    (eraseMarkup_eq _).trans (erase_pieces unambiguous)
  exact ⟨erased, erased ▸ flatMap_left_eq_iff⟩

theorem removeComments_pieces_page :
    let pieces : List MarkupPiece := [.plain "<p>".toList, .comment " c ".toList,
      .hidden " IE".toList "<p>".toList, .revealed " !IE".toList "<b>x</b>".toList,
      .plain "</p>".toList]
    Unambiguous [] pieces ∧
    removeComments .html (pieces.flatMap text) =
      "<p><!--[if IE]><p><![endif]--><!--[if !IE]></p>".toList ∧
    removeComments .html (pieces.flatMap text) ≠ pieces.flatMap uncommented := by
  have unambiguous : Unambiguous [] [.plain "<p>".toList, .comment " c ".toList,
      .hidden " IE".toList "<p>".toList, .revealed " !IE".toList "<b>x</b>".toList,
      .plain "</p>".toList] := by
    decide +kernel
  obtain ⟨erased, asWritten⟩ := removeComments_pieces _ unambiguous
  refine ⟨unambiguous, erased.trans (by decide +kernel), mt asWritten.mp (by decide +kernel)⟩

/-- What a revealed conditional comment guards is lost, and the marker of its end with it. -/
theorem removeComments_revealed :
    let piece : MarkupPiece := .revealed " !IE".toList "<p>x</p>".toList
    piece.text = "<!--[if !IE]><!--><p>x</p><!--<![endif]-->".toList ∧
    Unambiguous [] [piece] ∧
    removeComments .html piece.text = "<!--[if !IE]>".toList ∧
    removeComments .html piece.text ≠ piece.uncommented := by
  decide +kernel

end Snippet.Comment
