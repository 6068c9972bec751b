import Snippet.Proofs.Layout.Tags

/-! Indentation mirrors nesting.

The layout of markup knows no elements, only one depth that is changed by tags. On markup
that comes from a forest of elements that depth is the number of block elements around a
place: the walk over the forest keeps it, since each element gives back the depth at which
it was entered.
-/

set_option autoImplicit false

namespace Snippet

variable {s : Text} {more : List (Segment Text)}

namespace Layout

/-! ## Forests -/

structure TagHead where
  name : Text
  attributes : Text
  some_name : name ≠ []
  letters : name.all Char.isAlphanum
  spaced : attributes.head?.all (· == ' ')
  plain : attributes.all (!isAngle ·)

namespace TagHead

def opening (head : TagHead) : Text := '<' :: (head.name ++ head.attributes ++ ['>'])

def closing (head : TagHead) : Text := '<' :: '/' :: (head.name ++ ['>'])

def BeginsBlock (head : TagHead) : Prop := ∃ block ∈ blockNames, block <+: head.name

instance (head : TagHead) : Decidable head.BeginsBlock :=
  inferInstanceAs (Decidable (∃ block ∈ blockNames, block <+: head.name))

end TagHead

/-- A tag without content, whose name does not begin like that of a block. -/
structure VoidTag extends TagHead where
  not_beginsBlock : ¬ toTagHead.BeginsBlock

/-- The tags of an element. A name that begins like that of a block is one. -/
structure ElementTag extends TagHead where
  isBlock_of_beginsBlock : toTagHead.BeginsBlock → name ∈ blockNames

def ElementTag.depthInside (tag : ElementTag) (depth : Nat) : Nat :=
  if tag.name ∈ blockNames then depth + 1 else depth

structure Content where
  text : Text
  plain : text.all (!isAngle ·)

def line (depth : Nat) (tag : Text) : Text := List.replicate (2 * depth) ' ' ++ tag ++ ['\n']

/-- Nodes side by side: a first one, if there is any, and those behind it. -/
inductive Forest where
  | nil
  | text (content : Content) (rest : Forest)
  | void (tag : VoidTag) (rest : Forest)
  | element (tag : ElementTag) (children rest : Forest)

namespace Forest

def beginsWithText : Forest → Bool
  | text _ _ => true
  | _ => false

def isParted : Forest → Bool
  | nil => true
  | text _ rest => !rest.beginsWithText && rest.isParted
  | void _ rest => rest.isParted
  | element _ children rest => children.isParted && rest.isParted

def render : Forest → Text
  | nil => []
  | text content rest => content.text ++ rest.render
  | void tag rest => tag.opening ++ rest.render
  | element tag children rest => tag.opening ++ children.render ++ tag.closing ++ rest.render

/-- A tag comes first, or nothing does where a tag stands behind. -/
def facesTag (beforeTag : Bool) : Forest → Bool
  | nil => beforeTag
  | text _ _ => false
  | void _ _ | element _ _ _ => true

/-- Each tag gets a line at the depth of its element, blank text between two tags is dropped, and
all other text stays. What stands directly around the forest is a tag or is none. -/
def lines (depth : Nat) (behindTag beforeTag : Bool) : Forest → Text
  | nil => []
  | text content rest =>
    (if behindTag && content.text.allBlank && rest.facesTag beforeTag then [] else content.text) ++
      rest.lines depth false beforeTag
  | void tag rest => line depth tag.opening ++ rest.lines depth true beforeTag
  | element tag children rest =>
    line depth tag.opening ++ children.lines (tag.depthInside depth) true true ++
      line depth tag.closing ++ rest.lines depth true beforeTag

def pieces : Forest → List (Segment Text)
  | nil => []
  | text content rest => content.text.map .plain ++ rest.pieces
  | void tag rest => .found tag.opening :: rest.pieces
  | element tag children rest =>
    .found tag.opening :: (children.pieces ++ .found tag.closing :: rest.pieces)

end Forest

/-! ## Tags of a forest -/

theorem isPrefix_of_stop {part front rest : Text} {stop : Char} (out : stop ∉ part)
    (first : part <+: front ++ stop :: rest) : part <+: front := by
  obtain ⟨tail, whole⟩ := first
  rcases List.append_eq_append_iff.mp whole with ⟨beyond, same, -⟩ | ⟨beyond, same, behind⟩
  · exact ⟨beyond, same.symm⟩
  · cases beyond with
    | nil => exact ⟨[], by simpa using same⟩
    | cons c beyond =>
      obtain ⟨rfl, -⟩ := List.cons.inj behind
      exact absurd (by simp [same]) out

namespace TagHead

variable (head : TagHead)

theorem isAngle_of_letter {c : Char} (member : c ∈ head.name) : isAngle c = false := by
  have letter := List.all_eq_true.mp head.letters c member
  rw [isAngle_eq_false]
  constructor
  · rintro rfl
    exact absurd letter (by decide)
  · rintro rfl
    exact absurd letter (by decide)

theorem isTag_opening : IsTag head.opening := by
  refine ⟨head.name ++ head.attributes, rfl, by simp [head.some_name], fun c member => ?_⟩
  rcases List.mem_append.mp member with inName | behind
  · exact head.isAngle_of_letter inName
  · simpa using List.all_eq_true.mp head.plain c behind

theorem isTag_closing : IsTag head.closing := by
  refine ⟨'/' :: head.name, rfl, by simp, List.forall_mem_cons.mpr ⟨by decide, ?_⟩⟩
  exact fun c => head.isAngle_of_letter

theorem slash_not_prefix {r : Text} : ¬ '/' :: r <+: head.name ++ s := by
  obtain ⟨c, others, whole⟩ := List.exists_cons_of_ne_nil head.some_name
  rw [whole, List.cons_append, List.cons_prefix_cons]
  rintro ⟨rfl, -⟩
  exact absurd (List.all_eq_true.mp head.letters '/' (by simp [whole])) (by decide)

theorem closesBlock_opening : closesBlock head.opening = false := by
  by_contra closes
  obtain ⟨name, -, same⟩ := head.isTag_opening.closesBlock_iff.mp (by simpa using closes)
  have front : '/' :: (name ++ ['>']) <+: head.name ++ (head.attributes ++ ['>']) := by
    rw [← List.append_assoc, (List.cons.inj same).2]
  exact head.slash_not_prefix front

theorem attributes_stop :
    ∃ c rest, head.attributes ++ ['>'] = c :: rest ∧ (c = ' ' ∨ c = '>') := by
  cases first : head.attributes with
  | nil => exact ⟨'>', [], rfl, .inr rfl⟩
  | cons c attributes =>
    have space := head.spaced
    rw [first] at space
    exact ⟨c, attributes ++ ['>'], rfl, .inl (by simpa using space)⟩

theorem opensBlock_opening : opensBlock head.opening ↔ head.BeginsBlock := by
  rw [head.isTag_opening.opensBlock_iff, BeginsBlock]
  refine exists_congr fun block => and_congr_right fun member => ?_
  obtain ⟨c, rest, stops, stop⟩ := head.attributes_stop
  rw [opening, List.cons_prefix_cons, List.append_assoc, stops]
  have letters : ∀ block ∈ blockNames, ' ' ∉ block ∧ '>' ∉ block := by decide
  have out : c ∉ block := by
    obtain ⟨noSpace, noBracket⟩ := letters block member
    rcases stop with rfl | rfl
    · exact noSpace
    · exact noBracket
  exact ⟨fun front => isPrefix_of_stop out front.2,
    fun front => ⟨rfl, front.trans (List.prefix_append _ _)⟩⟩

theorem closesBlock_closing : closesBlock head.closing ↔ head.name ∈ blockNames := by
  rw [head.isTag_closing.closesBlock_iff, closing]
  constructor
  · rintro ⟨name, member, same⟩
    have parts : head.name ++ ['>'] = name ++ ['>'] := by simpa using same
    rwa [List.append_cancel_right parts]
  · exact fun member => ⟨head.name, member, rfl⟩

theorem opensBlock_closing : opensBlock head.closing = false := by
  by_contra opens
  obtain ⟨name, member, front⟩ := head.isTag_closing.opensBlock_iff.mp (by simpa using opens)
  rw [closing, List.cons_prefix_cons] at front
  have letters : ∀ name ∈ blockNames, name ≠ [] ∧ '/' ∉ name := by decide
  obtain ⟨some_name, noSlash⟩ := letters name member
  have none : name <+: [] := isPrefix_of_stop noSlash front.2
  exact some_name (List.prefix_nil.mp none)

end TagHead

namespace VoidTag

variable (tag : VoidTag) (depth : Nat)

theorem tagLine_opening : tagLine depth tag.opening = (line depth tag.opening, depth) := by
  have opens : opensBlock tag.opening = false := by
    simpa [← tag.opensBlock_opening] using tag.not_beginsBlock
  simp [tagLine, line, indentation, tag.closesBlock_opening, opens]

end VoidTag

namespace ElementTag

variable (tag : ElementTag) (depth : Nat)

theorem beginsBlock_iff : tag.BeginsBlock ↔ tag.name ∈ blockNames :=
  ⟨tag.isBlock_of_beginsBlock, fun member => ⟨tag.name, member, List.prefix_rfl⟩⟩

theorem tagLine_opening :
    tagLine depth tag.opening = (line depth tag.opening, tag.depthInside depth) := by
  simp [tagLine, line, indentation, tag.closesBlock_opening, tag.opensBlock_opening,
    beginsBlock_iff, depthInside]

theorem tagLine_closing :
    tagLine (tag.depthInside depth) tag.closing = (line depth tag.closing, depth) := by
  have own : (if closesBlock tag.closing then tag.depthInside depth - 1 else tag.depthInside depth) =
      depth := by
    simp only [tag.closesBlock_closing, depthInside]
    split <;> rfl
  simp [tagLine, line, indentation, own, tag.opensBlock_closing]

end ElementTag

/-! ## Gaps of a forest -/

theorem leadsToTag_plains (s : Text) (more : List (Segment Text)) :
    leadsToTag (s.map .plain ++ more) = (s.allBlank && leadsToTag more) := by
  induction s with
  | nil => rfl
  | cons c s ih => simp [leadsToTag, ih, Text.allBlank, Bool.and_assoc]

theorem closeUp_of_not_leadsToTag (stays : ¬ leadsToTag more) (behindTag : Bool) :
    closeUp behindTag more = closeUp false more := by
  cases more with
  | nil => rfl
  | cons piece more =>
    cases piece with
    | plain c => simp [closeUp, stays]
    | found tag => exact absurd rfl stays

theorem closeUp_plains (behindTag : Bool) (s : Text) (more : List (Segment Text)) :
    closeUp behindTag (s.map .plain ++ more) =
      if behindTag && s.allBlank && leadsToTag more then closeUp true more
      else s.map .plain ++ closeUp false more := by
  induction s generalizing behindTag with
  | nil =>
    cases behindTag with
    | false => rfl
    | true =>
      by_cases leads : leadsToTag more
      · simp [leads, Text.allBlank]
      · simpa [leads] using closeUp_of_not_leadsToTag leads true
  | cons c s ih =>
    rw [List.map_cons, List.cons_append, closeUp, ← List.cons_append, ← List.map_cons,
      leadsToTag_plains, Bool.and_assoc]
    split
    · next gap =>
      have others : Text.allBlank s && leadsToTag more := by simp_all [Text.allBlank]
      rw [ih, Bool.true_and, if_pos others]
    · rw [ih, Bool.false_and, Bool.false_and]
      rfl

theorem renderWith_found {depth next : Nat} {tag text : Text}
    (step : tagLine depth tag = (text, next)) (more : List (Segment Text)) :
    Segment.renderWith tagLine depth (.found tag :: more) =
      text ++ Segment.renderWith tagLine next more := by
  rw [Segment.renderWith, step]

theorem renderWith_plains (depth : Nat) (s : Text) (more : List (Segment Text)) :
    Segment.renderWith tagLine depth (s.map .plain ++ more) =
      s ++ Segment.renderWith tagLine depth more := by
  induction s with
  | nil => rfl
  | cons c s ih => exact congrArg (c :: ·) ih

theorem markup_append (pieces others : List (Segment Text)) :
    markup (pieces ++ others) = markup pieces ++ markup others :=
  List.flatMap_append

theorem markup_plains (s : Text) : markup (s.map .plain) = s := by
  induction s with
  | nil => rfl
  | cons c s ih => exact congrArg (c :: ·) ih

/-! ## Layout of a forest -/

namespace Forest

theorem isPiece_of_mem_plains (content : Content) {piece : Segment Text}
    (member : piece ∈ content.text.map Segment.plain) : IsPiece piece := by
  obtain ⟨c, inText, rfl⟩ := List.mem_map.mp member
  simpa [IsPiece] using List.all_eq_true.mp content.plain c inText

theorem isPiece_of_mem_pieces (forest : Forest) : ∀ piece ∈ forest.pieces, IsPiece piece := by
  induction forest with
  | nil => simp [pieces]
  | text content rest ih =>
    exact List.forall_mem_append.mpr ⟨fun _ => isPiece_of_mem_plains content, ih⟩
  | void tag rest ih => exact List.forall_mem_cons.mpr ⟨tag.isTag_opening, ih⟩
  | element tag children rest inside behind =>
    exact List.forall_mem_cons.mpr ⟨tag.isTag_opening,
      List.forall_mem_append.mpr ⟨inside, List.forall_mem_cons.mpr ⟨tag.isTag_closing, behind⟩⟩⟩

theorem markup_pieces (forest : Forest) : markup forest.pieces = forest.render := by
  induction forest with
  | nil => rfl
  | text content rest ih => rw [pieces, markup_append, markup_plains, ih, render]
  | void tag rest ih => rw [pieces, markup_found, ih, render]
  | element tag children rest inside behind =>
    rw [pieces, markup_found, markup_append, inside, markup_found, behind, render]
    simp only [List.append_assoc]

/-- Whether a tag comes first does not depend on blank text, since there is none. -/
theorem leadsToTag_pieces {forest : Forest} (apart : forest.beginsWithText = false)
    (more : List (Segment Text)) :
    leadsToTag (forest.pieces ++ more) = forest.facesTag (leadsToTag more) := by
  cases forest with
  | text content rest => exact absurd apart Bool.noConfusion
  | _ => rfl

theorem lines_of_apart {forest : Forest} (apart : forest.beginsWithText = false)
    (depth : Nat) (behindTag beforeTag : Bool) :
    forest.lines depth behindTag beforeTag = forest.lines depth false beforeTag := by
  cases forest with
  | text content rest => exact absurd apart Bool.noConfusion
  | _ => rfl

/-- The walk over a forest gives its lines and comes back to the depth it was entered at. -/
theorem renderWith_closeUp_pieces {forest : Forest} (parted : forest.isParted)
    (more : List (Segment Text)) (depth : Nat) (behindTag : Bool)
    (edge : ∀ behind, closeUp behind more = closeUp false more) :
    Segment.renderWith tagLine depth (closeUp behindTag (forest.pieces ++ more)) =
      forest.lines depth behindTag (leadsToTag more) ++
        Segment.renderWith tagLine depth (closeUp false more) := by
  induction forest generalizing more depth behindTag with
  | nil => rw [pieces, List.nil_append, edge, lines, List.nil_append]
  | text content rest ih =>
    obtain ⟨apart, parted⟩ : rest.beginsWithText = false ∧ rest.isParted := by
      simpa [isParted] using parted
    rw [pieces, List.append_assoc, closeUp_plains, leadsToTag_pieces apart, lines]
    split
    · rw [ih parted _ depth true edge, lines_of_apart apart, List.nil_append]
    · rw [renderWith_plains, ih parted _ depth false edge, List.append_assoc]
  | void tag rest ih =>
    rw [pieces, List.cons_append, closeUp, renderWith_found (tag.tagLine_opening depth),
      ih parted _ depth true edge, lines, List.append_assoc]
  | element tag children rest inside behind =>
    obtain ⟨within, after⟩ : children.isParted ∧ rest.isParted := by
      simpa [isParted] using parted
    have closer := inside within (.found tag.closing :: (rest.pieces ++ more))
      (tag.depthInside depth) true fun _ => rfl
    rw [closeUp, renderWith_found (tag.tagLine_closing depth), behind after _ depth true edge]
      at closer
    rw [pieces, List.cons_append, closeUp, renderWith_found (tag.tagLine_opening depth),
      List.append_assoc, List.cons_append, closer, lines, leadsToTag]
    simp only [List.append_assoc]

end Forest

/-- Layout of the markup of a forest indents every tag by the number of blocks around it. -/
theorem layOutMarkup_render (forest : Forest) (parted : forest.isParted) :
    layOutMarkup forest.render = (forest.lines 0 false false).trim := by
  have walk := Forest.renderWith_closeUp_pieces parted [] 0 false fun _ => rfl
  simp only [List.append_nil, closeUp, Segment.renderWith, leadsToTag] at walk
  rw [← forest.markup_pieces, layOutMarkup_markup forest.isPiece_of_mem_pieces, walk]

def Forest.menu : Forest :=
  let body : ElementTag := ⟨⟨"body".toList, " id='a'".toList, by decide, by decide, by decide,
    by decide⟩, by decide⟩
  let list : ElementTag := ⟨⟨"ul".toList, [], by decide, by decide, by decide, by decide⟩,
    by decide⟩
  let item : ElementTag := ⟨⟨"li".toList, [], by decide, by decide, by decide, by decide⟩,
    by decide⟩
  let lineBreak : VoidTag := ⟨⟨"br".toList, " /".toList, by decide, by decide, by decide,
    by decide⟩, by decide⟩
  let text (s : Text) (plain : s.all (!isAngle ·)) (rest : Forest) : Forest :=
    .text ⟨s, plain⟩ rest
  .element body
    (text "\n".toList (by decide)
      (.element list
        (text " ".toList (by decide)
          (.element item (text "one".toList (by decide) .nil)
            (text " ".toList (by decide) (.void lineBreak .nil))))
        (text " end ".toList (by decide) .nil)))
    .nil

theorem layOutMarkup_render_menu : Forest.menu.isParted ∧
    Forest.menu.render = "<body id='a'>\n<ul> <li>one</li> <br /></ul> end </body>".toList ∧
    layOutMarkup Forest.menu.render = ("<body id='a'>\n  <ul>\n    <li>\none    </li>\n" ++
      "    <br />\n  </ul>\n end </body>").toList :=
  ⟨by decide, by decide, (layOutMarkup_render Forest.menu (by decide)).trans (by decide +kernel)⟩

end Layout

end Snippet
