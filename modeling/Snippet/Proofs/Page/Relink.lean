import Snippet.Proofs.FileName
import Snippet.Proofs.Page.Reference

/-! References changed to other files.

Changing the names in a finished page is compared with inserting references to these
files at once. Names hold no angle and no quote, so that elements begin and end where
they did; what remains is the text of the inserted link where the page had it already.
-/

set_option autoImplicit false

namespace Snippet

variable {old new s t rest : Text} {c : Char}

namespace Text

/-! ## Replacing one text -/

theorem eq_of_append_cons {front other : Text} (absent : c ∉ front) (absentOther : c ∉ other)
    (same : front ++ c :: s = other ++ c :: t) : front = other ∧ s = t := by
  induction front generalizing other with
  | nil =>
    cases other with
    | nil => exact ⟨rfl, (List.cons.inj same).2⟩
    | cons d other => exact absurd (by simp [(List.cons.inj same).1]) absentOther
  | cons d front ih =>
    cases other with
    | nil => exact absurd (by simp [← (List.cons.inj same).1]) absent
    | cons e other =>
      obtain ⟨rfl, further⟩ := List.cons.inj same
      simp only [List.mem_cons, not_or] at absent absentOther
      obtain ⟨rfl, rest⟩ := ih absent.2 absentOther.2 further
      exact ⟨rfl, rest⟩

@[simp] theorem replaceAll_nil (old new : Text) : replaceAll old new [] = [] := by
  cases old <;> simp [replaceAll]

theorem replaceAll_found (some_old : old ≠ []) (new s : Text) :
    replaceAll old new (old ++ s) = new ++ replaceAll old new s := by
  obtain ⟨first, others, rfl⟩ := List.exists_cons_of_ne_nil some_old
  have found : (Reader.literal first others).read (first :: others ++ s) = some ((), s) := by
    simp [Reader.literal, after?_eq_some]
  exact Reader.replace_some _ _ found

theorem replaceAll_kept (some_old : old ≠ []) (apart : ¬ old <+: c :: s) :
    replaceAll old new (c :: s) = c :: replaceAll old new s := by
  obtain ⟨first, others, rfl⟩ := List.exists_cons_of_ne_nil some_old
  refine Reader.replace_none _ _ ?_
  rw [Reader.literal, Option.map_eq_none_iff, Option.eq_none_iff_forall_not_mem]
  intro rest found
  exact apart ⟨rest, (after?_eq_some.mp found).symm⟩

@[elab_as_elim]
theorem scan_occurrence_induction {α : Type} (reader : Reader α) (some_old : old ≠ [])
    {motive : Text → Prop} (s : Text) (done : motive [])
    (keep : ∀ c r, reader.read (c :: r) = none → ¬ old <+: c :: r → motive r → motive (c :: r))
    (found : ∀ r, reader.read (old ++ r) = none → motive r → motive (old ++ r))
    (take : ∀ s a rest, reader.read s = some (a, rest) → motive rest → motive s) : motive s := by
  obtain ⟨n, size⟩ : ∃ n, s.length ≤ n := ⟨s.length, Nat.le_refl _⟩
  induction n generalizing s with
  | zero => rwa [List.length_eq_zero_iff.mp (Nat.le_zero.mp size)]
  | succ n ih =>
    cases s with
    | nil => exact done
    | cons c r =>
      cases accepted : reader.read (c :: r) with
      | some part =>
        have shrinks := reader.shorter accepted
        exact take _ part.1 part.2 accepted (ih _ (by omega))
      | none =>
        by_cases here : old <+: c :: r
        · obtain ⟨r, same⟩ := here
          have positive := List.length_pos_iff.mpr some_old
          have lengths := congrArg List.length same
          rw [← same] at accepted ⊢
          simp only [List.length_append, List.length_cons] at lengths size
          exact found r accepted (ih r (by omega))
        · exact keep c r accepted here (ih r (Nat.le_of_succ_le_succ size))

@[elab_as_elim]
theorem occurrence_induction (some_old : old ≠ []) {motive : Text → Prop} (s : Text)
    (done : motive [])
    (keep : ∀ c r, ¬ old <+: c :: r → motive r → motive (c :: r))
    (found : ∀ r, motive r → motive (old ++ r)) : motive s :=
  scan_occurrence_induction ⟨fun _ => (none : Option (Unit × Text)), by simp⟩ some_old s done
    (fun c r _ => keep c r) (fun r _ => found r) (by simp)

theorem replaceAll_eq_self (some_old : old ≠ []) (absent : ¬ old <:+: s) :
    replaceAll old new s = s := by
  induction s with
  | nil => simp
  | cons c r ih =>
    rw [replaceAll_kept some_old fun first => absent first.isInfix,
      ih fun inside => absent (inside.trans (List.suffix_cons c r).isInfix)]

theorem replaceAll_self (some_old : old ≠ []) (s : Text) : replaceAll old old s = s := by
  induction s using occurrence_induction some_old with
  | done => simp
  | keep c r apart ih => rw [replaceAll_kept some_old apart, ih]
  | found r ih => rw [replaceAll_found some_old, ih]

theorem allBlank_of_replaceAll (some_old : old ≠ []) (visible : ¬ allBlank new)
    (blank : allBlank (replaceAll old new s)) : allBlank s := by
  induction s using occurrence_induction some_old with
  | done => rfl
  | keep c r apart ih =>
    rw [replaceAll_kept some_old apart, allBlank, List.all_cons, Bool.and_eq_true] at blank
    rw [allBlank, List.all_cons, blank.1, Bool.true_and]
    exact ih blank.2
  | found r ih =>
    rw [replaceAll_found some_old, allBlank, List.all_append, Bool.and_eq_true] at blank
    exact absurd blank.1 visible

/-- Occurrences that begin in the front of a text and end in it are replaced in it. -/
theorem replaceAll_append (some_old : old ≠ [])
    (whole : ∀ part, part <:+ s → part ≠ [] → old <+: part ++ t → old <+: part) :
    replaceAll old new (s ++ t) = replaceAll old new s ++ replaceAll old new t := by
  induction s using occurrence_induction some_old with
  | done => simp
  | keep c r apart ih =>
    have beyond : ¬ old <+: c :: (r ++ t) := fun first =>
      apart (whole _ List.suffix_rfl (by simp) first)
    rw [List.cons_append, replaceAll_kept some_old beyond, replaceAll_kept some_old apart,
      ih fun part tail => whole part (tail.trans (List.suffix_cons c r))]
    rfl
  | found r ih =>
    rw [List.append_assoc, replaceAll_found some_old, replaceAll_found some_old,
      ih fun part tail => whole part (tail.trans (List.suffix_append old r)), List.append_assoc]

/-- A text that ends in a character and holds it nowhere else occurs on one side of each
such character. -/
theorem replaceAll_append_end {front : Text} (plain : c ∉ front) (new s t : Text) :
    replaceAll (front ++ [c]) new (s ++ [c] ++ t) =
      replaceAll (front ++ [c]) new (s ++ [c]) ++ replaceAll (front ++ [c]) new t := by
  refine replaceAll_append (by simp) fun part tail some_part first => ?_
  rcases List.prefix_or_prefix_of_prefix first (List.prefix_append part t) with inside | ⟨back, same⟩
  · exact inside
  · -- The part ends in the character, so that nothing of the text is behind it.
    obtain ⟨last, rfl⟩ : ∃ last, part = last ++ [c] := by
      rcases List.eq_nil_or_concat part with none | ⟨last, d, rfl⟩
      · exact absurd none some_part
      · obtain ⟨before, whole⟩ := tail
        rw [List.concat_eq_append, ← List.append_assoc] at whole
        exact ⟨last, by simpa using (List.append_inj' whole rfl).2⟩
    cases back using List.reverseRecOn with
    | nil => simp [← same]
    | append_singleton back d =>
      rw [← List.append_assoc] at same
      obtain ⟨rfl, -⟩ := List.append_inj' same rfl
      simp at plain

end Text

/-! ## Other names behind quotes -/

open Embedded (style script IsPlain scriptReference)

/-- A quote and a name behind it give way to a quote and another name. -/
def Requotes (old new : Text) : Prop :=
  ∃ file other, old = '"' :: file ∧ new = '"' :: other ∧ IsPlain file ∧ IsPlain other

abbrev Requoted : Text → Text → Prop := Rewriting Requotes

namespace Requoted

variable {kind : Embedded} {block : Block} {front : Text}

theorem symm (same : Requoted s t) : Requoted t s := by
  induction same with
  | done => exact .done
  | keep c _ ih => exact ih.keep c
  | write renames _ ih =>
    obtain ⟨file, other, rfl, rfl, plain, plainOther⟩ := renames
    exact ih.write ⟨other, file, rfl, rfl, plainOther, plain⟩

theorem eq_nil (same : Requoted [] t) : t = [] := by
  generalize empty : [] = s at same
  cases same with
  | done => rfl
  | keep => cases empty
  | write renames =>
    obtain ⟨file, other, rfl, -, -⟩ := renames
    cases empty

theorem front_kept (same : Requoted (front ++ s) t) (unquoted : '"' ∉ front) :
    ∃ rest, t = front ++ rest ∧ Requoted s rest := by
  induction front generalizing t with
  | nil => exact ⟨t, rfl, same⟩
  | cons c front ih =>
    simp only [List.mem_cons, not_or] at unquoted
    generalize whole : c :: front ++ s = u at same
    cases same with
    | done => simp at whole
    | keep d inner =>
      obtain ⟨rfl, rfl⟩ := List.cons.inj whole
      obtain ⟨rest, rfl, further⟩ := ih inner unquoted.2
      exact ⟨rest, rfl, further⟩
    | write renames inner =>
      obtain ⟨file, other, rfl, -, -⟩ := renames
      exact absurd (List.cons.inj whole).1.symm unquoted.1

theorem at_angle (same : Requoted (front ++ c :: s) t) (angle : c = '<' ∨ c = '>') :
    ∃ before rest, t = before ++ c :: rest ∧ Requoted front before ∧ Requoted s rest := by
  generalize whole : front ++ c :: s = u at same
  induction same generalizing front with
  | done => simp at whole
  | keep d inner ih =>
    cases front with
    | nil =>
      obtain ⟨rfl, rfl⟩ := List.cons.inj whole
      exact ⟨[], _, rfl, .done, inner⟩
    | cons e front =>
      obtain ⟨rfl, rfl⟩ := List.cons.inj whole
      obtain ⟨before, rest, rfl, first, further⟩ := ih rfl
      exact ⟨e :: before, rest, rfl, first.keep e, further⟩
  | @write old new u t renames inner ih =>
    obtain ⟨file, other, rfl, rfl, plain, plainOther⟩ := renames
    rcases List.append_eq_append_iff.mp whole with ⟨middle, name, behind⟩ | ⟨middle, rfl, behind⟩
    · -- No name holds the angle, so that it stands behind this one.
      cases middle with
      | nil =>
        obtain ⟨before, rest, rfl, first, further⟩ := @ih [] behind
        refine ⟨'"' :: other ++ before, rest, by simp, ?_, further⟩
        rw [List.append_nil] at name
        rw [← name]
        simpa using first.write ⟨file, other, rfl, rfl, plain, plainOther⟩
      | cons d middle =>
        obtain ⟨rfl, -⟩ := List.cons.inj behind
        have member : c ∈ '"' :: file := by simp [name]
        rcases angle with rfl | rfl
        · simp [plain.1] at member
        · simp [plain.2] at member
    · obtain ⟨before, rest, rfl, first, further⟩ := ih behind.symm
      exact ⟨'"' :: other ++ before, rest, by simp,
        first.write ⟨file, other, rfl, rfl, plain, plainOther⟩, further⟩

theorem no_angle (same : Requoted s t) (angle : c = '<' ∨ c = '>') (absent : c ∉ s) : c ∉ t := by
  intro member
  obtain ⟨before, rest, rfl⟩ := List.append_of_mem member
  obtain ⟨front, back, rfl, -⟩ := same.symm.at_angle angle
  simp at absent

theorem unquoted_name {name : Text} (isName : kind.IsName name) : '"' ∉ name := by
  have letters : '"' ∉ kind.tagName := by cases kind <;> decide
  exact fun member => letters (isName ▸ List.mem_map.mpr ⟨'"', member, rfl⟩)

theorem closes (same : Requoted s t) (closes : kind.Closes s) : kind.Closes t := by
  obtain ⟨tag, ⟨name, rfl, isName⟩, before, after, rfl⟩ := closes
  have whole : before ++ '<' :: '/' :: (name ++ ['>']) ++ after =
      before ++ '<' :: (('/' :: (name ++ ['>'])) ++ after) := by simp
  rw [whole] at same
  obtain ⟨front, back, rfl, -, further⟩ := same.at_angle (.inl rfl)
  obtain ⟨rest, rfl, -⟩ := further.front_kept (by simp [unquoted_name isName])
  exact ⟨_, ⟨name, rfl, isName⟩, front, rest, by simp⟩

theorem at_block (same : Requoted (block.text ++ s) t) (isBlock : kind.IsBlock block) :
    ∃ other rest, t = Block.text other ++ rest ∧ kind.IsBlock other ∧ Requoted s rest := by
  obtain ⟨opening, body, closing⟩ := block
  obtain ⟨⟨name, attributes, rfl, isName, plain⟩, ⟨last, rfl, isLast⟩, inner⟩ := isBlock
  have whole : Block.text ⟨'<' :: (name ++ attributes ++ ['>']), body, '<' :: '/' :: (last ++ ['>'])⟩ ++ s =
      ('<' :: name) ++ (attributes ++ '>' :: (body ++ '<' :: (('/' :: (last ++ ['>'])) ++ s))) := by
    simp [Block.text]
  rw [whole] at same
  obtain ⟨_, rfl, opened⟩ := same.front_kept (by simp [unquoted_name isName])
  obtain ⟨others, _, rfl, written, inside⟩ := opened.at_angle (.inr rfl)
  obtain ⟨content, _, rfl, between, closed⟩ := inside.at_angle (.inl rfl)
  obtain ⟨rest, rfl, behind⟩ := closed.front_kept (by simp [unquoted_name isLast])
  refine ⟨⟨'<' :: (name ++ others ++ ['>']), content, '<' :: '/' :: (last ++ ['>'])⟩, rest,
    by simp [Block.text], ⟨⟨name, others, rfl, isName, written.no_angle (.inr rfl) plain⟩,
      ⟨last, rfl, isLast⟩, fun closes => inner (between.symm.closes closes)⟩, behind⟩

theorem unread (same : Requoted s t) (unread : kind.block.read s = none) :
    kind.block.read t = none := by
  by_contra found
  obtain ⟨⟨block, rest⟩, found⟩ := Option.ne_none_iff_exists'.mp found
  obtain ⟨rfl, isBlock⟩ := Embedded.block_read_eq_some.mp found
  obtain ⟨other, rest, rfl, isOther, -⟩ := same.symm.at_block isBlock
  rw [Embedded.block_read_eq_some.mpr ⟨rfl, isOther⟩] at unread
  cases unread

end Requoted

/-! ## Links -/

section
variable {file other : Text} {kind : Embedded}

def linkFront (file : Text) : Text :=
  "<link rel=\"stylesheet\" href=\"".toList ++ file ++ ['"']

theorem link_eq_linkFront (file : Text) : style.reference file = linkFront file ++ ['>'] := by
  unfold Embedded.reference linkFront
  simp

theorem link_ne_nil (file : Text) : style.reference file ≠ [] := by
  simp [link_eq_linkFront]

theorem end_not_mem_linkFront (plain : IsPlain file) : '>' ∉ linkFront file := by
  unfold linkFront
  simp [plain.2]

theorem file_eq_of_link (plain : IsPlain file) (plainOther : IsPlain other)
    (first : style.reference file <+: style.reference other ++ s) : file = other := by
  obtain ⟨rest, same⟩ := first
  simp only [link_eq_linkFront, List.append_assoc, List.singleton_append] at same
  have fronts := (Text.eq_of_append_cons (end_not_mem_linkFront plain)
    (end_not_mem_linkFront plainOther) same).1
  unfold linkFront at fronts
  simpa using fronts

theorem not_link_of_ne (plain : IsPlain file) (other : c ≠ '<') :
    ¬ style.reference file <+: c :: s := by
  obtain ⟨inner, whole, -⟩ := Embedded.link_eq plain
  rw [whole]
  exact fun first => other (List.cons_prefix_cons.mp first).1.symm

theorem replaceAll_link_append_plain (plain : IsPlain file) {front : Text} (noAngle : '<' ∉ front)
    (new s : Text) : Text.replaceAll (style.reference file) new (front ++ s) =
      front ++ Text.replaceAll (style.reference file) new s := by
  induction front with
  | nil => rfl
  | cons c front ih =>
    simp only [List.mem_cons, not_or] at noAngle
    rw [List.cons_append, Text.replaceAll_kept (link_ne_nil file)
      (not_link_of_ne plain (Ne.symm noAngle.1)), ih noAngle.2, List.cons_append]

/-- A link stays or is found; either way it gives way to the new one. -/
theorem replaceAll_link_append (plain : IsPlain file) (plainOther : IsPlain other) (s : Text) :
    Text.replaceAll (style.reference file) (style.reference other) (style.reference other ++ s) =
      style.reference other ++ Text.replaceAll (style.reference file) (style.reference other) s := by
  by_cases same : file = other
  · subst same
    exact Text.replaceAll_found (link_ne_nil file) _ s
  · have apart : ¬ style.reference file <+: style.reference other ++ s := fun first =>
      same (file_eq_of_link plain plainOther first)
    obtain ⟨inner, whole, noAngle⟩ := Embedded.link_eq plainOther
    rw [whole, List.cons_append] at apart ⊢
    rw [Text.replaceAll_kept (link_ne_nil file) apart,
      replaceAll_link_append_plain plain (by simp [noAngle])]
    rfl

theorem replaceAll_link_script (plain : IsPlain file) (plainOther : IsPlain other)
    (new s : Text) : Text.replaceAll (style.reference file) new (script.reference other ++ s) =
      script.reference other ++ Text.replaceAll (style.reference file) new s := by
  obtain ⟨inner, whole, noAngle⟩ := Embedded.scriptReference_eq plainOther
  obtain ⟨link, spelled, -⟩ := Embedded.link_eq plain
  have apart (d : Char) (letter : d ≠ 'l') (r : Text) : ¬ style.reference file <+: '<' :: d :: r := by
    rw [spelled]
    intro first
    exact letter (List.cons_prefix_cons.mp (List.cons_prefix_cons.mp first).2).1.symm
  have opens := replaceAll_link_append_plain plain
    (show '<' ∉ 's' :: 'c' :: inner by simp [noAngle]) new
  have closes := replaceAll_link_append_plain plain
    (show '<' ∉ ['/', 's', 'c', 'r', 'i', 'p', 't', '>'] by decide) new
  rw [whole]
  simp only [List.cons_append, List.append_assoc, List.nil_append] at opens closes ⊢
  rw [Text.replaceAll_kept (link_ne_nil file) (apart _ (by decide) _), opens,
    Text.replaceAll_kept (link_ne_nil file) (apart _ (by decide) _), closes]

/-- A link among references was a link of the page: it holds one angle, at its front. -/
theorem link_prefix_of_rewriting (plain : IsPlain file)
    (rewriting : Rewriting (kind.Replaces other) s t)
    (first : style.reference file <+: c :: t) : style.reference file <+: c :: s := by
  obtain ⟨inner, whole, noAngle⟩ := Embedded.link_eq plain
  rw [whole] at first ⊢
  obtain ⟨rest, same⟩ := first
  obtain ⟨rfl, behind⟩ := List.cons.inj same
  have front : t = ('l' :: inner) ++ rest := behind.symm
  obtain ⟨back, rfl, -⟩ := Embedded.front_kept rewriting front (by simp [noAngle])
  exact ⟨back, rfl⟩

end

/-! ## Changing the names in a finished page -/

def referTo (cssFile jsFile page : Text) : Text :=
  script.substitute (script.reference jsFile) (style.substitute (style.reference cssFile) page)

/-- Every link to one file changed to another, whoever wrote it. -/
def relinkStyles (known cssFile : Text) : Text → Text :=
  Text.replaceAll (style.reference known) (style.reference cssFile)

section
variable {known cssFile jsFile file page : Text}

theorem requoted_link {other : Text} (plain : IsPlain file) (plainOther : IsPlain other)
    (same : Requoted s t) :
    Requoted (style.reference file ++ s) (style.reference other ++ t) := by
  have kept (front : Text) {s t : Text} (same : Requoted s t) :
      Requoted (front ++ s) (front ++ t) := by
    induction front with
    | nil => exact same
    | cons c front ih => exact ih.keep c
  have written (file : Text) (s : Text) : style.reference file ++ s =
      "<link rel=\"stylesheet\" href=".toList ++ (('"' :: file) ++ (['"', '>'] ++ s)) := by
    unfold Embedded.reference
    simp
  rw [written, written]
  exact kept _ ((kept _ same).write ⟨file, other, rfl, rfl, plain, plainOther⟩)

theorem requoted_relinkStyles (known_plain : IsPlain known) (plain : IsPlain cssFile) (s : Text) :
    Requoted s (relinkStyles known cssFile s) := by
  have some_link := link_ne_nil known
  induction s using Text.occurrence_induction some_link with
  | done => simpa [relinkStyles] using Rewriting.done
  | keep c r apart ih =>
    rw [relinkStyles, Text.replaceAll_kept some_link apart]
    exact ih.keep c
  | found r ih =>
    rw [relinkStyles, Text.replaceAll_found some_link]
    exact requoted_link known_plain plain ih

/-- Links that are changed might as well have been inserted with the other name. -/
theorem relinkStyles_substitute (known_plain : IsPlain known) (plain : IsPlain cssFile)
    (page : Text) : relinkStyles known cssFile (style.substitute (style.reference known) page) =
      relinkStyles known cssFile (style.substitute (style.reference cssFile) page) := by
  have some_link := link_ne_nil known
  have rewriting (file s : Text) := Embedded.rewriting_substitute style file s
  simp only [relinkStyles, Embedded.substitute] at rewriting ⊢
  induction page using Text.scan_occurrence_induction style.block some_link with
  | done => simp
  | keep c r kept apart ih =>
    -- The author wrote no link here, and none came to stand here.
    have still (file : Text) : ¬ style.reference known <+:
        c :: style.block.replace (fun _ => style.reference file) r := fun first =>
      apart (link_prefix_of_rewriting known_plain (rewriting file r) first)
    rw [Reader.replace_none _ _ kept, Reader.replace_none _ _ kept,
      Text.replaceAll_kept some_link (still known), Text.replaceAll_kept some_link (still cssFile),
      ih]
  | found r kept ih =>
    rw [Reader.replace_passes _ (Embedded.passes_link known_plain r),
      Reader.replace_passes _ (Embedded.passes_link known_plain r),
      Text.replaceAll_found some_link, Text.replaceAll_found some_link, ih]
  | take s block rest taken ih =>
    rw [Reader.replace_some _ _ taken, Reader.replace_some _ _ taken,
      Text.replaceAll_found some_link, replaceAll_link_append known_plain plain, ih]

theorem relinkStyles_substitute_script (known_plain : IsPlain known) (plain : IsPlain cssFile)
    (plainScript : IsPlain file) (s : Text) :
    relinkStyles known cssFile (script.substitute (script.reference file) s) =
      script.substitute (script.reference file) (relinkStyles known cssFile s) := by
  have some_link := link_ne_nil known
  have requoted := requoted_relinkStyles known_plain plain
  have rewriting := Embedded.rewriting_substitute script file
  simp only [relinkStyles, Embedded.substitute] at requoted rewriting ⊢
  induction s using Text.scan_occurrence_induction script.block some_link with
  | done => simp
  | keep c r kept apart ih =>
    have still := (requoted (c :: r)).unread kept
    rw [Text.replaceAll_kept some_link apart] at still ⊢
    rw [Reader.replace_none _ _ kept, Reader.replace_none _ _ still, Text.replaceAll_kept some_link
      fun first => apart (link_prefix_of_rewriting known_plain (rewriting r) first), ih]
  | found r kept ih =>
    rw [Reader.replace_passes _ (Embedded.passes_link known_plain r),
      Text.replaceAll_found some_link, Text.replaceAll_found some_link,
      Reader.replace_passes _ (Embedded.passes_link plain _), ih]
  | take s block rest taken ih =>
    obtain ⟨rfl, isBlock⟩ := Embedded.block_read_eq_some.mp taken
    -- The links in the script change with it, those behind it for themselves.
    obtain ⟨front, whole⟩ : ∃ front, block.text = front ++ ['>'] := by
      obtain ⟨name, closing, -⟩ := isBlock.closing
      exact ⟨block.opening ++ block.body ++ '<' :: '/' :: name, by simp [Block.text, closing]⟩
    have parts := Text.replaceAll_append_end (end_not_mem_linkFront known_plain)
      (style.reference cssFile) front rest
    rw [← link_eq_linkFront, ← whole] at parts
    obtain ⟨other, behind, changed, isOther, none_left⟩ :=
      Requoted.at_block (s := []) (by simpa using requoted block.text) isBlock
    rw [none_left.eq_nil, List.append_nil] at changed
    rw [Reader.replace_some _ _ taken, replaceAll_link_script known_plain plainScript, ih, parts,
      changed, Reader.replace_some _ _ (Embedded.block_read_eq_some.mpr ⟨rfl, isOther⟩)]

theorem replaceAll_substitute_script (known_plain : IsPlain known) (s : Text) :
    Text.replaceAll (script.reference known) (script.reference jsFile)
        (script.substitute (script.reference known) s) =
      script.substitute (script.reference jsFile) s := by
  have some_reference : script.reference known ≠ [] := by
    obtain ⟨inner, whole, -⟩ := Embedded.scriptReference_eq known_plain
    simp [whole]
  have found (rest : Text) : script.block.read (script.reference known ++ rest) =
      some (scriptReference known, rest) :=
    Embedded.block_read_eq_some.mpr ⟨by rw [Embedded.text_scriptReference],
      Embedded.isBlock_scriptReference known_plain⟩
  have rewriting := Embedded.rewriting_substitute script known
  simp only [Embedded.substitute] at rewriting ⊢
  induction s using script.block.scan_induction with
  | done => simp
  | keep c r kept ih =>
    have apart : ¬ script.reference known <+:
        c :: script.block.replace (fun _ => script.reference known) r := by
      rintro ⟨rest, same⟩
      have still := Embedded.read_kept known_plain (rewriting r) kept
      rw [← same, found] at still
      cases still
    rw [Reader.replace_none _ _ kept, Reader.replace_none _ _ kept,
      Text.replaceAll_kept some_reference apart, ih]
  | take s block rest taken ih =>
    rw [Reader.replace_some _ _ taken, Reader.replace_some _ _ taken,
      Text.replaceAll_found some_reference, ih]

theorem html_splitPage (markup : (Category.of page).isMarkup) :
    (splitPage page).html = referTo Part.css.defaultName Part.js.defaultName page := by
  rw [splitPage, if_pos markup]
  rfl

theorem html_relink (plain : IsPlain cssFile) (plainScript : IsPlain jsFile)
    (markup : (Category.of page).isMarkup) : ((splitPage page).relink cssFile jsFile).html =
      relinkStyles Part.css.defaultName cssFile (referTo cssFile jsFile page) := by
  have plainCss := Embedded.isPlain_defaultName .css
  have plainJs := Embedded.isPlain_defaultName .js
  rw [SplitPage.relink, html_splitPage markup]
  calc Text.replaceAll (script.reference Part.js.defaultName) (script.reference jsFile)
        (relinkStyles Part.css.defaultName cssFile
          (script.substitute (script.reference Part.js.defaultName)
            (style.substitute (style.reference Part.css.defaultName) page)))
    _ = script.substitute (script.reference jsFile)
          (relinkStyles Part.css.defaultName cssFile
            (style.substitute (style.reference Part.css.defaultName) page)) := by
      rw [relinkStyles_substitute_script plainCss plain plainJs,
        replaceAll_substitute_script plainJs]
    _ = script.substitute (script.reference jsFile)
          (relinkStyles Part.css.defaultName cssFile
            (style.substitute (style.reference cssFile) page)) := by
      rw [relinkStyles_substitute plainCss plain]
    _ = relinkStyles Part.css.defaultName cssFile (referTo cssFile jsFile page) :=
      (relinkStyles_substitute_script plainCss plain plainScript _).symm

/-! ## When only inserted references change -/

theorem relinkStyles_eq_self_iff (known_plain : IsPlain known) (plain : IsPlain cssFile) :
    relinkStyles known cssFile s = s ↔ cssFile = known ∨ ¬ style.reference known <:+: s := by
  have some_link := link_ne_nil known
  constructor
  · intro same
    by_contra changed
    simp only [not_or, not_not] at changed
    obtain ⟨different, within⟩ := changed
    rw [relinkStyles] at same
    induction s using Text.occurrence_induction some_link with
    | done => exact some_link (List.infix_nil.mp within)
    | keep c r apart ih =>
      rw [Text.replaceAll_kept some_link apart] at same
      rcases List.infix_cons_iff.mp within with first | inside
      · exact apart first
      · exact ih (List.cons.inj same).2 inside
    | found r ih =>
      rw [Text.replaceAll_found some_link] at same
      exact different (file_eq_of_link plain known_plain ⟨_, same⟩)
  · rintro (rfl | absent)
    · exact Text.replaceAll_self some_link s
    · exact Text.replaceAll_eq_self some_link absent

theorem relinkStyles_referTo (known_plain : IsPlain known) (plain : IsPlain cssFile)
    (plainScript : IsPlain jsFile) (absent : ¬ style.reference known <:+: page) :
    relinkStyles known cssFile (referTo cssFile jsFile page) = referTo cssFile jsFile page := by
  have some_link := link_ne_nil known
  have rewriting := Embedded.rewriting_substitute style cssFile
  have styled : relinkStyles known cssFile (style.substitute (style.reference cssFile) page) =
      style.substitute (style.reference cssFile) page := by
    simp only [relinkStyles, Embedded.substitute] at rewriting ⊢
    induction page using style.block.scan_induction with
    | done => simp
    | keep c r kept ih =>
      have apart : ¬ style.reference known <+:
          c :: style.block.replace (fun _ => style.reference cssFile) r := fun first =>
        absent (link_prefix_of_rewriting known_plain (rewriting r) first).isInfix
      rw [Reader.replace_none _ _ kept, Text.replaceAll_kept some_link apart,
        ih fun inside => absent (inside.trans (List.suffix_cons c r).isInfix)]
    | take s block rest taken ih =>
      have behind := (Embedded.block_faithful style taken).isInfix
      rw [Reader.replace_some _ _ taken, replaceAll_link_append known_plain plain,
        ih fun inside => absent (inside.trans behind)]
  rw [referTo, relinkStyles_substitute_script known_plain plain plainScript, styled]

end

theorem isPlain_of_resolve {configured name : Text} {part : Part}
    (resolved : FileName.resolve configured part.defaultName = .ok name) : IsPlain name := by
  have chars := FileName.isNameChar_of_resolve resolved
  exact ⟨fun member => absurd (chars _ member) (by decide),
    fun member => absurd (chars _ member) (by decide)⟩

/-- A page with changed names is the page that refers to other files from the start, save
that links to the default style file which the page had before are changed as well. -/
theorem relink_splitPage {page cssAsked jsAsked cssFile jsFile : Text}
    (markup : (Category.of page).isMarkup)
    (cssResolved : FileName.resolve cssAsked Part.css.defaultName = .ok cssFile)
    (jsResolved : FileName.resolve jsAsked Part.js.defaultName = .ok jsFile) :
    let relinked := (splitPage page).relink cssFile jsFile
    relinked.css = (splitPage page).css ∧ relinked.js = (splitPage page).js ∧
    relinked.html = Text.replaceAll style.defaultReference (style.reference cssFile)
      (referTo cssFile jsFile page) ∧
    (relinked.html = referTo cssFile jsFile page ↔ cssFile = Part.css.defaultName ∨
      ¬ style.defaultReference <:+: referTo cssFile jsFile page) ∧
    (¬ style.defaultReference <:+: page → relinked.html = referTo cssFile jsFile page) := by
  have plainDefault := Embedded.isPlain_defaultName .css
  have plain := isPlain_of_resolve cssResolved
  have plainScript := isPlain_of_resolve jsResolved
  have html := html_relink plain plainScript markup
  refine ⟨rfl, rfl, html, ?_, fun absent => ?_⟩
  · rw [html]
    exact relinkStyles_eq_self_iff plainDefault plain
  · rw [html]
    exact relinkStyles_referTo plainDefault plain plainScript absent

theorem relink_splitPage_page :
    let page := "<p></p><style>a</style><script>b</script>".toList
    (Category.of page).isMarkup ∧ ¬ style.defaultReference <:+: page ∧
      FileName.resolve "site.css".toList Part.css.defaultName = .ok "site.css".toList ∧
      FileName.resolve "app.js".toList Part.js.defaultName = .ok "app.js".toList ∧
      ((splitPage page).relink "site.css".toList "app.js".toList).html =
        referTo "site.css".toList "app.js".toList page :=
  have markup : (Category.of "<p></p><style>a</style><script>b</script>".toList).isMarkup := by
    decide +kernel
  have absent :
      ¬ style.defaultReference <:+: "<p></p><style>a</style><script>b</script>".toList := by
    decide +kernel
  have css : FileName.resolve "site.css".toList Part.css.defaultName = .ok "site.css".toList := by
    decide +kernel
  have js : FileName.resolve "app.js".toList Part.js.defaultName = .ok "app.js".toList := by
    decide +kernel
  ⟨markup, absent, css, js, (relink_splitPage markup css js).2.2.2.2 absent⟩

/-- A link that the page had before is changed with those that were inserted. -/
theorem relink_changes_author_link :
    let page := "<link rel=\"stylesheet\" href=\"styles.css\"><style>a</style>".toList
    (Category.of page).isMarkup ∧
      FileName.resolve "site.css".toList Part.css.defaultName = .ok "site.css".toList ∧
      FileName.resolve "app.js".toList Part.js.defaultName = .ok "app.js".toList ∧
      ((splitPage page).relink "site.css".toList "app.js".toList).html ≠
        referTo "site.css".toList "app.js".toList page := by
  decide +kernel

end Snippet
