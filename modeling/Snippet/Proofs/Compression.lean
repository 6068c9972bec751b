import Mathlib.Data.List.Chain
import Snippet.Obfuscation.Compression
import Snippet.Proofs.Blanks
import Snippet.Proofs.Rewriting

/-! The normal form that compression reaches.

A compressed text is described by what may stand side by side in it. Compression
leaves such a text, and it changes nothing in one.
-/

set_option autoImplicit false

namespace Snippet.Compression

open Text (BeginsVisible EndsVisible)

/-- One blank at a time. -/
def Single (a b : Char) : Prop := isBlank a → isBlank b = false

/-- Besides, no blank next to tight punctuation. -/
def Close (a b : Char) : Prop :=
  Single a b ∧ (isBlank a → isTight b = false) ∧ (isTight a → isBlank b = false)

/-- Besides, no semicolon before a closing brace. -/
def Fits (a b : Char) : Prop := Close a b ∧ (a = ';' → b ≠ '}')

structure IsCompressed (s : Text) : Prop where
  spaces : ∀ c ∈ s, isBlank c → c = ' '
  fits : s.IsChain Fits
  begins : BeginsVisible s
  ends : EndsVisible s

theorem isBlank_of_isTight {c : Char} (tight : isTight c) : isBlank c = false := by
  simp only [isTight, Bool.or_eq_true, beq_iff_eq] at tight
  rcases tight with (((((rfl | rfl) | rfl) | rfl) | rfl) | rfl) | rfl <;> decide

theorem isTight_of_isWord {c : Char} (word : isWord c) : isTight c = false := by
  by_contra tight
  simp only [isTight, Bool.not_eq_false, Bool.or_eq_true, beq_iff_eq] at tight
  rcases tight with (((((rfl | rfl) | rfl) | rfl) | rfl) | rfl) | rfl <;>
    exact absurd word (by decide)

theorem fits_of_plain {a : Char} (visible : isBlank a = false) (loose : isTight a = false)
    (b : Char) : Fits a b := by
  refine ⟨⟨by simp [Single, visible], by simp [visible], by simp [loose]⟩, ?_⟩
  rintro rfl
  exact absurd loose (by decide)

theorem fits_before_plain {b : Char} (visible : isBlank b = false) (loose : isTight b = false)
    (a : Char) : Fits a b := by
  refine ⟨⟨fun _ => visible, fun _ => loose, fun _ => visible⟩, ?_⟩
  rintro - rfl
  exact absurd loose (by decide)

variable {s r rest : Text} {c : Char}

/-! ## Runs of blanks -/

theorem gap_read_eq_some {a : Unit} : gap.read s = some (a, rest) ↔
    ∃ c r, s = c :: r ∧ isBlank c ∧ Text.dropBlanks r = rest := by
  cases s <;> simp [gap]

theorem gap_read_eq_none : gap.read (c :: r) = none ↔ isBlank c = false := by
  simp [gap]

theorem gap_faithful : gap.Faithful := by
  intro s rest a found
  obtain ⟨c, r, rfl, -, rfl⟩ := gap_read_eq_some.mp found
  exact (Text.dropBlanks_suffix r).trans (List.suffix_cons c r)

structure IsSpaced (s : Text) : Prop where
  spaces : ∀ c ∈ s, isBlank c → c = ' '
  single : s.IsChain Single

theorem IsSpaced.suffix (spaced : IsSpaced s) (tail : r <:+ s) : IsSpaced r :=
  ⟨fun c member => spaced.spaces c (tail.subset member), spaced.single.suffix tail⟩

theorem head?_spaced (visible : BeginsVisible s) :
    (gap.replace (fun _ => [' ']) s).head? = s.head? := by
  cases s with
  | nil => rw [Reader.replace_nil]
  | cons c r =>
    rw [gap.replace_none _ (gap_read_eq_none.mpr (visible c rfl))]
    rfl

theorem spaces_spaced (s : Text) :
    ∀ c ∈ gap.replace (fun _ => [' ']) s, isBlank c → c = ' ' := by
  refine Reader.forall_mem_replace gap_faithful _ (fun c r _ kept blank => ?_)
    fun t rest a _ _ c member _ => List.mem_singleton.mp member
  simp [gap_read_eq_none.mp kept] at blank

theorem single_spaced (s : Text) : (gap.replace (fun _ => [' ']) s).IsChain Single := by
  induction s using gap.scan_induction with
  | done => simp
  | keep c r kept ih =>
    rw [gap.replace_none _ kept]
    exact ih.cons fun d _ => by simp [Single, gap_read_eq_none.mp kept]
  | take s a rest taken ih =>
    rw [gap.replace_some _ taken]
    obtain ⟨c, r, rfl, _, rfl⟩ := gap_read_eq_some.mp taken
    have visible := Text.beginsVisible_dropBlanks r
    -- The run ends before a visible character, which the scan keeps.
    exact ih.cons fun d first _ => visible d (head?_spaced visible ▸ first)

theorem isSpaced_replace (s : Text) : IsSpaced (gap.replace (fun _ => [' ']) s) :=
  ⟨spaces_spaced s, single_spaced s⟩

theorem IsSpaced.replace_eq_self (spaced : IsSpaced s) :
    gap.replace (fun _ => [' ']) s = s := by
  induction s using gap.scan_induction with
  | done => exact Reader.replace_nil _ _
  | keep c r kept ih => rw [gap.replace_none _ kept, ih (spaced.suffix (List.suffix_cons c r))]
  | take s a rest taken ih =>
    rw [gap.replace_some _ taken]
    obtain ⟨c, r, rfl, blank, rfl⟩ := gap_read_eq_some.mp taken
    have visible : BeginsVisible r := fun d first => spaced.single.rel_head? first blank
    rw [Text.dropBlanks_eq_self visible] at ih ⊢
    rw [ih (spaced.suffix (List.suffix_cons c r)), spaced.spaces c (by simp) blank]
    rfl

/-! ## Blanks next to tight punctuation -/

theorem aroundTight_read_eq_some : aroundTight.read s = some (c, rest) ↔
    ∃ r, Text.dropBlanks s = c :: r ∧ isTight c ∧ Text.dropBlanks r = rest := by
  simp only [aroundTight]
  split
  · next d r same =>
    simp only [same, Option.ite_none_right_eq_some, Option.some.injEq, Prod.mk.injEq,
      List.cons.injEq]
    constructor
    · rintro ⟨tight, rfl, rfl⟩
      exact ⟨r, ⟨rfl, rfl⟩, tight, rfl⟩
    · rintro ⟨_, ⟨rfl, rfl⟩, tight, rfl⟩
      exact ⟨tight, rfl, rfl⟩
  · next same => simp [same]

theorem aroundTight_faithful : aroundTight.Faithful := by
  intro s rest c found
  obtain ⟨r, same, -, rfl⟩ := aroundTight_read_eq_some.mp found
  exact (Text.dropBlanks_suffix r).trans
    ((List.suffix_cons c r).trans (same ▸ Text.dropBlanks_suffix s))

theorem not_isTight_of_kept (kept : aroundTight.read (c :: r) = none) :
    isTight c = false ∧ (isBlank c → BeginsVisible r → ∀ d ∈ r.head?, isTight d = false) := by
  have none_tight (d : Char) (t : Text) (same : Text.dropBlanks (c :: r) = d :: t) :
      isTight d = false := by
    by_contra tight
    rw [Bool.not_eq_false] at tight
    rw [aroundTight_read_eq_some.mpr ⟨t, same, tight, rfl⟩] at kept
    simp at kept
  constructor
  · by_contra tight
    rw [Bool.not_eq_false] at tight
    have visible : BeginsVisible (c :: r) := by simpa [BeginsVisible] using isBlank_of_isTight tight
    simp [none_tight c r (Text.dropBlanks_eq_self visible)] at tight
  · intro blank visible d first
    cases r with
    | nil => simp at first
    | cons e r =>
      have same : Text.dropBlanks (c :: e :: r) = e :: r := by
        rw [Text.dropBlanks_cons_of_blank blank, Text.dropBlanks_eq_self visible]
      obtain rfl : e = d := by simpa using first
      exact none_tight e r same

structure IsTightened (s : Text) : Prop where
  spaces : ∀ c ∈ s, isBlank c → c = ' '
  close : s.IsChain Close

theorem IsTightened.suffix (tightened : IsTightened s) (tail : r <:+ s) : IsTightened r :=
  ⟨fun c member => tightened.spaces c (tail.subset member), tightened.close.suffix tail⟩

theorem IsTightened.isSpaced (tightened : IsTightened s) : IsSpaced s :=
  ⟨tightened.spaces, tightened.close.imp fun _ _ close => close.1⟩

theorem head?_tightened (first : c ∈ (aroundTight.replace (fun c => [c]) s).head?) :
    c ∈ s.head? ∨ isTight c ∧ ∃ r, Text.dropBlanks s = c :: r := by
  cases s with
  | nil => simp at first
  | cons d r =>
    cases found : aroundTight.read (d :: r) with
    | none =>
      rw [aroundTight.replace_none _ found] at first
      exact .inl first
    | some accepted =>
      obtain ⟨e, rest⟩ := accepted
      obtain ⟨behind, same, tight, -⟩ := aroundTight_read_eq_some.mp found
      rw [aroundTight.replace_some _ found] at first
      obtain rfl : e = c := by simpa using first
      exact .inr ⟨tight, behind, same⟩

theorem beginsVisible_tightened (visible : BeginsVisible s) :
    BeginsVisible (aroundTight.replace (fun c => [c]) s) := by
  intro c first
  rcases head?_tightened first with kept | ⟨tight, -⟩
  · exact visible c kept
  · exact isBlank_of_isTight tight

theorem spaces_tightened (spaced : IsSpaced s) :
    ∀ c ∈ aroundTight.replace (fun c => [c]) s, isBlank c → c = ' ' := by
  refine Reader.forall_mem_replace aroundTight_faithful _ (fun c r tail _ => ?_)
    fun t rest a _ found c member blank => ?_
  · exact spaced.spaces c (tail.subset (by simp))
  · obtain ⟨r, -, tight, -⟩ := aroundTight_read_eq_some.mp found
    obtain rfl := List.mem_singleton.mp member
    simp [isBlank_of_isTight tight] at blank

theorem close_tightened (single : s.IsChain Single) :
    (aroundTight.replace (fun c => [c]) s).IsChain Close := by
  induction s using aroundTight.scan_induction with
  | done => simp
  | keep c r kept ih =>
    obtain ⟨loose, nextLoose⟩ := not_isTight_of_kept kept
    rw [aroundTight.replace_none _ kept]
    refine (ih single.tail).cons fun d first => ?_
    by_cases blank : isBlank c
    · -- A tight character behind a kept blank would have been accepted with it.
      have visible : BeginsVisible r := fun e next => single.rel_head? next blank
      have same : d ∈ r.head? := by
        rcases head?_tightened first with same | ⟨-, behind, same⟩
        · exact same
        · rw [Text.dropBlanks_eq_self visible] at same
          simp [same]
      exact ⟨fun _ => visible d same, fun _ => nextLoose blank visible d same, by simp [loose]⟩
    · exact (fits_of_plain (by simpa using blank) loose d).1
  | take s a rest taken ih =>
    rw [aroundTight.replace_some _ taken]
    obtain ⟨r, same, tight, rfl⟩ := aroundTight_read_eq_some.mp taken
    have visible := isBlank_of_isTight tight
    refine (ih (single.suffix (aroundTight_faithful taken))).cons fun d first => ?_
    refine ⟨by simp [Single, visible], by simp [visible], fun _ => ?_⟩
    exact beginsVisible_tightened (Text.beginsVisible_dropBlanks r) d first

theorem isTightened_replace (spaced : IsSpaced s) :
    IsTightened (aroundTight.replace (fun c => [c]) s) :=
  ⟨spaces_tightened spaced, close_tightened spaced.single⟩

theorem IsTightened.replace_eq_self (tightened : IsTightened s) :
    aroundTight.replace (fun c => [c]) s = s := by
  induction s using aroundTight.scan_induction with
  | done => exact Reader.replace_nil _ _
  | keep c r kept ih =>
    rw [aroundTight.replace_none _ kept, ih (tightened.suffix (List.suffix_cons c r))]
  | take s a rest taken ih =>
    rw [aroundTight.replace_some _ taken]
    obtain ⟨r, same, tight, rfl⟩ := aroundTight_read_eq_some.mp taken
    -- A blank in front would stand before the tight character that is accepted.
    have begins : BeginsVisible s := by
      intro c first
      by_contra blank
      rw [Bool.not_eq_false] at blank
      cases s with
      | nil => simp at first
      | cons d t =>
        obtain rfl : d = c := by simpa using first
        have visible : BeginsVisible t := fun e next => tightened.close.rel_head? next |>.1 blank
        have behind : t = a :: r := by
          rw [← same, Text.dropBlanks_cons_of_blank blank, Text.dropBlanks_eq_self visible]
        have loose := (tightened.close.rel_head? (y := a) (by simp [behind])).2.1 blank
        simp [tight] at loose
    rw [Text.dropBlanks_eq_self begins] at same
    subst same
    have visible : BeginsVisible r := fun e next => (tightened.close.rel_head? next).2.2 tight
    rw [Text.dropBlanks_eq_self visible] at ih ⊢
    rw [ih (tightened.suffix (List.suffix_cons a r))]
    rfl

/-! ## Semicolons before a closing brace -/

theorem terminators_read_eq_some {a : Unit} : terminators.read s = some (a, rest) ↔
    ∃ r, s = ';' :: r ∧ r.dropWhile (fun c => c == ';' || isBlank c) = '}' :: rest := by
  simp only [terminators]
  split
  · next r =>
    split
    · next found => simp [found]
    · next other =>
      simp only [reduceCtorEq, false_iff, not_exists, not_and]
      rintro _ same leads
      obtain rfl := (List.cons.inj same).2
      exact other rest leads
  · next other =>
    simp only [reduceCtorEq, false_iff, not_exists, not_and]
    intro r same
    exact absurd same (other r)

theorem terminators_read_of_ne (other : c ≠ ';') (r : Text) : terminators.read (c :: r) = none := by
  cases found : terminators.read (c :: r) with
  | none => rfl
  | some accepted =>
    obtain ⟨_, same, -⟩ := terminators_read_eq_some.mp found
    exact absurd (List.cons.inj same).1 other

/-- Where semicolons and single blanks lead to a brace, some pair on the way does not fit. -/
theorem not_fits_of_dropWhile (first : c = ';' ∨ isBlank c)
    (leads : r.dropWhile (fun c => c == ';' || isBlank c) = '}' :: rest) :
    ¬ (c :: r).IsChain Fits := by
  induction r generalizing c with
  | nil => simp at leads
  | cons d r ih =>
    rw [List.dropWhile_cons] at leads
    split at leads
    · next skipped =>
      intro fits
      exact ih (by simpa using skipped) leads fits.tail
    · obtain ⟨rfl, rfl⟩ := List.cons.inj leads
      intro fits
      have pair : Fits c '}' := fits.rel_head? rfl
      rcases first with rfl | blank
      · exact pair.2 rfl rfl
      · exact absurd (pair.1.2.1 blank) (by decide)

theorem terminators_read_eq_none (fits : s.IsChain Fits) : terminators.read s = none := by
  by_contra found
  obtain ⟨⟨a, rest⟩, found⟩ := Option.ne_none_iff_exists'.mp found
  obtain ⟨r, rfl, leads⟩ := terminators_read_eq_some.mp found
  exact not_fits_of_dropWhile (.inl rfl) leads fits

theorem terminators_replace_eq_self (fits : s.IsChain Fits) :
    terminators.replace (fun _ => ['}']) s = s := by
  induction s using terminators.scan_induction with
  | done => exact Reader.replace_nil _ _
  | keep c r kept ih => rw [terminators.replace_none _ kept, ih fits.tail]
  | take s a rest taken ih => simp [terminators_read_eq_none fits] at taken

theorem terminators_faithful : terminators.Faithful := by
  intro s rest a found
  obtain ⟨r, rfl, leads⟩ := terminators_read_eq_some.mp found
  exact (List.suffix_cons '}' rest).trans
    ((leads ▸ List.dropWhile_suffix _).trans (List.suffix_cons ';' r))

theorem head?_terminated (first : c ∈ (terminators.replace (fun _ => ['}']) s).head?) :
    c ∈ s.head? ∨ c = '}' ∧ ∃ rest, terminators.read s = some ((), rest) := by
  cases s with
  | nil => simp at first
  | cons d r =>
    cases found : terminators.read (d :: r) with
    | none =>
      rw [terminators.replace_none _ found] at first
      exact .inl first
    | some accepted =>
      rw [terminators.replace_some _ found] at first
      exact .inr ⟨by simpa using first.symm, accepted.2, rfl⟩

/-- A semicolon that is kept stands before no brace, also not before one that takes
the place of semicolons. -/
theorem not_brace_behind_kept (kept : terminators.read (';' :: r) = none) :
    '}' ∉ (terminators.replace (fun _ => ['}']) r).head? := by
  have stuck (rest : Text) : r.dropWhile (fun c => c == ';' || isBlank c) ≠ '}' :: rest := by
    intro leads
    rw [terminators_read_eq_some (a := ()) |>.mpr ⟨r, rfl, leads⟩] at kept
    simp at kept
  intro first
  rcases head?_terminated first with same | ⟨-, rest, found⟩
  · cases r with
    | nil => simp at same
    | cons d r =>
      obtain rfl : d = '}' := by simpa using same
      exact stuck r (by simp [isBlank])
  · obtain ⟨behind, rfl, leads⟩ := terminators_read_eq_some.mp found
    exact stuck rest (by simpa using leads)

theorem close_closing_brace (visible : isBlank c = false) : Close '}' c :=
  ⟨fun _ => visible, fun blank => absurd blank (by decide), fun _ => visible⟩

theorem fits_replace (close : s.IsChain Close) :
    (terminators.replace (fun _ => ['}']) s).IsChain Fits := by
  induction s using terminators.scan_induction with
  | done => simp
  | keep c r kept ih =>
    rw [terminators.replace_none _ kept]
    refine (ih close.tail).cons fun d first => ⟨?_, ?_⟩
    · rcases head?_terminated first with same | ⟨rfl, rest, found⟩
      · exact close.rel_head? same
      · -- The brace stands where a semicolon stood, which is as tight as it is.
        obtain ⟨behind, rfl, -⟩ := terminators_read_eq_some.mp found
        have pair : Close c ';' := close.rel_head? rfl
        have visible : isBlank c = false := by
          by_contra blank
          exact absurd (pair.2.1 (by simpa using blank)) (by decide)
        exact ⟨fun _ => rfl, by simp [visible], fun _ => rfl⟩
    · rintro rfl rfl
      exact not_brace_behind_kept kept first
  | take s a rest taken ih =>
    rw [terminators.replace_some _ taken]
    obtain ⟨r, rfl, leads⟩ := terminators_read_eq_some.mp taken
    -- What follows the brace followed it before, so that no blank stands there.
    have behind : '}' :: rest <:+ ';' :: r :=
      (leads ▸ List.dropWhile_suffix _).trans (List.suffix_cons ';' r)
    have inner := ih (close.suffix ((List.suffix_cons '}' rest).trans behind))
    have visible : BeginsVisible rest := fun c first =>
      ((close.suffix behind).rel_head? first).2.2 (by decide)
    refine inner.cons fun d first => ⟨?_, by simp⟩
    rcases head?_terminated first with same | ⟨rfl, -⟩
    · exact close_closing_brace (visible d same)
    · exact close_closing_brace (by decide)

/-! ## All steps together -/

theorem spaces_terminated (spaces : ∀ c ∈ s, isBlank c → c = ' ') :
    ∀ c ∈ terminators.replace (fun _ => ['}']) s, isBlank c → c = ' ' := by
  refine Reader.forall_mem_replace terminators_faithful _ (fun c r tail _ => ?_)
    fun t rest a _ _ c member blank => ?_
  · exact spaces c (tail.subset (by simp))
  · obtain rfl := List.mem_singleton.mp member
    exact absurd blank (by decide)

theorem isCompressed_compress (code : Text) : IsCompressed (compress code) := by
  have tightened := isTightened_replace (isSpaced_replace code)
  have inside := Text.isInfix_trim (terminators.replace (fun _ => ['}'])
    (aroundTight.replace (fun c => [c]) (gap.replace (fun _ => [' ']) code)))
  refine ⟨fun c member => ?_, ?_, Text.beginsVisible_trim _, Text.endsVisible_trim _⟩
  · exact spaces_terminated tightened.spaces c (inside.subset member)
  · have fits := fits_replace tightened.close
    obtain ⟨front, back, whole⟩ := inside
    rw [← whole] at fits
    exact fits.left_of_append.right_of_append

theorem IsCompressed.compress_eq_self (compressed : IsCompressed s) : compress s = s := by
  have tightened : IsTightened s := ⟨compressed.spaces, compressed.fits.imp fun _ _ fits => fits.1⟩
  simp only [compress]
  rw [tightened.isSpaced.replace_eq_self, tightened.replace_eq_self,
    terminators_replace_eq_self compressed.fits,
    Text.trim_eq_self compressed.begins compressed.ends]

/-! ## Later changes -/

variable {t : Text}

/-- A part written anew with the same character in front, which brings no blank but
single spaces and ends in a character that goes with every other. -/
structure Retouches (old new : Text) : Prop where
  first : new.head? = old.head?
  some_old : old ≠ []
  some_new : new ≠ []
  spaces : ∀ c ∈ new, isBlank c → c = ' '
  fits : new.IsChain Fits
  last : ∀ c ∈ new.getLast?, isBlank c = false ∧ isTight c = false

theorem fits_of_all_plain (plain : ∀ c ∈ s, isBlank c = false ∧ isTight c = false) :
    s.IsChain Fits := by
  induction s with
  | nil => simp
  | cons c s ih =>
    refine (ih fun d member => plain d (by simp [member])).cons fun d _ => ?_
    exact fits_of_plain (plain c (by simp)).1 (plain c (by simp)).2 d

theorem head?_rewriting (rewriting : Rewriting Retouches s t) : t.head? = s.head? := by
  cases rewriting with
  | done => rfl
  | keep c _ => rfl
  | write written _ =>
    rw [List.head?_append_of_ne_nil _ written.some_new,
      List.head?_append_of_ne_nil _ written.some_old, written.first]

theorem endsVisible_rewriting (rewriting : Rewriting Retouches s t) (ends : EndsVisible s) :
    EndsVisible t := by
  induction rewriting with
  | done => exact ends
  | @keep s t c inner ih =>
    have front := head?_rewriting inner
    cases s with
    | nil =>
      obtain rfl : t = [] := by simpa using front
      exact ends
    | cons d s =>
      obtain ⟨e, t, rfl⟩ : ∃ e u, t = e :: u := by
        cases t with
        | nil => simp at front
        | cons e u => exact ⟨e, u, rfl⟩
      simp only [EndsVisible, List.getLast?_cons_cons] at ends ih ⊢
      exact ih ends
  | @write old new s t written inner ih =>
    intro c lastly
    -- The last character is one of the new part only if nothing follows it.
    cases t with
    | nil => exact (written.last c (by simpa using lastly)).1
    | cons e t =>
      have front := head?_rewriting inner
      have some_rest : s ≠ [] := by
        rintro rfl
        simp at front
      rw [List.getLast?_append_of_ne_nil _ (by simp)] at lastly
      refine ih (fun d behind => ends d ?_) c lastly
      rwa [List.getLast?_append_of_ne_nil _ some_rest]

theorem IsCompressed.rewriting (compressed : IsCompressed s) (rewriting : Rewriting Retouches s t) :
    IsCompressed t := by
  refine ⟨?_, ?_, fun c first => compressed.begins c (head?_rewriting rewriting ▸ first),
    endsVisible_rewriting rewriting compressed.ends⟩
  · have spaces := compressed.spaces
    clear compressed
    induction rewriting with
    | done => simp
    | keep c _ ih =>
      simp only [List.mem_cons, forall_eq_or_imp] at spaces ⊢
      exact ⟨spaces.1, ih spaces.2⟩
    | write written _ ih =>
      simp only [List.mem_append] at spaces ⊢
      rintro c (member | member)
      · exact written.spaces c member
      · exact ih (fun d inside => spaces d (.inr inside)) c member
  · have fits := compressed.fits
    clear compressed
    induction rewriting with
    | done => simp
    | keep c inner ih =>
      exact (ih fits.tail).cons fun d first => fits.rel_head? (head?_rewriting inner ▸ first)
    | write written _ ih =>
      refine List.isChain_append.mpr ⟨written.fits, ih (fits.right_of_append), ?_⟩
      intro c lastly d _
      exact fits_of_plain (written.last c lastly).1 (written.last c lastly).2 d

end Snippet.Compression
