import Mathlib.Data.List.Chain
import Snippet.Comment
import Snippet.Proofs.Rewriting
import Snippet.Proofs.Scanning

/-! What the removal of script comments leaves.

Line comments are removed first, so that no two slashes stand together; this keeps
the removal of block comments from joining their neighbours into a new comment.
-/

set_option autoImplicit false

namespace Snippet

variable {α : Type} {s r rest : Text}

/-- Where every part that a scan erases begins with `mark`, an erased text begins
with it only if the text did. -/
theorem Reader.head?_erase {reader : Reader α} {mark : Char}
    (opens : ∀ s a rest, reader.read s = some (a, rest) → mark ∈ s.head?)
    (first : mark ∈ (reader.erase s).head?) : mark ∈ s.head? := by
  cases s with
  | nil => simp at first
  | cons c r =>
    cases found : reader.read (c :: r) with
    | none =>
      rw [reader.erase_none found] at first
      exact first
    | some accepted => exact opens _ _ _ found

namespace Comment

/-- No comment of a script is in the text: no two slashes together, and no opener of
a block comment with a closer behind it. -/
structure Uncommented (s : Text) : Prop where
  line : ∀ before after, s ≠ before ++ ['/', '/'] ++ after
  block : ∀ before inside after, s ≠ before ++ ['/', '*'] ++ inside ++ ['*', '/'] ++ after

def NoSlashes (s : Text) : Prop := s.IsChain fun a b => a = '/' → b ≠ '/'

theorem NoSlashes.line (slashes : NoSlashes s) (before after : Text) :
    s ≠ before ++ ['/', '/'] ++ after := by
  rintro rfl
  have pair : ['/', '/'].IsChain fun a b => a = '/' → b ≠ '/' :=
    (List.IsChain.left_of_append slashes).right_of_append
  exact absurd rfl (pair.rel_head? rfl rfl)

/-! ## Line comments -/

theorem line_read_eq_some {a : Text} : line.read s = some (a, rest) ↔
    ∃ r, s = '/' :: '/' :: r ∧ r.takeWhile (!isLineEnd ·) = a ∧
      r.dropWhile (!isLineEnd ·) = rest := by
  simp only [line]
  split
  · simp
  · next other =>
    simp only [reduceCtorEq, false_iff, not_exists, not_and]
    intro r same
    exact absurd same (other r)

theorem line_faithful : line.Faithful := by
  intro s rest a found
  obtain ⟨r, rfl, -, rfl⟩ := line_read_eq_some.mp found
  exact (List.dropWhile_suffix _).trans (List.suffix_append ['/', '/'] r)

theorem noSlashes_eraseLine (s : Text) : NoSlashes (line.erase s) := by
  induction s using line.scan_induction with
  | done => simp [NoSlashes]
  | keep c r kept ih =>
    rw [line.erase_none kept]
    refine List.IsChain.cons ih ?_
    rintro d first rfl rfl
    -- The next slash stood here before, so that a comment would have begun.
    have next : '/' ∈ r.head? := by
      refine Reader.head?_erase (fun s a rest found => ?_) first
      obtain ⟨r, rfl, -⟩ := line_read_eq_some.mp found
      rfl
    cases r with
    | nil => simp at next
    | cons e r =>
      obtain rfl : e = '/' := by simpa using next
      simp [line] at kept
  | take s a rest taken ih =>
    rw [line.erase_some taken]
    exact ih

/-! ## Block comments -/

theorem block_read_eq_some {a : Text} : block.read s = some (a, rest) ↔
    ∃ r, s = '/' :: '*' :: r ∧ Text.cut? "*/".toList r = some (a, rest) := by
  simp only [block]
  split
  · simp
  · next other =>
    simp only [reduceCtorEq, false_iff, not_exists, not_and]
    intro r same
    exact absurd same (other r)

theorem block_read_opener (body : Text) :
    (block.read ('/' :: '*' :: body)).isSome ↔ "*/".toList <:+: body := by
  rw [← Text.cut?_isSome_iff]
  rfl

theorem block_read_eq_none : block.read s = none ↔
    ∀ body, s = '/' :: '*' :: body → ¬ "*/".toList <:+: body := by
  constructor
  · rintro unread body rfl closed
    have read := (block_read_opener body).mpr closed
    rw [unread] at read
    cases read
  · intro unclosed
    rw [Option.eq_none_iff_forall_ne_some]
    rintro ⟨a, rest⟩ found
    obtain ⟨body, same, cut⟩ := block_read_eq_some.mp found
    exact unclosed body same ((Text.cut?_isSome_iff _ _).mp (by rw [cut]; rfl))

theorem head?_eraseBlock (first : '/' ∈ (block.erase s).head?) : '/' ∈ s.head? := by
  refine Reader.head?_erase (fun s a rest found => ?_) first
  obtain ⟨r, rfl, -⟩ := block_read_eq_some.mp found
  rfl

theorem block_faithful : block.Faithful := by
  intro s rest a found
  obtain ⟨r, rfl, cut⟩ := block_read_eq_some.mp found
  rw [Text.eq_append_of_cut? cut]
  exact ⟨'/' :: '*' :: (a ++ "*/".toList), by simp⟩

theorem NoSlashes.eraseBlock (slashes : NoSlashes s) : NoSlashes (block.erase s) := by
  induction s using block.scan_induction with
  | done => simp [NoSlashes]
  | keep c r kept ih =>
    rw [block.erase_none kept]
    refine List.IsChain.cons (ih slashes.tail) ?_
    rintro d first rfl rfl
    exact slashes.rel_head? (head?_eraseBlock first) rfl rfl
  | take s a rest taken ih =>
    rw [block.erase_some taken]
    exact ih (List.IsChain.suffix slashes (block_faithful taken))

theorem eraseBlock_eq_self (unclosed : ¬ "*/".toList <:+: s) : block.erase s = s := by
  induction s using block.scan_induction with
  | done => simp
  | keep c r kept ih =>
    rw [block.erase_none kept]
    rw [ih fun inside => unclosed (inside.trans (List.suffix_cons c r).isInfix)]
  | take s a rest taken ih =>
    obtain ⟨r, rfl, cut⟩ := block_read_eq_some.mp taken
    refine absurd ⟨'/' :: '*' :: a, rest, ?_⟩ unclosed
    rw [Text.eq_append_of_cut? cut]
    simp

/-- An opener that is left was there before, and it was left for want of a closer. -/
theorem unclosed_of_opener {c : Char} (slashes : NoSlashes (c :: r))
    (kept : block.read (c :: r) = none) (slash : c = '/') (after : Text)
    (star : block.erase r = '*' :: after) : ¬ "*/".toList <:+: after := by
  subst slash
  cases r with
  | nil => simp at star
  | cons d r =>
    cases found : block.read (d :: r) with
    | some accepted =>
      -- The comment that was erased began with a slash behind the slash.
      obtain ⟨behind, same, -⟩ := block_read_eq_some.mp found
      obtain rfl := (List.cons.inj same).1
      exact absurd rfl (slashes.rel_head? rfl rfl)
    | none =>
      -- Without a closer the scan changed nothing behind the opener.
      rw [block.erase_none found] at star
      obtain ⟨rfl, rfl⟩ := List.cons.inj star
      have unclosed : ¬ "*/".toList <:+: r := by
        rw [← Text.cut?_isSome_iff]
        simpa [block] using kept
      rwa [eraseBlock_eq_self unclosed]

theorem uncommented_eraseBlock (slashes : NoSlashes s) : Uncommented (block.erase s) := by
  refine ⟨slashes.eraseBlock.line, ?_⟩
  induction s using block.scan_induction with
  | done => simp
  | keep c r kept ih =>
    intro before inside after same
    rw [block.erase_none kept] at same
    cases before with
    | nil =>
      obtain ⟨slash, star⟩ := List.cons.inj same
      exact unclosed_of_opener slashes kept slash (inside ++ ['*', '/'] ++ after)
        (by simpa using star) (List.infix_append inside _ after)
    | cons b before => exact ih slashes.tail before inside after (List.cons.inj same).2
  | take s a rest taken ih =>
    rw [block.erase_some taken]
    exact ih (List.IsChain.suffix slashes (block_faithful taken))

theorem uncommented_removeComments (code : Text) :
    Uncommented (removeComments .javascript code) :=
  uncommented_eraseBlock (noSlashes_eraseLine code)

/-! ## Later changes -/

def isMark (c : Char) : Bool := c == '/' || c == '*'

variable {t : Text}

theorem Uncommented.within (uncommented : Uncommented s) (inside : t <:+: s) : Uncommented t := by
  obtain ⟨front, back, rfl⟩ := inside
  refine ⟨fun before after same => ?_, fun before inner after same => ?_⟩
  · exact uncommented.line (front ++ before) (after ++ back) (by simp [same])
  · exact uncommented.block (front ++ before) inner (after ++ back) (by simp [same])

theorem Uncommented.rewriting (uncommented : Uncommented s)
    (rewriting : Rewriting (Rewriting.Unmarked isMark) s t) : Uncommented t := by
  refine ⟨fun before after same => ?_, fun before inside after same => ?_⟩
  · subst same
    rw [List.append_assoc] at rewriting
    obtain ⟨front, rest, rfl, -⟩ := rewriting.marks_kept (by simp) (by simp [isMark])
    exact uncommented.line front rest (by simp)
  · subst same
    simp only [List.append_assoc] at rewriting
    -- The opener is found first, then the closer in what stands behind it.
    obtain ⟨front, rest, rfl, further⟩ := rewriting.marks_kept (by simp) (by simp [isMark])
    obtain ⟨middle, rest, rfl, -⟩ := further.marks_kept (by simp) (by simp [isMark])
    exact uncommented.block front middle rest (by simp)

end Comment

end Snippet
