import Mathlib.Data.List.Chain
import Snippet.Text.Reader

/-! Texts that differ in parts.

A scan keeps some characters and writes the accepted parts anew. What matters of
it for the next pass is a relation between the two texts that forgets the reader:
here the parts are found again, and what is not written anew is followed back.
-/

set_option autoImplicit false

namespace Snippet

variable {α : Type}

namespace Reader

/-- What a reader leaves is an end of the text it was given. -/
def Faithful (reader : Reader α) : Prop :=
  ∀ {s rest : Text} {a : α}, reader.read s = some (a, rest) → rest <:+ s

@[elab_as_elim]
theorem scan_induction (reader : Reader α) {motive : Text → Prop} (s : Text)
    (done : motive [])
    (keep : ∀ c r, reader.read (c :: r) = none → motive r → motive (c :: r))
    (take : ∀ s a rest, reader.read s = some (a, rest) → motive rest → motive s) :
    motive s := by
  -- An accepted part may be of any length, so the induction is on that of the text.
  obtain ⟨n, size⟩ : ∃ n, s.length ≤ n := ⟨s.length, Nat.le_refl _⟩
  induction n generalizing s with
  | zero => rwa [List.length_eq_zero_iff.mp (Nat.le_zero.mp size)]
  | succ n ih =>
    cases s with
    | nil => exact done
    | cons c r =>
      cases found : reader.read (c :: r) with
      | none => exact keep c r found (ih r (Nat.le_of_succ_le_succ size))
      | some accepted =>
        have shrinks := reader.shorter found
        exact take _ accepted.1 accepted.2 found (ih _ (by omega))

theorem forall_mem_replace {reader : Reader α} {holds : Char → Prop} {s : Text}
    (faithful : reader.Faithful) (write : α → Text)
    (kept : ∀ c r, c :: r <:+ s → reader.read (c :: r) = none → holds c)
    (written : ∀ t rest a, t <:+ s → reader.read t = some (a, rest) → ∀ c ∈ write a, holds c) :
    ∀ c ∈ reader.replace write s, holds c := by
  induction s using reader.scan_induction with
  | done => simp
  | keep d r unread ih =>
    have inner := ih (fun c t tail => kept c t (tail.trans (List.suffix_cons d r)))
      fun t rest a tail => written t rest a (tail.trans (List.suffix_cons d r))
    rw [reader.replace_none write unread]
    intro c member
    rcases List.mem_cons.mp member with rfl | member
    · exact kept c r List.suffix_rfl unread
    · exact inner c member
  | take s a rest taken ih =>
    have inner := ih (fun c t tail => kept c t (tail.trans (faithful taken)))
      fun t rest a tail => written t rest a (tail.trans (faithful taken))
    rw [reader.replace_some write taken]
    intro c member
    rcases List.mem_append.mp member with member | member
    · exact written s rest a List.suffix_rfl taken c member
    · exact inner c member

theorem erase_append {reader : Reader α} {s behind : Text} (faithful : reader.Faithful)
    (taken : ∀ t rest a, t <:+ s → reader.read t = some (a, rest) →
      ∃ b, reader.read (t ++ behind) = some (b, rest ++ behind))
    (kept : ∀ c r, c :: r <:+ s → reader.read (c :: r) = none →
      reader.read (c :: (r ++ behind)) = none) :
    reader.erase (s ++ behind) = reader.erase s ++ reader.erase behind := by
  induction s using reader.scan_induction with
  | done => rw [reader.erase_nil]; rfl
  | keep c r unread ih =>
    rw [List.cons_append, reader.erase_none (kept c r List.suffix_rfl unread),
      reader.erase_none unread, List.cons_append]
    exact congrArg _ (ih (fun t rest a tail => taken t rest a (tail.trans (List.suffix_cons c r)))
      fun d t tail => kept d t (tail.trans (List.suffix_cons c r)))
  | take s a rest found ih =>
    obtain ⟨b, read⟩ := taken s rest a List.suffix_rfl found
    rw [reader.erase_some read, reader.erase_some found]
    exact ih (fun t rest a tail => taken t rest a (tail.trans (faithful found)))
      fun d t tail => kept d t (tail.trans (faithful found))

end Reader

/-- The second text is the first one with some parts written anew, each as is allowed. -/
inductive Rewriting (allowed : Text → Text → Prop) : Text → Text → Prop where
  | done : Rewriting allowed [] []
  | keep {s t : Text} (c : Char) : Rewriting allowed s t → Rewriting allowed (c :: s) (c :: t)
  | write {old new s t : Text} : allowed old new → Rewriting allowed s t →
      Rewriting allowed (old ++ s) (new ++ t)

namespace Rewriting

variable {allowed other : Text → Text → Prop} {s t : Text}

theorem mono (rewriting : Rewriting allowed s t)
    (weaker : ∀ old new, allowed old new → other old new) : Rewriting other s t := by
  induction rewriting with
  | done => exact .done
  | keep c _ ih => exact .keep c ih
  | write written _ ih => exact .write (weaker _ _ written) ih

theorem append_front (front : Text) (rewriting : Rewriting allowed s t) :
    Rewriting allowed (front ++ s) (front ++ t) := by
  induction front with
  | nil => exact rewriting
  | cons c front ih => exact ih.keep c

theorem count_eq {c : Char} (rewriting : Rewriting allowed s t)
    (same : ∀ old new, allowed old new → new.count c = old.count c) : t.count c = s.count c := by
  induction rewriting with
  | done => rfl
  | keep d _ ih => rw [List.count_cons, List.count_cons, ih]
  | write written _ ih => rw [List.count_append, List.count_append, same _ _ written, ih]

theorem of_replace (reader : Reader α) (faithful : reader.Faithful) (write : α → Text)
    (written : ∀ old rest a, old ++ rest <:+ s → reader.read (old ++ rest) = some (a, rest) →
      allowed old (write a)) : Rewriting allowed s (reader.replace write s) := by
  induction s using reader.scan_induction with
  | done => simpa using Rewriting.done
  | keep c r kept ih =>
    rw [reader.replace_none write kept]
    exact (ih fun old rest a tail => written old rest a (tail.trans (List.suffix_cons c r))).keep c
  | take s a rest taken ih =>
    rw [reader.replace_some write taken]
    obtain ⟨old, rfl⟩ := faithful taken
    refine (ih fun old' rest' a' tail => ?_).write (written old rest a List.suffix_rfl taken)
    exact written old' rest' a' (tail.trans (List.suffix_append old rest))

/-- A scan is such a change if each text that its reader accepts is written as is allowed. -/
theorem of_accepted (reader : Reader α) (write : α → Text)
    (accepted : ∀ {s rest : Text} {a : α}, reader.read s = some (a, rest) →
      ∃ old, s = old ++ rest ∧ allowed old (write a)) (s : Text) :
    Rewriting allowed s (reader.replace write s) := by
  have faithful : reader.Faithful := fun found => by
    obtain ⟨old, whole, -⟩ := accepted found
    exact ⟨old, whole.symm⟩
  refine of_replace reader faithful write fun old rest a _ found => ?_
  obtain ⟨part, whole, written⟩ := accepted found
  rwa [List.append_cancel_right whole]

/-- A part is written without marks, and not by an empty text, so that it parts its
neighbours as well as before. -/
def Unmarked (isMark : Char → Bool) (_old new : Text) : Prop :=
  new ≠ [] ∧ ∀ c ∈ new, isMark c = false

variable {isMark : Char → Bool}

theorem marks_at_front {marks after : Text}
    (rewriting : Rewriting (Unmarked isMark) s (marks ++ after)) (marked : ∀ c ∈ marks, isMark c) :
    ∃ rest, s = marks ++ rest ∧ Rewriting (Unmarked isMark) rest after := by
  induction marks generalizing s with
  | nil => exact ⟨s, rfl, rewriting⟩
  | cons m ms ih =>
    generalize whole : m :: ms ++ after = t at rewriting
    cases rewriting with
    | done => simp at whole
    | keep c inner =>
      simp only [List.cons_append, List.cons.injEq] at whole
      obtain ⟨rfl, rfl⟩ := whole
      obtain ⟨rest, rfl, further⟩ := ih inner fun c member => marked c (by simp [member])
      exact ⟨rest, rfl, further⟩
    | @write old new s t written inner =>
      -- What is written is not empty and begins with no mark.
      obtain ⟨nonempty, plain⟩ := written
      cases new with
      | nil => exact absurd rfl nonempty
      | cons c new =>
        simp only [List.cons_append, List.cons.injEq] at whole
        have isPlain := plain m (by simp [whole.1])
        simp [marked m (by simp)] at isPlain

theorem marks_kept {before marks after : Text}
    (rewriting : Rewriting (Unmarked isMark) s (before ++ (marks ++ after)))
    (some_mark : marks ≠ []) (marked : ∀ c ∈ marks, isMark c) :
    ∃ front rest, s = front ++ (marks ++ rest) ∧ Rewriting (Unmarked isMark) rest after := by
  generalize whole : before ++ (marks ++ after) = t at rewriting
  induction rewriting generalizing before with
  | done => simp [some_mark] at whole
  | @keep s t c inner ih =>
    cases before with
    | nil =>
      -- The marks begin here, and none of them is written anew.
      have outer : Rewriting (Unmarked isMark) (c :: s) (marks ++ after) := by
        rw [show marks ++ after = c :: t from whole]
        exact inner.keep c
      obtain ⟨rest, same, further⟩ := outer.marks_at_front marked
      exact ⟨[], rest, same, further⟩
    | cons b before =>
      simp only [List.cons_append, List.cons.injEq] at whole
      obtain ⟨front, rest, same, further⟩ := ih whole.2
      exact ⟨c :: front, rest, by simp [same], further⟩
  | @write old new s t written inner ih =>
    rcases List.append_eq_append_iff.mp whole with ⟨middle, inNew, ends⟩ | ⟨middle, rfl, behind⟩
    · cases middle with
      | nil =>
        obtain ⟨front, rest, same, further⟩ := @ih [] (by simpa using ends)
        exact ⟨old ++ front, rest, by simp [same], further⟩
      | cons m middle =>
        -- The first mark would be a character of the new part.
        cases marks with
        | nil => exact absurd rfl some_mark
        | cons first marks =>
          simp only [List.cons_append, List.cons.injEq] at ends
          have isPlain := written.2 m (by simp [inNew])
          simp [← ends.1, marked first (by simp)] at isPlain
    · obtain ⟨front, rest, same, further⟩ := ih behind.symm
      exact ⟨old ++ front, rest, by simp [same], further⟩

end Rewriting

end Snippet
