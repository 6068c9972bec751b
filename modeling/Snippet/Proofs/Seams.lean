import Snippet.Proofs.Rewriting
import Snippet.Proofs.Scanning

/-! What the removal of parts joins.

Where a part is removed, its neighbours come together. What a reader accepts in the text
that is left was there before, or it lies across such a seam.
-/

set_option autoImplicit false

namespace Snippet

variable {α β : Type} {s t r rest before behind : Text}

namespace Reader

def Unread (reader : Reader α) (s : Text) : Prop := ∀ t, t <:+ s → reader.read t = none

/-- A place where a part is removed: what is left of the text in front of it and behind it. -/
inductive Seam (reader : Reader α) : (s before behind : Text) → Prop where
  | here {s rest : Text} {a : α} : reader.read s = some (a, rest) →
      Seam reader s [] (reader.erase rest)
  | kept {r before behind : Text} {c : Char} : reader.read (c :: r) = none →
      Seam reader r before behind → Seam reader (c :: r) (c :: before) behind
  | passed {s rest before behind : Text} {a : α} : reader.read s = some (a, rest) →
      Seam reader rest before behind → Seam reader s before behind

/-- What the reader accepts begins in the first text and ends in the second. -/
def Joins (reader : Reader α) (before behind : Text) : Prop :=
  ∃ front x y rest a, before = front ++ x ∧ behind = y ++ rest ∧ x ≠ [] ∧ y ≠ [] ∧
    reader.read (x ++ behind) = some (a, rest)

/-- Whether something is accepted does not depend on what stands behind it. -/
def Local (reader : Reader α) : Prop := ∀ {part rest : Text} {a : α} (behind : Text),
  reader.read (part ++ rest) = some (a, rest) → (reader.read (part ++ behind)).isSome

variable {reader : Reader α} {kind : Reader β}

theorem read_nil (reader : Reader α) : reader.read [] = none := by
  rw [Option.eq_none_iff_forall_ne_some]
  rintro ⟨a, rest⟩ found
  exact absurd (reader.shorter found) (by simp)

theorem unread_nil (reader : Reader α) : reader.Unread [] := by
  intro t tail
  rw [List.suffix_nil.mp tail, reader.read_nil]

theorem Unread.of_accepted
    (none : ∀ {t rest : Text} {a : α}, t <:+ s → reader.read t = some (a, rest) → False) :
    reader.Unread s := by
  intro t tail
  rw [Option.eq_none_iff_forall_ne_some]
  rintro ⟨a, rest⟩ found
  exact none tail found

theorem Unread.cons {c : Char} (first : reader.read (c :: r) = none) (unread : reader.Unread r) :
    reader.Unread (c :: r) := by
  intro t tail
  rcases List.suffix_cons_iff.mp tail with rfl | inner
  · exact first
  · exact unread t inner

theorem Unread.erase_eq_self (unread : reader.Unread s) : reader.erase s = s :=
  replace_eq_self _ (passes_of_unread fun part tail _ => by
    rw [List.append_nil]
    exact unread part tail)

theorem erase_sublist (faithful : reader.Faithful) (s : Text) : (reader.erase s).Sublist s := by
  induction s using reader.scan_induction with
  | done => simp
  | keep c r kept ih =>
    rw [reader.erase_none kept]
    exact ih.cons_cons c
  | take s a rest taken ih =>
    rw [reader.erase_some taken]
    exact ih.trans (faithful taken).sublist

theorem erase_eq_self_iff (faithful : reader.Faithful) : reader.erase s = s ↔ reader.Unread s := by
  refine ⟨fun same => ?_, Unread.erase_eq_self⟩
  induction s using reader.scan_induction with
  | done => exact reader.unread_nil
  | keep c r kept ih =>
    rw [reader.erase_none kept] at same
    exact Unread.cons kept (ih (List.cons.inj same).2)
  | take s a rest taken ih =>
    rw [reader.erase_some taken] at same
    have shrinks := reader.shorter taken
    have fits := (erase_sublist faithful rest).length_le
    rw [same] at fits
    omega

namespace Seam

theorem erase_eq (seam : reader.Seam s before behind) : reader.erase s = before ++ behind := by
  induction seam with
  | here found => rw [reader.erase_some found, List.nil_append]
  | kept unread _ ih => rw [reader.erase_none unread, ih, List.cons_append]
  | passed found _ ih => rw [reader.erase_some found, ih]

theorem behind_eq {y : Text} (seam : reader.Seam s before behind)
    (left : reader.erase s = before ++ y ++ rest) : behind = y ++ rest := by
  have same : before ++ behind = before ++ (y ++ rest) := by
    rw [← seam.erase_eq, left, List.append_assoc]
  exact List.append_cancel_left same

end Seam

theorem isPrefix_erase {part : Text} (first : part <+: reader.erase s) :
    part <+: s ∨
      ∃ before behind, reader.Seam s before behind ∧ before <+: part ∧ before ≠ part := by
  induction s using reader.scan_induction generalizing part with
  | done => exact .inl (by simpa using first)
  | keep c r kept ih =>
    rw [reader.erase_none kept] at first
    rcases List.prefix_cons_iff.mp first with rfl | ⟨part, rfl, inner⟩
    · exact .inl List.nil_prefix
    · rcases ih inner with plain | ⟨before, behind, seam, within, beyond⟩
      · exact .inl (List.cons_prefix_cons.mpr ⟨rfl, plain⟩)
      · exact .inr ⟨c :: before, behind, seam.kept kept, List.cons_prefix_cons.mpr ⟨rfl, within⟩,
          by simpa using beyond⟩
  | take s a rest taken _ =>
    by_cases none : part = []
    · exact .inl (none ▸ List.nil_prefix)
    · exact .inr ⟨[], _, .here taken, List.nil_prefix, Ne.symm none⟩

theorem exists_kept (scanned : reader.Faithful) (found : ¬ kind.Unread (reader.erase s)) :
    ∃ front c r, (∀ before behind, reader.Seam r before behind →
        reader.Seam s (front ++ c :: before) behind) ∧
      c :: r <:+ s ∧ reader.read (c :: r) = none ∧
      (kind.read (c :: reader.erase r)).isSome := by
  induction s using reader.scan_induction with
  | done =>
    rw [reader.erase_nil] at found
    exact absurd kind.unread_nil found
  | keep c r kept ih =>
    rw [reader.erase_none kept] at found
    by_cases behind : kind.Unread (reader.erase r)
    · refine ⟨[], c, r, fun _ _ seam => seam.kept kept, List.suffix_rfl, kept, ?_⟩
      by_contra first
      exact found (behind.cons (Option.not_isSome_iff_eq_none.mp first))
    · obtain ⟨front, d, t, seams, tail, unread, read⟩ := ih behind
      exact ⟨c :: front, d, t, fun _ _ seam => (seams _ _ seam).kept kept,
        tail.trans (List.suffix_cons c r), unread, read⟩
  | take s a rest taken ih =>
    rw [reader.erase_some taken] at found
    obtain ⟨front, d, t, seams, tail, unread, read⟩ := ih found
    exact ⟨front, d, t, fun _ _ seam => .passed taken (seams _ _ seam),
      tail.trans (scanned taken), unread, read⟩

/-- Where nothing was accepted that is kept, all that is accepted of what is left lies across
seams. -/
theorem unread_erase (scanned : reader.Faithful) (faithful : kind.Faithful) (isLocal : kind.Local)
    (plain : ∀ c r, c :: r <:+ s → reader.read (c :: r) = none → kind.read (c :: r) = none)
    (apart : ∀ before behind, reader.Seam s before behind → ¬ kind.Joins before behind) :
    kind.Unread (reader.erase s) := by
  by_contra found
  obtain ⟨front, c, r, seams, tail, kept, reads⟩ := exists_kept scanned found
  obtain ⟨⟨a, rest⟩, read⟩ := Option.isSome_iff_exists.mp reads
  obtain ⟨part, whole⟩ := faithful read
  have shrinks := kind.shorter read
  cases part with
  | nil => simp [show rest = c :: reader.erase r from whole] at shrinks
  | cons d part =>
    obtain ⟨rfl, left⟩ : d = c ∧ part ++ rest = reader.erase r := List.cons.inj whole
    rw [← left, ← List.cons_append] at read
    rcases isPrefix_erase ⟨rest, left⟩ with ⟨others, rfl⟩ | ⟨before, behind, seam, ⟨y, rfl⟩, beyond⟩
    · have still := isLocal others read
      rw [List.cons_append, plain d _ tail kept] at still
      cases still
    · obtain rfl := seam.behind_eq left.symm
      have some_y : y ≠ [] := fun none => beyond (by simp [none])
      have joined : kind.read (d :: before ++ (y ++ rest)) = some (a, rest) := by simpa using read
      exact apart _ _ (seams _ _ seam)
        ⟨front, d :: before, y, rest, a, rfl, rfl, by simp, some_y, joined⟩

theorem not_unread_of_joins (seam : reader.Seam s before behind)
    (joins : kind.Joins before behind) : ¬ kind.Unread (reader.erase s) := by
  obtain ⟨front, x, y, rest, a, rfl, rfl, -, -, read⟩ := joins
  intro unread
  have none := unread (x ++ (y ++ rest)) ⟨front, by rw [seam.erase_eq, List.append_assoc]⟩
  rw [read] at none
  cases none

theorem unread_erase_iff (scanned : reader.Faithful) (faithful : kind.Faithful)
    (isLocal : kind.Local)
    (plain : ∀ c r, c :: r <:+ s → reader.read (c :: r) = none → kind.read (c :: r) = none) :
    kind.Unread (reader.erase s) ↔
      ¬ ∃ before behind, reader.Seam s before behind ∧ kind.Joins before behind := by
  constructor
  · rintro unread ⟨before, behind, seam, joins⟩
    exact not_unread_of_joins seam joins unread
  · intro apart
    exact unread_erase scanned faithful isLocal plain
      fun before behind seam joins => apart ⟨before, behind, seam, joins⟩

/-- A second removal changes nothing unless the first one joins neighbours. -/
theorem erase_erase_iff (faithful : reader.Faithful) (isLocal : reader.Local) :
    reader.erase (reader.erase s) = reader.erase s ↔
      ¬ ∃ before behind, reader.Seam s before behind ∧ reader.Joins before behind :=
  (erase_eq_self_iff faithful).trans
    (unread_erase_iff faithful faithful isLocal fun _ _ _ => id)

/-- What the reader accepts begins with one text and ends behind it, and an opener with which
nothing is accepted stays one when the rest is scanned. -/
structure Opens (reader : Reader α) (first : Char) (others : Text) : Prop where
  begins : ∀ {s rest : Text} {a : α}, reader.read s = some (a, rest) →
    ∃ body, s = first :: (others ++ body) ∧ rest <:+ body
  once : first ∉ others
  stays : ∀ {body : Text}, reader.read (first :: (others ++ body)) = none →
    reader.read (first :: (others ++ reader.erase body)) = none

namespace Opens

variable {first : Char} {others : Text}

theorem erase_others (opens : reader.Opens first others) (body : Text) :
    reader.erase (others ++ body) = others ++ reader.erase body := by
  refine replace_passes _ (passes_of_unread fun part tail some_part => ?_)
  rw [Option.eq_none_iff_forall_ne_some]
  rintro ⟨a, rest⟩ found
  obtain ⟨c, part, rfl⟩ := List.exists_cons_of_ne_nil some_part
  obtain ⟨_, same, -⟩ := opens.begins found
  exact opens.once ((List.cons.inj same).1 ▸ tail.subset (by simp))

/-- An opener that is kept in one piece opens no more than before. So one that opens something
has been put together. -/
theorem exists_seam (opens : reader.Opens first others) (faithful : reader.Faithful)
    (found : ¬ reader.Unread (reader.erase s)) :
    ∃ front x y body, reader.Seam s (front ++ x) (y ++ body) ∧ x ++ y = first :: others ∧
      x ≠ [] ∧ y ≠ [] ∧ (reader.read (first :: (others ++ body))).isSome := by
  obtain ⟨front, c, r, seams, -, kept, read⟩ := exists_kept faithful found
  obtain ⟨⟨a, rest⟩, here⟩ := Option.isSome_iff_exists.mp read
  obtain ⟨body, same, -⟩ := opens.begins here
  obtain ⟨rfl, left⟩ := List.cons.inj same
  rw [left] at read
  rcases isPrefix_erase ⟨body, left.symm⟩ with
    ⟨tail, rfl⟩ | ⟨before, behind, seam, ⟨y, rfl⟩, beyond⟩
  · rw [opens.erase_others, opens.stays kept] at here
    cases here
  · obtain rfl := seam.behind_eq left
    exact ⟨front, c :: before, y, body, seams _ _ seam, rfl, by simp,
      fun none => beyond (by simp [none]), read⟩

/-- Neighbours are joined exactly where an opener is put together. -/
theorem joins_iff (opens : reader.Opens first others) (faithful : reader.Faithful) :
    (∃ before behind, reader.Seam s before behind ∧ reader.Joins before behind) ↔
      ∃ front x y body, reader.Seam s (front ++ x) (y ++ body) ∧ x ++ y = first :: others ∧
        x ≠ [] ∧ y ≠ [] ∧ (reader.read (first :: (others ++ body))).isSome := by
  constructor
  · rintro ⟨before, behind, seam, joins⟩
    exact opens.exists_seam faithful (not_unread_of_joins seam joins)
  · rintro ⟨front, x, y, body, seam, whole, some_x, some_y, read⟩
    obtain ⟨⟨a, rest⟩, read⟩ := Option.isSome_iff_exists.mp read
    rw [← List.cons_append, ← whole] at read
    obtain ⟨_, same, ends⟩ := opens.begins read
    rw [← List.cons_append, ← whole] at same
    obtain rfl := List.append_cancel_left same
    obtain ⟨middle, rfl⟩ := ends
    refine ⟨_, _, seam, front, x, y ++ middle, rest, a, rfl, (List.append_assoc ..).symm, some_x,
      by simp [some_y], ?_⟩
    rwa [List.append_assoc] at read

end Opens

end Reader

end Snippet
