import Snippet.Proofs.Blanks
import Snippet.Proofs.Comment.Markup

/-! The offsets of the scan for markup comments.

The scan cuts the text at offsets that it has computed, and fails where one lies outside the
text or inside a character. None does: what the scan has reached after any number of turns
stands between two characters, and so does everything that a search finds from there.
-/

set_option autoImplicit false

namespace Snippet

namespace Text

/-- The offset, in bytes of UTF-8, is that of an end of the text or of a place between two of
its characters. -/
def IsPlace (s : Text) (offset : Nat) : Prop :=
  ∃ front back, s = front ++ back ∧ bytes front = offset

theorem isPlace_iff {s : Text} {offset : Nat} : s.IsPlace offset ↔ (dropBytes? offset s).isSome := by
  rw [Option.isSome_iff_exists]
  simp only [dropBytes?_eq_some]
  exact exists_comm

theorem IsPlace.le_bytes {s : Text} {offset : Nat} (place : s.IsPlace offset) :
    offset ≤ bytes s := by
  obtain ⟨front, back, rfl, rfl⟩ := place
  rw [bytes_append]
  exact Nat.le_add_right _ _

end Text

namespace Comment

variable {s rest body inside before copied kept left : Text} {scan : Scan}

/-! ## Offsets -/

namespace Scan

inductive After (s : Text) : Nat → Scan → Prop where
  | start : After s 0 start
  | turn {n : Nat} {scan next : Scan} :
      After s n scan → scan.turn? s = some (.again next) → After s (n + 1) next

/-- All offsets of the next turn are places of the text: where the search begins, up to where
the text is copied, the two ends of the opener that is found, and the end of its comment. -/
structure InBounds (s : Text) (scan : Scan) : Prop where
  searchFrom : s.IsPlace scan.searchFrom
  copiedTo : s.IsPlace scan.copiedTo
  opened : ∀ sought before body, Text.dropBytes? scan.searchFrom s = some sought →
    Text.cut? opener sought = some (before, body) →
      scan.copiedTo ≤ scan.searchFrom + Text.bytes before ∧
      s.IsPlace (scan.searchFrom + Text.bytes before) ∧
      s.IsPlace (scan.searchFrom + Text.bytes before + Text.bytes opener)
  closed : ∀ sought before body inside rest, Text.dropBytes? scan.searchFrom s = some sought →
    Text.cut? opener sought = some (before, body) → Text.cut? closer body = some (inside, rest) →
      s.IsPlace (scan.searchFrom + Text.bytes before + Text.bytes opener + Text.bytes inside +
        Text.bytes closer)

theorem HasReached.inBounds (reached : scan.HasReached s copied kept rest) : scan.InBounds s where
  searchFrom := Text.isPlace_iff.mpr (by rw [reached.sought]; rfl)
  copiedTo := Text.isPlace_iff.mpr (by rw [reached.uncopied]; rfl)
  opened := by
    intro sought before body behind found
    -- What is searched is what the scan has left, so what it finds is a part of the text.
    obtain rfl : rest = sought := Option.some_inj.mp (reached.sought.symm.trans behind)
    refine ⟨?_, ⟨copied ++ (kept ++ before), opener ++ body, ?_, ?_⟩, ?_⟩
    · rw [reached.copiedTo, reached.searchFrom]
      omega
    · simp [reached.whole, Text.eq_append_of_cut? found]
    · simp only [Text.bytes_append, reached.searchFrom]
      omega
    · rw [Text.isPlace_iff, reached.behind_opener found]
      rfl
  closed := by
    intro sought before body inside rest' behind found closed
    obtain rfl : rest = sought := Option.some_inj.mp (reached.sought.symm.trans behind)
    refine ⟨copied ++ (kept ++ (before ++ (opener ++ (inside ++ closer)))), rest', ?_, ?_⟩
    · simp [reached.whole, Text.eq_append_of_cut? found, Text.eq_append_of_cut? closed]
    · simp only [Text.bytes_append, reached.searchFrom]
      omega

/-- The run: what holds at the start and after each turn holds after any number of them. -/
theorem After.hasReached {n : Nat} (after : After s n scan) :
    ∃ copied kept rest, scan.HasReached s copied kept rest := by
  induction after with
  | start => exact ⟨_, _, _, hasReached_start s⟩
  | turn _ turned ih =>
    obtain ⟨copied, kept, rest, reached⟩ := ih
    rcases reached.turn?_cases with ⟨ended, -⟩ | ⟨next, copied, kept, rest, again, onward⟩
    · cases turned.symm.trans ended
    · cases turned.symm.trans again
      exact ⟨copied, kept, rest, onward⟩

theorem After.le_searchFrom {n : Nat} (after : After s n scan) : n ≤ scan.searchFrom := by
  induction after with
  | start => exact Nat.le_refl _
  | turn _ turned ih =>
    have forward := searchFrom_lt_of_turn? turned
    omega

theorem After.isSome_turn? {n : Nat} (after : After s n scan) : (scan.turn? s).isSome := by
  obtain ⟨copied, kept, rest, reached⟩ := after.hasReached
  rcases reached.turn?_cases with ⟨ended, -⟩ | ⟨_, _, _, _, again, -⟩
  · simp [ended]
  · simp [again]

end Scan

/-! ## The plain scan -/

/-- A comment at the front of a text: what stands behind its opener is no marker of a
conditional comment, and the first closer there ends it. -/
structure BeginsComment (s inside rest : Text) : Prop where
  whole : s = opener ++ (inside ++ (closer ++ rest))
  noEndMarker : ¬ "<![endif]".toList <+: inside ++ (closer ++ rest)
  noIfMarker : ∀ c, isBlank c → ¬ "[if".toList ++ [c] <+: inside ++ (closer ++ rest)
  first : ∀ front back, inside ++ (closer ++ rest) = front ++ (closer ++ back) →
    inside.length ≤ front.length

/-- What is left of a text when it is read from the front: a comment is passed, and in any
other place one character is copied. -/
inductive Leaves : Text → Text → Prop where
  | done : Leaves [] []
  | pass {s inside rest left : Text} : BeginsComment s inside rest → Leaves rest left →
      Leaves s left
  | copy {c : Char} {r left : Text} : (∀ inside rest, ¬ BeginsComment (c :: r) inside rest) →
      Leaves r left → Leaves (c :: r) (c :: left)

theorem not_isConditional_iff : ¬ isConditional body ↔
    ¬ "<![endif]".toList <+: body ∧ ∀ c, isBlank c → ¬ "[if".toList ++ [c] <+: body := by
  simp only [isConditional_iff, Text.after?_eq_some, not_or, not_exists, not_and]
  refine and_congr ?_ ?_
  · constructor
    · rintro absent ⟨rest, rfl⟩
      exact absent rest rfl
    · rintro absent rest rfl
      exact absent (List.prefix_append _ rest)
  · constructor
    · rintro absent c blank ⟨rest, rfl⟩
      exact absent (c :: rest) (by simp) (by simpa using blank)
    · rintro absent rest rfl blank
      obtain ⟨c, r, rfl, blank⟩ := Text.head?_any_iff.mp blank
      exact absent c blank ⟨r, by simp⟩

theorem markup_read_iff : markup.read s = some (inside, rest) ↔ BeginsComment s inside rest := by
  rw [markup_read_eq_some]
  constructor
  · rintro ⟨body, rfl, plain, closed⟩
    obtain ⟨rfl, first⟩ := Text.cut?_eq_some_iff.mp closed
    obtain ⟨noEnd, noIf⟩ := not_isConditional_iff.mp plain
    exact ⟨rfl, noEnd, noIf, first⟩
  · rintro ⟨rfl, noEnd, noIf, first⟩
    exact ⟨_, rfl, not_isConditional_iff.mpr ⟨noEnd, noIf⟩, Text.cut?_eq_some_iff.mpr ⟨rfl, first⟩⟩

theorem leaves_erase (s : Text) : Leaves s (markup.erase s) := by
  induction s using markup.scan_induction with
  | done =>
    rw [markup.erase_nil]
    exact .done
  | keep c r unread ih =>
    rw [markup.erase_none unread]
    refine .copy (fun inside rest begins => ?_) ih
    rw [markup_read_iff.mpr begins] at unread
    cases unread
  | take s inside rest read ih =>
    rw [markup.erase_some read]
    exact .pass (markup_read_iff.mp read) ih

theorem leaves_iff : Leaves s left ↔ markup.erase s = left := by
  constructor
  · intro leaves
    induction leaves with
    | done => exact markup.erase_nil
    | pass begins _ ih => rw [markup.erase_some (markup_read_iff.mpr begins), ih]
    | copy plain _ ih =>
      rw [markup.erase_none, ih]
      rw [Option.eq_none_iff_forall_ne_some]
      rintro ⟨inside, rest⟩ read
      exact plain inside rest (markup_read_iff.mp read)
  · rintro rfl
    exact leaves_erase s

/-- After any number of turns, of which there are no more than bytes, all offsets of the scan are
places of the text and its next turn does not fail. So the scan comes to an end, and what it
keeps is what is left when the text is read from the front, comment by comment and character
by character. -/
theorem removeComments_scanned (s : Text) :
    (∀ n scan, Scan.After s n scan →
      n ≤ Text.bytes s ∧ scan.InBounds s ∧ (scan.turn? s).isSome) ∧
    Scan.start.run? s = some (removeComments .html s) ∧
    ∀ left, Leaves s left ↔ removeComments .html s = left := by
  have erased : removeComments .html s = markup.erase s := eraseMarkup_eq s
  refine ⟨fun n scan after => ?_, by rw [erased, run?_start], fun left => ?_⟩
  · obtain ⟨copied, kept, rest, reached⟩ := after.hasReached
    have places := reached.inBounds
    exact ⟨after.le_searchFrom.trans places.searchFrom.le_bytes, places, after.isSome_turn?⟩
  · rw [erased, leaves_iff]

theorem removeComments_scanned_letters :
    let page := "é<!--[if x]><!--ü-->ß<!--".toList
    let next : Scan := ⟨3, 0, []⟩
    Scan.After page 1 next ∧ next.InBounds page ∧
      Scan.start.run? page = some "é<!--[if x]>ß<!--".toList ∧
      Leaves page "é<!--[if x]>ß<!--".toList := by
  intro page next
  obtain ⟨turns, run, plain⟩ := removeComments_scanned page
  have kept : removeComments .html page = "é<!--[if x]>ß<!--".toList := by decide +kernel
  have after : Scan.After page 1 next := .turn .start (by decide +kernel)
  exact ⟨after, (turns 1 next after).2.1, kept ▸ run, (plain _).mpr kept⟩

end Comment

end Snippet
