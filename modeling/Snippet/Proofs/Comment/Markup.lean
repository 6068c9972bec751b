import Snippet.Comment
import Snippet.Proofs.Rewriting
import Snippet.Proofs.Scanning

/-! Markup comments in one scan over characters.

The scan for markup comments goes from offset to offset. Each of them stands between two
characters, so that no turn of it fails, and what it keeps is what a scan keeps that reads a
comment at the front of a text.
-/

set_option autoImplicit false

namespace Snippet

namespace Comment

variable {s rest body inside before : Text}

theorem isConditional_iff : isConditional s ↔
    (∃ rest, Text.after? "<![endif]".toList s = some rest) ∨
    ∃ rest, Text.after? "[if".toList s = some rest ∧ rest.head?.any isBlank := by
  rw [isConditional, Bool.or_eq_true, Option.isSome_iff_exists]
  cases Text.after? "[if".toList s <;> simp

/-- A comment at the front of a text, if it is no marker of a conditional comment. -/
def markup : Reader Text where
  read s :=
    (Text.after? opener s).bind fun body =>
      if isConditional body then none else Text.cut? closer body
  shorter := by
    intro s inside rest h
    simp only [Option.bind_eq_some_iff, Option.ite_none_left_eq_some] at h
    obtain ⟨body, opened, -, closed⟩ := h
    rw [Text.after?_eq_some.mp opened, Text.eq_append_of_cut? closed]
    simp [opener, closer]
    omega

theorem markup_read_eq_some : markup.read s = some (inside, rest) ↔
    ∃ body, s = opener ++ body ∧ ¬ isConditional body ∧
      Text.cut? closer body = some (inside, rest) := by
  simp only [markup, Option.bind_eq_some_iff, Option.ite_none_left_eq_some, Text.after?_eq_some]

theorem markup_faithful : markup.Faithful := by
  intro s rest inside found
  obtain ⟨body, rfl, -, closed⟩ := markup_read_eq_some.mp found
  rw [Text.eq_append_of_cut? closed]
  exact (List.suffix_append (inside ++ closer) rest).trans (List.suffix_append opener _)

theorem markup_read_eq_none (unopened : Text.after? opener s = none) : markup.read s = none := by
  simp [markup, unopened]

/-- The text is kept up to the place where the search for an opener stops. -/
theorem erase_cut (found : Text.cut? opener s = some (before, body)) :
    markup.erase s = before ++ markup.erase (opener ++ body) := by
  obtain ⟨t, rfl, opened, earliest⟩ := Text.cutAt?_eq_some.mp found
  obtain rfl := Text.after?_eq_some.mp opened
  refine Reader.replace_passes _ (Reader.passes_of_unread fun part tail some_part => ?_)
  obtain ⟨front, rfl⟩ := tail
  exact markup_read_eq_none (earliest front part rfl some_part)

theorem erase_plain {t : Text} (unopened : ¬ opener <:+: t) (apart : ¬ Text.Completes opener s) :
    markup.erase (t ++ s) = t ++ markup.erase s :=
  Reader.replace_passes _ (Reader.passes_of_unread fun _ tail some_part =>
    markup_read_eq_none (Text.after?_append_eq_none unopened apart tail some_part))

theorem erase_unopened (unopened : ¬ opener <:+: s) : markup.erase s = s := by
  simpa using erase_plain unopened (Text.not_completes_of_head (s := []) (by simp))

theorem erase_eq_self_of_unclosed (unclosed : ∀ body, opener ++ body <:+ s → ¬ closer <:+: body) :
    markup.erase s = s := by
  refine Reader.replace_eq_self _ (Reader.passes_of_unread fun part tail _ => ?_)
  rw [List.append_nil, Option.eq_none_iff_forall_ne_some]
  rintro ⟨inside, rest⟩ read
  obtain ⟨body, rfl, -, closed⟩ := markup_read_eq_some.mp read
  exact unclosed body tail ⟨inside, rest, (Text.eq_append_of_cut? closed).symm⟩

/-- Without a closer behind the first opener there is none behind a later one either. -/
theorem erase_unclosed (unclosed : Text.cut? closer body = none) :
    markup.erase (opener ++ body) = opener ++ body := by
  refine erase_eq_self_of_unclosed fun later tail closed => ?_
  have within : later <:+ body := by
    refine List.suffix_of_suffix_length_le
      ((List.suffix_append opener later).trans tail) (List.suffix_append opener body) ?_
    have short := tail.length_le
    simp only [List.length_append] at short
    omega
  exact Text.cut?_eq_none_iff.mp unclosed (closed.trans within.isInfix)

theorem erase_conditional (conditional : isConditional body) :
    '<' :: markup.erase (opener.tail ++ body) = markup.erase (opener ++ body) := by
  refine (markup.erase_none (c := '<') ?_).symm
  rw [Option.eq_none_iff_forall_ne_some]
  rintro ⟨inside, rest⟩ read
  obtain ⟨same, opened, plain, -⟩ := markup_read_eq_some.mp read
  obtain rfl := (List.append_right_inj opener).mp opened
  exact plain conditional

/-! ## From offset to offset -/

/-- What stands in front of `rest` is `copied`, of which the scan has kept its result, and then
`kept`, in which no comment begins. -/
structure Scan.HasReached (scan : Scan) (s copied kept rest : Text) : Prop where
  whole : s = copied ++ (kept ++ rest)
  copiedTo : scan.copiedTo = Text.bytes copied
  searchFrom : scan.searchFrom = Text.bytes copied + Text.bytes kept
  result : markup.erase s = scan.result ++ (kept ++ markup.erase rest)

namespace Scan

variable {scan : Scan} {copied kept : Text}

theorem hasReached_start (s : Text) : start.HasReached s [] [] s := ⟨rfl, rfl, rfl, rfl⟩

namespace HasReached

theorem sought (reached : scan.HasReached s copied kept rest) :
    Text.dropBytes? scan.searchFrom s = some rest := by
  rw [Text.dropBytes?_eq_some]
  exact ⟨copied ++ kept, by simp [reached.whole], by rw [Text.bytes_append, reached.searchFrom]⟩

theorem uncopied (reached : scan.HasReached s copied kept rest) :
    Text.dropBytes? scan.copiedTo s = some (kept ++ rest) := by
  rw [reached.copiedTo, reached.whole, Text.dropBytes?_append]

theorem behind_opener (reached : scan.HasReached s copied kept rest)
    (found : Text.cut? opener rest = some (before, body)) :
    Text.dropBytes? (scan.searchFrom + Text.bytes before + Text.bytes opener) s = some body := by
  rw [Text.dropBytes?_eq_some]
  refine ⟨copied ++ (kept ++ (before ++ opener)), ?_, ?_⟩
  · simp [reached.whole, Text.eq_append_of_cut? found]
  · simp only [Text.bytes_append, reached.searchFrom]
    omega

theorem in_front (reached : scan.HasReached s copied kept rest)
    (found : Text.cut? opener rest = some (before, body)) :
    Text.slice? s scan.copiedTo (scan.searchFrom + Text.bytes before) = some (kept ++ before) := by
  have whole : s = copied ++ ((kept ++ before) ++ (opener ++ body)) := by
    simp [reached.whole, Text.eq_append_of_cut? found]
  have stop : scan.searchFrom + Text.bytes before =
      Text.bytes copied + Text.bytes (kept ++ before) := by
    rw [reached.searchFrom, Text.bytes_append, Nat.add_assoc]
  rw [stop, reached.copiedTo, whole, Text.slice?_append]

theorem passConditional (reached : scan.HasReached s copied kept rest)
    (found : Text.cut? opener rest = some (before, body)) (conditional : isConditional body) :
    HasReached { scan with searchFrom := scan.searchFrom + Text.bytes before + 1 }
      s copied (kept ++ (before ++ ['<'])) (opener.tail ++ body) where
  whole := by simp [reached.whole, Text.eq_append_of_cut? found, opener]
  copiedTo := reached.copiedTo
  searchFrom := by
    -- The next byte begins a character, since the first one of an opener has one byte.
    have one : Text.bytes ['<'] = 1 := by decide
    simp only [Text.bytes_append, reached.searchFrom, one]
    omega
  result := by
    rw [reached.result, erase_cut found, ← erase_conditional conditional]
    simp

theorem passComment (reached : scan.HasReached s copied kept rest)
    (found : Text.cut? opener rest = some (before, body)) (plain : ¬ isConditional body)
    {left : Text} (closed : Text.cut? closer body = some (inside, left)) :
    let stop := scan.searchFrom + Text.bytes before + Text.bytes opener + Text.bytes inside +
      Text.bytes closer
    HasReached ⟨stop, stop, scan.result ++ (kept ++ before)⟩ s
      (copied ++ (kept ++ (before ++ (opener ++ (inside ++ closer))))) [] left := by
  have comment := Text.eq_append_of_cut? closed
  have read : markup.read (opener ++ body) = some (inside, left) :=
    markup_read_eq_some.mpr ⟨body, rfl, plain, closed⟩
  have stop : scan.searchFrom + Text.bytes before + Text.bytes opener + Text.bytes inside +
      Text.bytes closer =
        Text.bytes (copied ++ (kept ++ (before ++ (opener ++ (inside ++ closer))))) := by
    simp only [Text.bytes_append, reached.searchFrom]
    omega
  refine ⟨?_, stop, by rw [Text.bytes_nil]; exact stop, ?_⟩
  · simp [reached.whole, Text.eq_append_of_cut? found, comment]
  · rw [reached.result, erase_cut found, markup.erase_some read]
    simp

/-- A turn fails nowhere: it ends the search, and the rest is kept, or goes on behind it. -/
theorem turn?_cases (reached : scan.HasReached s copied kept rest) :
    (scan.turn? s = some .ended ∧ markup.erase rest = rest) ∨
    ∃ next copied kept rest, scan.turn? s = some (.again next) ∧
      next.HasReached s copied kept rest := by
  cases found : Text.cut? opener rest with
  | none =>
    refine .inl ⟨?_, erase_unopened (Text.cut?_eq_none_iff.mp found)⟩
    simp [turn?, reached.sought, found]
  | some parts =>
    obtain ⟨before, body⟩ := parts
    by_cases conditional : isConditional body
    · refine .inr ⟨_, _, _, _, ?_, reached.passConditional found conditional⟩
      simp [turn?, reached.sought, found, reached.behind_opener found, conditional]
    · cases closed : Text.cut? closer body with
      | none =>
        refine .inl ⟨?_, ?_⟩
        · simp [turn?, reached.sought, found, reached.behind_opener found, conditional, closed]
        · rw [erase_cut found, erase_unclosed closed, Text.eq_append_of_cut? found,
            List.append_assoc]
      | some parts =>
        obtain ⟨inside, left⟩ := parts
        refine .inr ⟨_, _, _, _, ?_, reached.passComment found conditional closed⟩
        simp [turn?, reached.sought, found, reached.behind_opener found, conditional, closed,
          reached.in_front found]

theorem run?_eq_some (reached : scan.HasReached s copied kept rest) :
    scan.run? s = some (markup.erase s) := by
  -- A turn that goes on comes further, so the induction is on what is left to search.
  induction size : Text.bytes s - scan.searchFrom using Nat.strong_induction_on
    generalizing scan copied kept rest with
  | _ n ih =>
    subst size
    rcases reached.turn?_cases with ⟨ended, left⟩ | ⟨next, copied, kept, rest, again, onward⟩
    · rw [Scan.run?_ended ended, reached.uncopied, reached.result, left]
      rfl
    · have forward := searchFrom_lt_of_turn? again
      rw [Scan.run?_again again]
      exact ih _ (by omega) onward rfl

end HasReached

end Scan

/-- The scan never fails, and keeps what a scan over characters keeps. -/
theorem run?_start (s : Text) : Scan.start.run? s = some (markup.erase s) :=
  (Scan.hasReached_start s).run?_eq_some

theorem eraseMarkup_eq (s : Text) : eraseMarkup s = markup.erase s := by
  rw [eraseMarkup, run?_start, Option.getD_some]

end Comment

end Snippet
