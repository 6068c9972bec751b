import Snippet.Obfuscation.Quoted
import Snippet.Proofs.Renaming
import Snippet.Proofs.Scanning

/-! Encoded text.

The codes are written in a small alphabet. No keyword can be spelled in it, so
encoding brings no declaration; and outside the quotes nothing changes.
-/

set_option autoImplicit false

namespace Snippet.Quoted

variable {s rest content : Text} {c : Char}

def alphabet : Text := '"' :: '\\' :: 'u' :: (List.range 16).map Text.hexDigit

theorem eq_false_of_mem_alphabet (class_ : Char → Bool) (none : alphabet.all (!class_ ·))
    (member : c ∈ alphabet) : class_ c = false := by
  simpa using List.all_eq_true.mp none c member

theorem hexDigit_mem_alphabet (n : Nat) : Text.hexDigit (n % 16) ∈ alphabet := by
  simp only [alphabet, List.mem_cons, List.mem_map, List.mem_range]
  exact .inr (.inr (.inr ⟨n % 16, Nat.mod_lt n (by decide), rfl⟩))

theorem mem_escapeUnit {unit : Nat} (member : c ∈ escapeUnit unit) : c ∈ alphabet := by
  simp only [escapeUnit, List.mem_cons, List.not_mem_nil, or_false] at member
  rcases member with rfl | rfl | rfl | rfl | rfl | rfl
  · decide
  · decide
  all_goals exact hexDigit_mem_alphabet _

theorem mem_encode (member : c ∈ encode content) :
    c ∈ alphabet ∨ c ∈ content ∧ isLineEnd c := by
  simp only [encode, List.cons_append, List.mem_cons, List.mem_append, List.mem_flatMap,
    List.not_mem_nil, or_false] at member
  rcases member with rfl | ⟨d, inside, member⟩ | rfl
  · exact .inl (by decide)
  · rw [escape] at member
    split at member
    · next lineEnd =>
      obtain rfl := List.mem_singleton.mp member
      exact .inr ⟨inside, lineEnd⟩
    · obtain ⟨unit, _, coded⟩ := List.mem_flatMap.mp member
      exact .inl (mem_escapeUnit coded)
  · exact .inl (by decide)

/-! ## Quoted parts -/

theorem literal_read_eq_some (found : literal.read s = some (content, rest)) :
    s = '"' :: (content ++ '"' :: rest) := by
  simp only [literal] at found
  split at found
  · rw [Text.eq_append_of_cut? found]
    simp
  · simp at found

theorem literal_faithful : literal.Faithful := by
  intro s rest content found
  rw [literal_read_eq_some found]
  exact ⟨'"' :: (content ++ ['"']), by simp⟩

theorem unquoted_of_read (found : literal.read s = some (content, rest)) : '"' ∉ content := by
  have whole := literal_read_eq_some found
  rw [whole] at found
  intro member
  obtain ⟨front, back, rfl⟩ := List.mem_iff_append.mp member
  -- The search would have stopped at this quote.
  obtain ⟨_, same, -, earliest⟩ := Text.cutAt?_eq_some.mp found
  have unreached := earliest front ('"' :: back) rfl (by simp)
  simp [Text.after?] at unreached

theorem unquoted_of_unread {r : Text} (kept : literal.read ('"' :: r) = none) : '"' ∉ r := by
  rw [← List.singleton_infix_iff]
  exact Text.cut?_eq_none_iff.mp kept

theorem encodeStrings_nil : encodeStrings [] = [] := literal.replace_nil encode

theorem encodeStrings_none {r : Text} (kept : literal.read (c :: r) = none) :
    encodeStrings (c :: r) = c :: encodeStrings r :=
  literal.replace_none encode kept

theorem encodeStrings_some (taken : literal.read s = some (content, rest)) :
    encodeStrings s = encode content ++ encodeStrings rest :=
  literal.replace_some encode taken

theorem head?_encodeStrings (s : Text) : (encodeStrings s).head? = s.head? := by
  cases s with
  | nil => rw [encodeStrings_nil]
  | cons c r =>
    cases found : literal.read (c :: r) with
    | none => rw [encodeStrings_none found, List.head?_cons, List.head?_cons]
    | some accepted =>
      rw [encodeStrings_some found, literal_read_eq_some found]
      rfl

/-- What the encoded text has before a quote stood there before. -/
theorem front_of_encodeStrings {front t : Text} (same : encodeStrings s = front ++ t)
    (unquoted : '"' ∉ front) : ∃ r, s = front ++ r ∧ encodeStrings r = t := by
  induction front generalizing s with
  | nil => exact ⟨s, rfl, same⟩
  | cons c front ih =>
    have first := head?_encodeStrings s
    rw [same] at first
    obtain ⟨r, rfl⟩ : ∃ r, s = c :: r := by
      cases s with
      | nil => simp at first
      | cons d r =>
        obtain rfl : c = d := by simpa using first
        exact ⟨r, rfl⟩
    cases found : literal.read (c :: r) with
    | none =>
      rw [encodeStrings_none found, List.cons_append, List.cons.injEq] at same
      obtain ⟨rest, rfl, further⟩ := ih same.2 fun member => unquoted (by simp [member])
      exact ⟨rest, rfl, further⟩
    | some accepted =>
      -- What is encoded begins with a quote, and there is none in the front.
      obtain ⟨rfl, -⟩ := List.cons.inj (literal_read_eq_some found)
      simp at unquoted

/-! ## Declarations -/

open Declaration (SettledFrom)

theorem keyword_not_coded (keyword : Keyword) : ∃ d ∈ keyword.text.take 2,
    d ∉ alphabet ∧ isLineEnd d = false := by
  cases keyword with
  | var => exact ⟨'v', by decide⟩
  | let_ => exact ⟨'l', by decide⟩
  -- Its first letter is a digit of codes as well.
  | const => exact ⟨'o', by decide⟩

theorem read?_eq_none_of_coded {d : Char} {r : Text} (first : c ∈ alphabet ∨ isLineEnd c)
    (second : d ∈ alphabet ∨ isLineEnd d) : Declaration.read? (c :: d :: r) = none := by
  rw [← Option.not_isSome_iff_eq_none]
  intro found
  obtain ⟨keyword, gap, e, tail, same, -⟩ := Declaration.read?_isSome_iff.mp found
  obtain ⟨k, member, uncoded, inLine⟩ := keyword_not_coded keyword
  obtain ⟨_, _, _, letters⟩ := keyword.text_eq
  rw [letters] at same member
  obtain ⟨rfl, rest⟩ := List.cons.inj same
  obtain ⟨rfl, -⟩ := List.cons.inj rest
  simp only [List.take_succ_cons, List.take_zero, List.mem_cons, List.not_mem_nil,
    or_false] at member
  rcases member with rfl | rfl
  · simp [uncoded, inLine] at first
  · simp [uncoded, inLine] at second

theorem settledFrom_coded {codes : Text} {previous : Option Char}
    (coded : ∀ c ∈ codes, c ∈ alphabet ∨ isLineEnd c) (settled : SettledFrom (some '"') s) :
    SettledFrom previous (codes ++ '"' :: s) := by
  induction codes generalizing previous with
  | nil =>
    -- Only the quote is left, and no keyword begins with it.
    refine ⟨fun _ declaration rest read => ?_, settled⟩
    obtain ⟨same, -⟩ := Declaration.read?_eq_some_iff.mp read
    obtain ⟨_, _, _, letters⟩ := declaration.keyword.text_eq
    rw [Declaration.text, letters] at same
    obtain ⟨rfl, -⟩ := List.cons.inj same
    have letter : isWord '"' := Keyword.isWord_of_mem declaration.keyword
      (by simp [letters])
    exact absurd letter (by decide)
  | cons c codes ih =>
    refine ⟨fun _ declaration rest read => ?_, ih fun d member => coded d (by simp [member])⟩
    have first := coded c (by simp)
    have none : Declaration.read? (c :: (codes ++ '"' :: s)) = none := by
      cases codes with
      | nil => exact read?_eq_none_of_coded first (.inl (by decide))
      | cons d codes => exact read?_eq_none_of_coded first (coded d (by simp))
    cases none.symm.trans read

theorem settledFrom_encodeStrings {previous : Option Char} (settled : SettledFrom previous s) :
    SettledFrom previous (encodeStrings s) := by
  induction s using literal.scan_induction generalizing previous with
  | done => rwa [encodeStrings_nil]
  | keep c r kept ih =>
    have whole := encodeStrings_none kept
    rw [whole]
    refine ⟨fun boundary declaration rest read => ?_, ih settled.2⟩
    obtain ⟨same, wellFormed, ends⟩ := Declaration.read?_eq_some_iff.mp read
    -- The declaration ends before the next quote, so it is in the old text too.
    have unquoted : '"' ∉ declaration.text := by
      simp only [Declaration.text, List.mem_append, not_or]
      refine ⟨⟨fun member => ?_, fun member => ?_⟩, fun member => ?_⟩
      · exact absurd (Keyword.isWord_of_mem _ member) (by decide)
      · exact absurd (wellFormed.blank _ member) (by decide)
      · exact absurd (wellFormed.word _ member) (by decide)
    obtain ⟨behind, same, further⟩ := front_of_encodeStrings (whole.trans same) unquoted
    have endsBefore : behind.wordEnds := by
      rwa [Text.wordEnds, ← head?_encodeStrings, further]
    exact settled.1 boundary declaration behind
      (Declaration.read?_eq_some_iff.mpr ⟨same, wellFormed, endsBefore⟩)
  | take s content rest taken ih =>
    rw [encodeStrings_some taken]
    rw [literal_read_eq_some taken] at settled
    -- Behind the closing quote the old text was settled as well.
    have inner := ih (SettledFrom.behind ('"' :: content) settled)
    have coded : ∀ c ∈ '"' :: content.flatMap escape, c ∈ alphabet ∨ isLineEnd c := by
      intro c member
      have inside : c ∈ encode content := List.mem_append_left ['"'] member
      exact (mem_encode inside).imp_right And.right
    simpa [encode] using settledFrom_coded coded inner

end Snippet.Quoted
