import Mathlib.Data.List.Infix
import Snippet.Proofs.Scanning
import Snippet.Toml.StringForm

/-! Written strings are read back.

Each form is read back from what was written in it, whatever stands behind the mark at
its end. A form that knows escapes holds any text; a form without them is chosen only
for a text that it shows.
-/

set_option autoImplicit false

namespace Snippet.Toml

variable {c quote : Char} {s t rest : Text}

/-! ## Escapes -/

theorem hexValue?_hexCapital {n : Nat} (below : n < 16) : hexValue? (hexCapital n) = some n := by
  have all : ∀ n < 16, hexValue? (hexCapital n) = some n := by decide
  exact all n below

/-- What stands behind a backslash for a character: it is read as an escape, and not as
a backslash at the end of a line. -/
structure IsEscape (c : Char) (code : Text) : Prop where
  reads : ∀ rest, readEscape (code ++ rest) = some (c, rest)
  continues : ∀ rest, afterLineBreak? ((code ++ rest).dropWhile isSpace) = none

theorem isEscape_letter {d : Char} (reads : ∀ rest, readEscape (d :: rest) = some (c, rest))
    (visible : isSpace d = false) (continues : ∀ rest, afterLineBreak? (d :: rest) = none) :
    IsEscape c [d] :=
  ⟨reads, fun rest => by
    simp only [List.cons_append, List.nil_append, List.dropWhile_cons, visible]
    exact continues rest⟩

theorem isEscape_code (small : c.toNat < 0x80) :
    IsEscape c ['u', '0', '0', hexCapital (c.toNat / 16 % 16), hexCapital (c.toNat % 16)] := by
  have high := hexValue?_hexCapital (Nat.mod_lt (c.toNat / 16) (show 16 > 0 by decide))
  have low := hexValue?_hexCapital (Nat.mod_lt c.toNat (show 16 > 0 by decide))
  have zero : hexValue? '0' = some 0 := by decide
  have value : ((0 * 16 + 0) * 16 + 0) * 16 + c.toNat / 16 % 16 = c.toNat / 16 := by omega
  have whole : c.toNat / 16 * 16 + c.toNat % 16 = c.toNat := Nat.div_add_mod' c.toNat 16
  refine ⟨fun rest => ?_, fun rest => rfl⟩
  have code : readHex 0 4 ('0' :: '0' :: hexCapital (c.toNat / 16 % 16) ::
      hexCapital (c.toNat % 16) :: rest) = some (c.toNat, rest) := by
    simp only [readHex, zero, high, low, value, whole]
  have char : charOfCode? c.toNat = some c := by
    rw [charOfCode?, if_pos (.inl (by omega)), Char.ofNat_toNat]
  simp [readEscape, code, char]

theorem escaped_cases (c : Char) :
    (escaped c = [c] ∧ isControl c = false ∧ c ≠ '"' ∧ c ≠ '\\') ∨
      ∃ code, escaped c = '\\' :: code ∧ IsEscape c code := by
  unfold escaped
  split
  iterate 7 exact .inr ⟨_, rfl, isEscape_letter (fun _ => rfl) rfl fun _ => rfl⟩
  next noQuote noBackslash =>
    split
    · next control =>
      refine .inr ⟨_, rfl, isEscape_code ?_⟩
      simp only [isControl, Bool.or_eq_true, Bool.and_eq_true, decide_eq_true_eq,
        beq_iff_eq] at control
      omega
    · next plain => exact .inl ⟨rfl, by simpa using plain, noQuote, noBackslash⟩

/-! ## Forms on one line -/

theorem readBasic_flatMap_escaped (s rest : Text) :
    ∀ fuel, s.length < fuel → readBasic fuel (s.flatMap escaped ++ '"' :: rest) = some (s, rest) := by
  induction s with
  | nil =>
    rintro (_ | fuel) enough
    · simp at enough
    · simp [readBasic]
  | cons c s ih =>
    rintro (_ | fuel) enough
    · simp at enough
    have inner := ih fuel (Nat.lt_of_succ_lt_succ enough)
    rw [List.flatMap_cons, List.append_assoc]
    rcases escaped_cases c with ⟨same, plain, noQuote, noBackslash⟩ | ⟨code, same, isEscape⟩
    · rw [same, List.cons_append, List.nil_append, readBasic]
      · simp [plain, inner]
      · exact noQuote
      · exact noBackslash
    · rw [same, List.cons_append, readBasic]
      simp [isEscape.reads, inner]

theorem readLiteral_append (shown : StringForm.literal.shows s) (rest : Text) :
    readLiteral (s ++ '\'' :: rest) = some (s, rest) := by
  induction s with
  | nil => simp [readLiteral]
  | cons c s ih =>
    simp only [StringForm.shows, List.any_cons, Bool.not_eq_true', Bool.or_eq_false_iff,
      beq_eq_false_iff_ne] at shown ih
    obtain ⟨⟨plain, noQuote⟩, behind⟩ := shown
    rw [List.cons_append, readLiteral]
    · simp [plain, ih (by simpa using behind)]
    · exact noQuote

/-! ## The mark at the end of several lines -/

def Apart (quote : Char) (rest : Text) : Prop := ∀ c ∈ rest.head?, c ≠ quote

theorem quoteRun_quotes (apart : Apart quote rest) (n : Nat) :
    quoteRun quote (List.replicate n quote ++ rest) = n := by
  have behind : rest.takeWhile (· == quote) = [] := by
    cases rest with
    | nil => rfl
    | cons c r => simp [apart c rfl]
  rw [quoteRun, List.takeWhile_append_of_pos (by simp), behind]
  simp

theorem exists_quotes (absent : ¬ tripled quote <:+: s) :
    ∃ n ≤ 2, ∃ behind, s = List.replicate n quote ++ behind ∧ Apart quote behind := by
  have parts := List.takeWhile_append_dropWhile (p := (· == quote)) (l := s)
  have quotes : s.takeWhile (· == quote) = List.replicate (quoteRun quote s) quote := by
    refine List.eq_replicate_iff.mpr ⟨rfl, fun c member => ?_⟩
    simpa using List.all_eq_true.mp List.all_takeWhile c member
  rw [quotes] at parts
  refine ⟨quoteRun quote s, ?_, _, parts.symm, fun c first => ?_⟩
  · by_contra many
    refine absent ?_
    rw [← parts, ← Nat.sub_add_cancel (show 3 ≤ quoteRun quote s by omega), Nat.add_comm,
      List.replicate_add, List.append_assoc]
    exact (List.prefix_append _ _).isInfix
  · have stopped := List.head?_dropWhile_not (· == quote) s
    simpa [show (s.dropWhile (· == quote)).head? = some c from first] using stopped

theorem closing?_quotes {n : Nat} (few : n ≤ 2) (apart : Apart quote rest) :
    closing? quote (List.replicate n quote ++ (tripled quote ++ rest)) =
      some (List.replicate n quote, rest) := by
  have run : quoteRun quote (List.replicate n quote ++ (tripled quote ++ rest)) = n + 3 := by
    rw [tripled, ← List.append_assoc, ← List.replicate_add, quoteRun_quotes apart]
  have extra : min n 2 = n := Nat.min_eq_left few
  have dropped : (List.replicate n quote ++ (tripled quote ++ rest)).drop (n + 3) = rest := by
    rw [tripled, ← List.append_assoc, ← List.replicate_add]
    simp
  simp [closing?, run, extra, dropped]

theorem closing?_mark (apart : Apart quote rest) :
    closing? quote (tripled quote ++ rest) = some ([], rest) :=
  closing?_quotes (Nat.zero_le 2) apart

theorem closing?_eq_none {n : Nat} (few : n ≤ 2) (apart : Apart quote s) :
    closing? quote (List.replicate n quote ++ s) = none := by
  simp [closing?, quoteRun_quotes apart, few, Nat.lt_succ_of_le]

/-- The mark has not come where more than quotes is left of the content. -/
theorem closing?_content {n : Nat} (few : n ≤ 2) (stops : Apart quote s) (some_text : s ≠ [])
    (rest : Text) : closing? quote (List.replicate n quote ++ s ++ rest) = none := by
  obtain ⟨d, behind, rfl⟩ := List.exists_cons_of_ne_nil some_text
  rw [List.append_assoc]
  exact closing?_eq_none few fun c first => stops c (by simpa using first)

/-! ## Forms on several lines -/

def IsShown (c : Char) : Prop := isControl c = false ∨ c = '\n'

theorem afterLineBreak?_cons (plain : isControl c = false) (s : Text) :
    afterLineBreak? (c :: s) = none := by
  have noBreak : c ≠ '\n' ∧ c ≠ '\r' := by
    constructor <;> rintro rfl <;> exact absurd plain (by decide)
  unfold afterLineBreak?
  split <;> simp_all

theorem readLiteralLines_cons {fuel : Nat} (passed : closing? '\'' (c :: s) = none)
    (shown : IsShown c) :
    readLiteralLines (fuel + 1) (c :: s) =
      (readLiteralLines fuel s).map fun (content, rest) => (c :: content, rest) := by
  simp only [readLiteralLines, passed]
  rcases shown with plain | rfl
  · simp only [afterLineBreak?_cons plain, plain]
    cases readLiteralLines fuel s <;> rfl
  · simp only [afterLineBreak?]
    cases readLiteralLines fuel s <;> rfl

theorem readBasicLines_cons {fuel : Nat} (passed : closing? '"' (c :: s) = none)
    (shown : IsShown c) (noBackslash : c ≠ '\\') :
    readBasicLines (fuel + 1) (c :: s) =
      (readBasicLines fuel s).map fun (content, rest) => (c :: content, rest) := by
  rcases shown with plain | rfl
  · rw [readBasicLines.eq_def]
    simp only [passed, afterLineBreak?_cons plain, plain]
    cases readBasicLines fuel s <;> rfl
  · simp only [readBasicLines, passed, afterLineBreak?]
    cases readBasicLines fuel s <;> rfl

theorem readBasicLines_escape {fuel : Nat} {code : Text}
    (passed : closing? '"' ('\\' :: (code ++ s)) = none) (isEscape : IsEscape c code) :
    readBasicLines (fuel + 1) ('\\' :: (code ++ s)) =
      (readBasicLines fuel s).map fun (content, rest) => (c :: content, rest) := by
  rw [readBasicLines]
  simp only [passed, isEscape.continues, isEscape.reads, Option.bind_eq_bind, Option.bind_some]
  cases readBasicLines fuel s <;> rfl

theorem readLiteralLines_append (shown : StringForm.literalLines.shows s)
    (apart : Apart '\'' rest) :
    ∀ fuel, s.length < fuel →
      readLiteralLines fuel (s ++ (tripled '\'' ++ rest)) = some (s, rest) := by
  simp only [StringForm.shows, Bool.and_eq_true, Bool.not_eq_true', Option.isNone_iff_eq_none,
    Text.cut?_eq_none_iff] at shown
  obtain ⟨plain, absent⟩ := shown
  induction s with
  | nil =>
    rintro (_ | fuel) enough
    · simp at enough
    · simp only [readLiteralLines, List.nil_append, closing?_mark apart]
  | cons c s ih =>
    rintro (_ | fuel) enough
    · simp at enough
    obtain ⟨n, few, behind, parts, stops⟩ := exists_quotes absent
    -- Where only quotes are left, they are read with the mark.
    by_cases only : behind = []
    · rw [only, List.append_nil] at parts
      rw [parts]
      simp only [readLiteralLines, closing?_quotes few apart]
    · simp only [List.any_cons, Bool.or_eq_false_iff, Bool.and_eq_false_iff, bne_eq_false_iff_eq]
        at plain
      have inner := ih plain.2 (fun inside => absent (inside.trans (List.suffix_cons c s).isInfix))
        fuel (Nat.lt_of_succ_lt_succ enough)
      have passed := closing?_content few stops only (tripled '\'' ++ rest)
      rw [← parts] at passed
      rw [List.cons_append] at passed ⊢
      rw [readLiteralLines_cons passed plain.1, inner]
      rfl

theorem writeLines_cons (quotes : Nat) (c : Char) (s : Text) :
    (∃ now ≤ 2, writeLines quotes (c :: s) = c :: writeLines now s ∧ IsShown c ∧ c ≠ '\\' ∧
      (c = '"' → now = quotes + 1)) ∨
      ∃ code, writeLines quotes (c :: s) = '\\' :: (code ++ writeLines 0 s) ∧ IsEscape c code := by
  by_cases quote : c = '"'
  · subst quote
    rw [writeLines]
    split
    · next room => exact .inl ⟨quotes + 1, room, rfl, .inl rfl, by decide, fun _ => rfl⟩
    · exact .inr ⟨['"'], rfl, isEscape_letter (fun _ => rfl) rfl fun _ => rfl⟩
  by_cases lineEnd : c = '\n'
  · subst lineEnd
    exact .inl ⟨0, Nat.zero_le 2, by rw [writeLines], .inr rfl, by simp, by simp⟩
  rw [writeLines.eq_4 quotes c s quote lineEnd]
  rcases escaped_cases c with ⟨same, plain, -, noBackslash⟩ | ⟨code, same, isEscape⟩
  · exact .inl ⟨0, Nat.zero_le 2, by rw [same]; rfl, .inl plain, noBackslash,
      fun again => absurd again quote⟩
  · exact .inr ⟨code, by rw [same]; rfl, isEscape⟩

/-- Behind quotes that are written as they are, no more follow than make two. -/
theorem writeLines_front (s : Text) :
    ∀ quotes ≤ 2, ∃ n, quotes + n ≤ 2 ∧ ∃ behind,
      writeLines quotes s = List.replicate n '"' ++ behind ∧ Apart '"' behind ∧
        (behind = [] → s = List.replicate n '"') := by
  induction s with
  | nil => exact fun quotes few => ⟨0, few, [], rfl, by simp [Apart], fun _ => rfl⟩
  | cons c s ih =>
    intro quotes few
    -- A quote as it is counts, and whatever else is written ends the quotes.
    rcases writeLines_cons quotes c s with ⟨now, fewNow, written, -, -, counted⟩ | ⟨code, written, -⟩
    · by_cases quote : c = '"'
      · subst quote
        obtain ⟨n, room, behind, parts, stops, only⟩ := ih now fewNow
        rw [counted rfl] at room parts
        refine ⟨n + 1, by omega, behind, ?_, stops, fun none_left => ?_⟩
        · rw [written, counted rfl, parts]
          rfl
        · rw [only none_left]
          rfl
      · exact ⟨0, few, _, written, by simpa [Apart] using quote, by simp⟩
    · exact ⟨0, few, _, written, by simp [Apart], by simp⟩

theorem readBasicLines_writeLines (apart : Apart '"' rest) (s : Text) :
    ∀ quotes ≤ 2, ∀ fuel, s.length < fuel →
      readBasicLines fuel (writeLines quotes s ++ (tripled '"' ++ rest)) = some (s, rest) := by
  induction s with
  | nil =>
    rintro quotes - (_ | fuel) enough
    · simp at enough
    · simp only [readBasicLines, writeLines, List.nil_append, closing?_mark apart]
  | cons c s ih =>
    rintro quotes few (_ | fuel) enough
    · simp at enough
    have inner := fun now fewNow => ih now fewNow fuel (Nat.lt_of_succ_lt_succ enough)
    obtain ⟨n, room, behind, parts, stops, only⟩ := writeLines_front (c :: s) quotes few
    -- As for the literal form, only that there may be an escape in front of other content.
    by_cases none_left : behind = []
    · rw [parts, none_left, List.append_nil, only none_left]
      simp only [readBasicLines, closing?_quotes (Nat.le_of_add_left_le room) apart]
    · have passed := closing?_content (Nat.le_of_add_left_le room) stops none_left
        (tripled '"' ++ rest)
      rw [← parts] at passed
      rcases writeLines_cons quotes c s with
        ⟨now, fewNow, written, shown, noBackslash, -⟩ | ⟨code, written, isEscape⟩
      · rw [written, List.cons_append] at passed ⊢
        rw [readBasicLines_cons passed shown noBackslash, inner now fewNow]
        rfl
      · rw [written, List.cons_append, List.append_assoc] at passed ⊢
        rw [readBasicLines_escape passed isEscape, inner 0 (Nat.zero_le 2)]
        rfl

/-- The line break behind the opening mark is dropped, and none of the text is. -/
theorem dropLineBreak_leadingBreak
    (first : ∀ c ∈ t.head?, isControl c = false ∨ s.contains '\n') :
    dropLineBreak (leadingBreak s ++ t) = t := by
  unfold leadingBreak
  split
  · rfl
  · next whole =>
    cases t with
    | nil => rfl
    | cons c t =>
      have plain := (first c rfl).resolve_right whole
      simp [dropLineBreak, afterLineBreak?_cons plain]

theorem length_le_length_writeLines (s : Text) (quotes : Nat) :
    s.length ≤ (writeLines quotes s).length := by
  induction s generalizing quotes with
  | nil => exact Nat.zero_le _
  | cons c s ih =>
    rcases writeLines_cons quotes c s with ⟨now, -, written, -⟩ | ⟨code, written, -⟩
    · simpa [written] using ih now
    · have inner := ih 0
      simp only [written, List.length_cons, List.length_append]
      omega

/-! ## Every form -/

theorem readString_eq_readLineString (noBasic : ¬ tripled '"' <+: s)
    (noLiteral : ¬ tripled '\'' <+: s) : readString s = readLineString s := by
  unfold readString
  split
  · exact absurd ⟨_, rfl⟩ noBasic
  · exact absurd ⟨_, rfl⟩ noLiteral
  · rfl

theorem length_le_length_flatMap_escaped (s : Text) : s.length ≤ (s.flatMap escaped).length := by
  induction s with
  | nil => exact Nat.zero_le _
  | cons c s ih =>
    have single : 1 ≤ (escaped c).length := by
      rcases escaped_cases c with ⟨same, -⟩ | ⟨code, same, -⟩ <;> simp [same]
    simp only [List.flatMap_cons, List.length_append, List.length_cons]
    omega

theorem apart_flatMap_escaped (s : Text) : Apart '"' (s.flatMap escaped) := by
  cases s with
  | nil => simp [Apart]
  | cons c s =>
    rcases escaped_cases c with ⟨same, -, noQuote, -⟩ | ⟨code, same, -⟩
    · simpa [Apart, same] using noQuote
    · simp [Apart, same]

theorem not_tripled_of_front {content : Text} (first : Apart quote content)
    (apart : Apart quote rest) : ¬ tripled quote <+: quote :: (content ++ quote :: rest) := by
  cases content with
  | nil =>
    cases rest with
    | nil => simp [tripled, List.replicate, List.cons_prefix_cons]
    | cons d rest =>
      have other := apart d rfl
      simp [tripled, List.replicate, List.cons_prefix_cons, other.symm]
  | cons c content =>
    have other := first c rfl
    simp [tripled, List.replicate, List.cons_prefix_cons, other.symm]

namespace StringForm

theorem readString_basic (s : Text) (apart : Apart '"' rest) :
    readString (basic.write s ++ rest) = some (s, rest) := by
  have enough : s.length < (s.flatMap escaped ++ '"' :: rest).length + 1 :=
    Nat.lt_succ_of_le ((length_le_length_flatMap_escaped s).trans (List.prefix_append _ _).length_le)
  have shape : basic.write s ++ rest = '"' :: (s.flatMap escaped ++ '"' :: rest) := by
    simp [write]
  rw [shape, readString_eq_readLineString (not_tripled_of_front (apart_flatMap_escaped s) apart)
    (by simp [tripled, List.replicate])]
  exact readBasic_flatMap_escaped s rest _ enough

theorem readString_literal (shown : literal.shows s) (apart : Apart '\'' rest) :
    readString (literal.write s ++ rest) = some (s, rest) := by
  have first : Apart '\'' s := by
    rintro c member rfl
    have quote := List.mem_of_mem_head? member
    simp only [shows, Bool.not_eq_true', List.any_eq_false] at shown
    exact absurd (shown '\'' quote) (by simp)
  have shape : literal.write s ++ rest = '\'' :: (s ++ '\'' :: rest) := by simp [write]
  rw [shape, readString_eq_readLineString (by simp [tripled, List.replicate])
    (not_tripled_of_front first apart)]
  exact readLiteral_append shown rest

theorem readString_basicLines (s : Text) (apart : Apart '"' rest) :
    readString (basicLines.write s ++ rest) = some (s, rest) := by
  have first : ∀ c ∈ (writeLines 0 s ++ (tripled '"' ++ rest)).head?,
      isControl c = false ∨ s.contains '\n' := by
    cases s with
    | nil => simp [writeLines, tripled, List.replicate, isControl]
    | cons c s =>
      rcases writeLines_cons 0 c s with ⟨now, -, written, plain | rfl, -⟩ | ⟨code, written, -⟩
      · simp [written, plain]
      · simp
      · simp [written, isControl]
  have shape : basicLines.write s ++ rest =
      '"' :: '"' :: '"' :: (leadingBreak s ++ (writeLines 0 s ++ (tripled '"' ++ rest))) := by
    simp [write, tripled, List.replicate]
  rw [shape, readString]
  simp only [dropLineBreak_leadingBreak first]
  refine readBasicLines_writeLines apart s 0 (Nat.zero_le 2) _ (Nat.lt_succ_of_le ?_)
  exact (length_le_length_writeLines s 0).trans (List.prefix_append _ _).length_le

theorem readString_literalLines (shown : literalLines.shows s) (apart : Apart '\'' rest) :
    readString (literalLines.write s ++ rest) = some (s, rest) := by
  have first : ∀ c ∈ (s ++ (tripled '\'' ++ rest)).head?,
      isControl c = false ∨ s.contains '\n' := by
    cases s with
    | nil => simp [tripled, List.replicate, isControl]
    | cons c s =>
      simp only [shows, List.any_cons, Bool.and_eq_true, Bool.not_eq_true', Bool.or_eq_false_iff,
        Bool.and_eq_false_iff, bne_eq_false_iff_eq] at shown
      rcases shown.1.1 with plain | rfl
      · simp [plain]
      · simp
  have shape : literalLines.write s ++ rest =
      '\'' :: '\'' :: '\'' :: (leadingBreak s ++ (s ++ (tripled '\'' ++ rest))) := by
    simp [write, tripled, List.replicate]
  rw [shape, readString]
  simp only [dropLineBreak_leadingBreak first]
  exact readLiteralLines_append shown apart _
    (Nat.lt_succ_of_le (List.prefix_append _ _).length_le)

theorem shows_ofText (literal_form : ofText s = literal ∨ ofText s = literalLines) :
    (ofText s).shows s := by
  revert literal_form
  -- A form that was found shows the text; the one that is left over knows escapes.
  unfold ofText
  split
  · next form found => exact fun _ => by simpa using List.find?_some found
  · split <;> simp

end StringForm

/-- A written string is read back, whatever its text, unless a quote follows it. -/
theorem readString_writeString (s : Text) (noQuote : Apart '"' rest)
    (noApostrophe : Apart '\'' rest) : readString (writeString s ++ rest) = some (s, rest) := by
  unfold writeString
  cases form : StringForm.ofText s with
  | basic => exact StringForm.readString_basic s noQuote
  | basicLines => exact StringForm.readString_basicLines s noQuote
  | literal =>
    have shown := form ▸ StringForm.shows_ofText (.inl form)
    exact StringForm.readString_literal shown noApostrophe
  | literalLines =>
    have shown := form ▸ StringForm.shows_ofText (.inr form)
    exact StringForm.readString_literalLines shown noApostrophe

end Snippet.Toml
