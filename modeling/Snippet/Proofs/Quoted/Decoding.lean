import Snippet.Proofs.Quoted

/-! Decoding of encoded text.

The codes between two quotes are read back as code units of UTF-16, and neighbours that
are surrogates as one character. Encoding writes no quote between quotes, so the same
pairs of quotes are found again, and each text can be told from its encoding.
-/

set_option autoImplicit false

namespace Snippet

namespace Text

/-- The character of a code unit that stands for itself; a lone surrogate is replaced. -/
def ofUnit (unit : Nat) : Char :=
  if 0xD800 ≤ unit ∧ unit < 0xE000 then Char.ofNat 0xFFFD else Char.ofNat unit

/-- The text of code units of UTF-16, a high and a low surrogate taken together. -/
def ofUnits16 : List Nat → Text
  | high :: low :: rest =>
    if (0xD800 ≤ high ∧ high < 0xDC00) ∧ 0xDC00 ≤ low ∧ low < 0xE000 then
      Char.ofNat (0x10000 + (high - 0xD800) * 0x400 + (low - 0xDC00)) :: ofUnits16 rest
    else ofUnit high :: ofUnits16 (low :: rest)
  | [unit] => [ofUnit unit]
  | [] => []

theorem not_surrogate (c : Char) : c.toNat < 0xD800 ∨ 0xE000 ≤ c.toNat ∧ c.toNat < 0x110000 := by
  rcases c.valid with low | high
  · exact .inl low
  · exact .inr ⟨high.1, high.2⟩

theorem ofUnits16_units16 (c : Char) (rest : List Nat) :
    ofUnits16 (units16 c ++ rest) = c :: ofUnits16 rest := by
  have valid := not_surrogate c
  simp only [units16]
  split
  · next single =>
    have same : ofUnit c.toNat = c := by
      rw [ofUnit, if_neg (by omega), Char.ofNat_toNat]
    cases rest with
    | nil => simp [ofUnits16, same]
    | cons low rest =>
      rw [List.cons_append, List.nil_append, ofUnits16, if_neg (by omega), same]
  · next double =>
    have whole : 0x10000 + (0xD800 + (c.toNat - 0x10000) / 0x400 - 0xD800) * 0x400 +
        (0xDC00 + (c.toNat - 0x10000) % 0x400 - 0xDC00) = c.toNat := by omega
    rw [List.cons_append, List.cons_append, List.nil_append, ofUnits16, if_pos (by omega), whole,
      Char.ofNat_toNat]

theorem ofUnits16_flatMap (s : Text) : ofUnits16 (s.flatMap units16) = s := by
  induction s with
  | nil => rfl
  | cons c s ih => rw [List.flatMap_cons, ofUnits16_units16, ih]

theorem units16_lt {c : Char} {unit : Nat} (member : unit ∈ units16 c) : unit < 0x10000 := by
  have valid := not_surrogate c
  simp only [units16] at member
  split at member
  · next single =>
    obtain rfl := List.mem_singleton.mp member
    exact single
  · simp only [List.mem_cons, List.not_mem_nil, or_false] at member
    omega

end Text

namespace Quoted

variable {s rest content : Text} {c : Char}

/-! ## Codes -/

def unitCode : Reader Nat where
  read
    | '\\' :: 'u' :: r => Text.readHex 0 4 r
    | _ => none
  shorter := by
    intro s unit rest found
    split at found
    · have size := Text.length_of_readHex found
      simp only [List.length_cons]
      omega
    · cases found

def segmentUnits : Segment Nat → List Nat
  | .plain c => units16 c
  | .found unit => [unit]

def decode (content : Text) : Text :=
  Text.ofUnits16 ((unitCode.segments content).flatMap segmentUnits)

/-- The text with the codes read between each quote and the next one. -/
def decodeStrings : Text → Text :=
  literal.replace fun content => '"' :: decode content ++ ['"']

theorem unitCode_read_escapeUnit {unit : Nat} (small : unit < 0x10000) (rest : Text) :
    unitCode.read (escapeUnit unit ++ rest) = some (unit, rest) := by
  have digit (n : Nat) := Text.hexValue?_hexDigit (Nat.mod_lt n (show 16 > 0 by decide))
  have value : (((0 * 16 + unit / 0x1000 % 16) * 16 + unit / 0x100 % 16) * 16 +
      unit / 0x10 % 16) * 16 + unit % 16 = unit := by omega
  simp only [escapeUnit, List.cons_append, List.nil_append, unitCode, Text.readHex, digit, value]

theorem unitCode_read_of_ne (other : c ≠ '\\') (r : Text) : unitCode.read (c :: r) = none := by
  simp [unitCode, other]

theorem segmentUnits_codes (units : List Nat) (small : ∀ unit ∈ units, unit < 0x10000)
    (rest : Text) :
    (unitCode.segments (units.flatMap escapeUnit ++ rest)).flatMap segmentUnits =
      units ++ (unitCode.segments rest).flatMap segmentUnits := by
  induction units with
  | nil => rfl
  | cons unit units ih =>
    have read := unitCode_read_escapeUnit (small unit (by simp)) (units.flatMap escapeUnit ++ rest)
    rw [List.flatMap_cons, List.append_assoc, unitCode.segments_some read, List.flatMap_cons,
      ih fun other member => small other (by simp [member])]
    rfl

/-- A character is read back from its codes, and an end of a line from itself. -/
theorem segmentUnits_escape (c : Char) (rest : Text) :
    (unitCode.segments (escape c ++ rest)).flatMap segmentUnits =
      units16 c ++ (unitCode.segments rest).flatMap segmentUnits := by
  rw [escape]
  split
  · next lineEnd =>
    have other : c ≠ '\\' := by
      rintro rfl
      exact absurd lineEnd (by decide)
    rw [List.singleton_append, unitCode.segments_none (unitCode_read_of_ne other rest)]
    rfl
  · exact segmentUnits_codes _ (fun unit => Text.units16_lt) rest

theorem decode_flatMap_escape (content : Text) : decode (content.flatMap escape) = content := by
  have units : (unitCode.segments (content.flatMap escape)).flatMap segmentUnits =
      content.flatMap units16 := by
    induction content with
    | nil => simp
    | cons c content ih => rw [List.flatMap_cons, segmentUnits_escape, ih, List.flatMap_cons]
  rw [decode, units, Text.ofUnits16_flatMap]

inductive Coded : Text → Prop where
  | nil : Coded []
  | unit {unit : Nat} {rest : Text} : unit < 0x10000 → Coded rest → Coded (escapeUnit unit ++ rest)
  | lineEnd {c : Char} {rest : Text} : isLineEnd c → Coded rest → Coded (c :: rest)

theorem Coded.units {units : List Nat} (small : ∀ unit ∈ units, unit < 0x10000)
    (coded : Coded rest) : Coded (units.flatMap escapeUnit ++ rest) := by
  induction units with
  | nil => exact coded
  | cons unit units ih =>
    rw [List.flatMap_cons, List.append_assoc]
    exact .unit (small unit (by simp)) (ih fun other member => small other (by simp [member]))

theorem Coded.escape (coded : Coded rest) (c : Char) : Coded (escape c ++ rest) := by
  rw [Quoted.escape]
  split
  · next lineEnd => exact .lineEnd lineEnd coded
  · exact coded.units fun unit => Text.units16_lt

theorem coded_flatMap_escape (content : Text) : Coded (content.flatMap escape) := by
  induction content with
  | nil => exact .nil
  | cons c content ih =>
    rw [List.flatMap_cons]
    exact ih.escape c

theorem quote_notMem_escapeUnit (unit : Nat) : '"' ∉ escapeUnit unit := by
  have digits : ∀ n < 16, '"' ≠ Text.hexDigit n := by decide
  have digit (n : Nat) := digits _ (Nat.mod_lt n (show 16 > 0 by decide))
  simp [escapeUnit, digit]

theorem Coded.unquoted (coded : Coded s) : '"' ∉ s := by
  induction coded with
  | nil => simp
  | unit _ _ ih => simp [quote_notMem_escapeUnit, ih]
  | @lineEnd c rest lineEnd _ ih =>
    rw [List.mem_cons, not_or]
    refine ⟨?_, ih⟩
    rintro rfl
    exact absurd lineEnd (by decide)

/-! ## Pairs of quotes -/

theorem literal_read_of_ne (other : c ≠ '"') (r : Text) : literal.read (c :: r) = none := by
  simp [literal, other]

theorem literal_read_quoted (unquoted : '"' ∉ content) (rest : Text) :
    literal.read ('"' :: (content ++ '"' :: rest)) = some (content, rest) := by
  have apart : ¬ Text.Completes ['"'] (['"'] ++ rest) :=
    Text.not_completes_of_head fun _ _ => by simp
  exact Text.cut?_at_marker (by rwa [List.singleton_infix_iff]) apart

theorem literal_read_unquoted (unquoted : '"' ∉ s) : literal.read ('"' :: s) = none :=
  Text.cut?_eq_none_iff.mpr (by rwa [List.singleton_infix_iff])

theorem literal_read_encode (content rest : Text) :
    literal.read (encode content ++ rest) = some (content.flatMap escape, rest) := by
  have read := literal_read_quoted (coded_flatMap_escape content).unquoted rest
  simpa [encode] using read

theorem encodeStrings_unquoted (unquoted : '"' ∉ s) : encodeStrings s = s := by
  induction s with
  | nil => exact encodeStrings_nil
  | cons c r ih =>
    simp only [List.mem_cons, not_or] at unquoted
    rw [encodeStrings_none (literal_read_of_ne (Ne.symm unquoted.1) r), ih unquoted.2]

/-- Where no pair begins, none begins in the encoded text. -/
theorem literal_read_encodeStrings {r : Text} (kept : literal.read (c :: r) = none) :
    literal.read (c :: encodeStrings r) = none := by
  by_cases quote : c = '"'
  · subst quote
    rw [encodeStrings_unquoted (unquoted_of_unread kept)]
    exact kept
  · exact literal_read_of_ne quote _

theorem decodeStrings_encodeStrings (code : Text) : decodeStrings (encodeStrings code) = code := by
  unfold decodeStrings
  induction code using literal.scan_induction with
  | done => rw [encodeStrings_nil, literal.replace_nil]
  | keep c r kept ih =>
    rw [encodeStrings_none kept, literal.replace_none _ (literal_read_encodeStrings kept), ih]
  | take s content rest taken ih =>
    have read := literal_read_encode content (encodeStrings rest)
    rw [encodeStrings_some taken, literal.replace_some _ read, ih, decode_flatMap_escape,
      literal_read_eq_some taken]
    simp

theorem findAll_encodeStrings (code : Text) :
    literal.findAll (encodeStrings code) = (literal.findAll code).map (·.flatMap escape) := by
  induction code using literal.scan_induction with
  | done => rw [encodeStrings_nil, literal.findAll_nil, List.map_nil]
  | keep c r kept ih =>
    rw [encodeStrings_none kept, literal.findAll_none (literal_read_encodeStrings kept), ih,
      literal.findAll_none kept]
  | take s content rest taken ih =>
    have read := literal_read_encode content (encodeStrings rest)
    rw [encodeStrings_some taken, literal.findAll_some read, ih, literal.findAll_some taken,
      List.map_cons]

theorem count_encodeStrings (s : Text) : (encodeStrings s).count '"' = s.count '"' := by
  induction s using literal.scan_induction with
  | done => rw [encodeStrings_nil]
  | keep c r kept ih => rw [encodeStrings_none kept, List.count_cons, ih, List.count_cons]
  | take s content rest taken ih =>
    have outer := List.count_eq_zero.mpr (unquoted_of_read taken)
    have inner := List.count_eq_zero.mpr (coded_flatMap_escape content).unquoted
    rw [encodeStrings_some taken, literal_read_eq_some taken]
    simp only [encode, List.cons_append, List.append_assoc, List.count_cons, List.count_append,
      inner, outer, ih]
    simp

/-- Behind pairs of quotes encoding goes on as at the beginning of a text. -/
theorem encodeStrings_append {before : Text} (even : before.count '"' % 2 = 0) (s : Text) :
    encodeStrings (before ++ s) = encodeStrings before ++ encodeStrings s := by
  induction before using literal.scan_induction with
  | done => rw [encodeStrings_nil, List.nil_append, List.nil_append]
  | keep c r kept ih =>
    -- A quote without a partner would be the only one.
    have other : c ≠ '"' := by
      rintro rfl
      rw [List.count_cons_self, List.count_eq_zero.mpr (unquoted_of_unread kept)] at even
      cases even
    rw [List.count_cons_of_ne other] at even
    rw [List.cons_append, encodeStrings_none (literal_read_of_ne other _), ih even,
      encodeStrings_none kept, List.cons_append]
  | take before content rest taken ih =>
    have whole := literal_read_eq_some taken
    have unquoted := unquoted_of_read taken
    have even : rest.count '"' % 2 = 0 := by
      rw [whole, List.count_cons_self, List.count_append, List.count_cons_self,
        List.count_eq_zero.mpr unquoted] at even
      omega
    have read : literal.read (before ++ s) = some (content, rest ++ s) := by
      rw [whole, List.cons_append, List.append_assoc, List.cons_append]
      exact literal_read_quoted unquoted (rest ++ s)
    rw [encodeStrings_some read, ih even, encodeStrings_some taken, List.append_assoc]

/-- Encoding can be taken back. Between paired quotes it leaves nothing but codes and ends of
lines, and a last quote without a partner stays one, with all the text behind it. -/
theorem encodeStrings_reversible :
    Function.LeftInverse decodeStrings encodeStrings ∧ Function.Injective encodeStrings ∧
    (∀ code, ∀ content ∈ literal.findAll (encodeStrings code), Coded content) ∧
    (∀ before tail : Text, before.count '"' % 2 = 0 → '"' ∉ tail →
      encodeStrings (before ++ '"' :: tail) = encodeStrings before ++ '"' :: tail ∧
        (encodeStrings before).count '"' % 2 = 0) := by
  refine ⟨decodeStrings_encodeStrings, Function.LeftInverse.injective decodeStrings_encodeStrings,
    fun code content member => ?_, fun before tail even unquoted => ?_⟩
  · rw [findAll_encodeStrings] at member
    obtain ⟨original, -, rfl⟩ := List.mem_map.mp member
    exact coded_flatMap_escape original
  · rw [encodeStrings_append even, encodeStrings_none (literal_read_unquoted unquoted),
      encodeStrings_unquoted unquoted, count_encodeStrings]
    exact ⟨rfl, even⟩

theorem encodeStrings_reversible_surrogates :
    let before := "\"\\u0041😀\n\" b ".toList
    let code := before ++ "\"c\\u0042".toList
    decodeStrings (encodeStrings code) = code ∧
    (∀ content ∈ literal.findAll (encodeStrings code), Coded content) ∧
    encodeStrings code =
      "\"\\u005c\\u0075\\u0030\\u0030\\u0034\\u0031\\ud83d\\ude00\n\" b \"c\\u0042".toList := by
  intro before code
  have even : before.count '"' % 2 = 0 := by decide
  have unquoted : '"' ∉ "c\\u0042".toList := by decide
  have unpaired := (encodeStrings_reversible.2.2.2 before "c\\u0042".toList even unquoted).1
  have encoded : encodeStrings before =
      "\"\\u005c\\u0075\\u0030\\u0030\\u0034\\u0031\\ud83d\\ude00\n\" b ".toList := by
    decide +kernel
  refine ⟨encodeStrings_reversible.1 code, encodeStrings_reversible.2.2.1 code, ?_⟩
  rw [encoded] at unpaired
  exact unpaired

end Quoted

end Snippet
