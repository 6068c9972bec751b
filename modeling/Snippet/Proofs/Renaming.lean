import Snippet.Obfuscation.Renaming
import Snippet.Proofs.Blanks
import Snippet.Proofs.Rewriting

/-! Renamed text holds settled declarations only.

A declaration is settled if renaming would write it as it is. Renaming settles all
declarations of a text; to see that it leaves no others, a declaration in the new
text is followed back to one in the old text that the scan had to find.
-/

set_option autoImplicit false

namespace Snippet

variable {s rest : Text}

theorem utf8Size_eq_one_iff_toNat {c : Char} : c.utf8Size = 1 ↔ c.toNat ≤ 127 := by
  rw [Char.utf8Size_eq_one_iff, UInt32.le_iff_toNat_le]
  rfl

theorem bytes_eq_length {name : Text} (word : ∀ c ∈ name, isWord c) :
    Text.bytes name = name.length := by
  induction name with
  | nil => rfl
  | cons c name ih =>
    have range := toNat_of_isWord (word c (by simp))
    have first : c.utf8Size = 1 := utf8Size_eq_one_iff_toNat.mpr (by omega)
    have others := ih fun d member => word d (by simp [member])
    rw [Text.bytes_cons, first, others, List.length_cons, Nat.add_comm]

namespace NameTable

theorem isWord_letter (position : Nat) : isWord (letter position) := by
  have letters : ∀ n < 26, isWord (Char.ofNat ('a'.toNat + n)) := by decide
  exact letters _ (Nat.mod_lt _ (by decide))

theorem assign_of_short {name : Text} (short : Text.bytes name ≤ 1) (table : NameTable) :
    table.assign name = (none, table) := by
  simp [assign, short]

theorem assign_of_long {name : Text} (long : 1 < Text.bytes name) (table : NameTable) :
    ∃ letter next, isWord letter ∧ table.assign name = (some letter, next) := by
  rw [assign, if_neg (Nat.not_le_of_lt long)]
  split
  · exact ⟨_, _, isWord_letter _, rfl⟩
  · exact ⟨_, _, isWord_letter _, rfl⟩

end NameTable

namespace Keyword

theorem isWord_of_mem (keyword : Keyword) {c : Char} (member : c ∈ keyword.text) : isWord c := by
  have words : keyword.text.all isWord := by cases keyword <;> decide
  exact List.all_eq_true.mp words c member

theorem read?_eq_some_iff {keyword : Keyword} :
    read? s = some (keyword, rest) ↔ s = keyword.text ++ rest := by
  refine ⟨eq_append_of_read?, ?_⟩
  rintro rfl
  cases keyword <;> simp [read?, text, Text.after?]

theorem text_eq (keyword : Keyword) : ∃ first second others,
    keyword.text = first :: second :: others := by
  cases keyword <;> exact ⟨_, _, _, rfl⟩

end Keyword

namespace Declaration

structure IsWellFormed (declaration : Declaration) : Prop where
  some_gap : declaration.gap ≠ []
  blank : ∀ c ∈ declaration.gap, isBlank c
  some_name : declaration.name ≠ []
  word : ∀ c ∈ declaration.name, isWord c

theorem read?_eq_some_iff {declaration : Declaration} : read? s = some (declaration, rest) ↔
    s = declaration.text ++ rest ∧ declaration.IsWellFormed ∧ rest.wordEnds := by
  constructor
  · intro found
    refine ⟨eq_append_of_read? found, ?_⟩
    unfold read? at found
    split at found
    · simp at found
    · dsimp only at found
      split at found
      · simp at found
      · next parts =>
        simp only [List.isEmpty_iff, Bool.or_eq_true, not_or] at parts
        cases found
        exact ⟨⟨parts.1, fun _ => Text.isBlank_of_mem_leadingBlanks, parts.2,
          fun _ => Text.isWord_of_mem_takeWord⟩, Text.wordEnds_dropWord _⟩
  · rintro ⟨rfl, wellFormed, ends⟩
    obtain ⟨keyword, gap, name⟩ := declaration
    have visible : Text.BeginsVisible (name ++ rest) := by
      cases name with
      | nil => exact absurd rfl wellFormed.some_name
      | cons c name =>
        intro d first
        obtain rfl : c = d := by simpa using first
        exact isBlank_of_isWord (wellFormed.word c (by simp))
    have front : Keyword.read? (text ⟨keyword, gap, name⟩ ++ rest) =
        some (keyword, gap ++ (name ++ rest)) := by
      rw [Keyword.read?_eq_some_iff]
      simp [text]
    rw [read?, front]
    simp only [Text.leadingBlanks_append_of_blank wellFormed.blank visible,
      Text.dropBlanks_append_of_blank wellFormed.blank, Text.dropBlanks_eq_self visible,
      Text.takeWord_append_of_word wellFormed.word ends,
      Text.dropWord_append_of_word wellFormed.word ends]
    simp [wellFormed.some_gap, wellFormed.some_name]

theorem read?_isSome_iff : (read? s).isSome ↔ ∃ (keyword : Keyword) (gap : Text) (c : Char)
    (tail : Text), s = keyword.text ++ (gap ++ c :: tail) ∧ gap ≠ [] ∧ (∀ b ∈ gap, isBlank b) ∧
      isWord c := by
  constructor
  · intro found
    obtain ⟨⟨⟨keyword, gap, name⟩, rest⟩, found⟩ := Option.isSome_iff_exists.mp found
    obtain ⟨same, wellFormed, -⟩ := read?_eq_some_iff.mp found
    obtain ⟨c, name, rfl⟩ := List.exists_cons_of_ne_nil wellFormed.some_name
    exact ⟨keyword, gap, c, name ++ rest, by simp [same, text], wellFormed.some_gap,
      wellFormed.blank, wellFormed.word c (by simp)⟩
  · rintro ⟨keyword, gap, c, tail, rfl, some_gap, blank, word⟩
    have found : read? (keyword.text ++ (gap ++ c :: tail)) =
        some (⟨keyword, gap, Text.takeWord (c :: tail)⟩, Text.dropWord (c :: tail)) := by
      refine read?_eq_some_iff.mpr ⟨?_, ⟨some_gap, blank, ?_, fun _ => Text.isWord_of_mem_takeWord⟩,
        Text.wordEnds_dropWord _⟩
      · simp only [text, List.append_assoc, Text.takeWord_append_dropWord]
      · simp [Text.takeWord, word]
    simp [found]

theorem afterBoundary_read_eq_some {c : Char} {declaration : Declaration} :
    afterBoundary.read s = some ((c, declaration), rest) ↔
      ∃ r, s = c :: r ∧ isWord c = false ∧ read? r = some (declaration, rest) := by
  cases s with
  | nil => simp [afterBoundary]
  | cons b r =>
    simp only [afterBoundary]
    split
    · next word =>
      simp only [reduceCtorEq, false_iff]
      rintro ⟨_, same, boundary, -⟩
      simp [← (List.cons.inj same).1, word] at boundary
    · next boundary =>
      simp only [Option.map_eq_some_iff, Prod.exists, Prod.mk.injEq, List.cons.injEq]
      constructor
      · rintro ⟨_, _, found, ⟨rfl, rfl⟩, rfl⟩
        exact ⟨r, ⟨rfl, rfl⟩, by simpa using boundary, found⟩
      · rintro ⟨_, ⟨rfl, rfl⟩, -, found⟩
        exact ⟨declaration, rest, found, ⟨rfl, rfl⟩, rfl⟩

theorem afterBoundary_read_eq_none {c : Char} {r : Text} :
    afterBoundary.read (c :: r) = none ↔ (isWord c = false → read? r = none) := by
  simp only [afterBoundary]
  split <;> simp_all

/-! ## The text that is written -/

theorem rename_of_short {declaration : Declaration} (short : Text.bytes declaration.name ≤ 1)
    (table : NameTable) :
    declaration.rename table = (declaration.keyword.text ++ ' ' :: declaration.name, table) := by
  simp only [rename, NameTable.assign_of_short short]

theorem rename_eq {declaration : Declaration} (wellFormed : declaration.IsWellFormed)
    (table : NameTable) : ∃ c, isWord c ∧
      (declaration.rename table).1 = declaration.keyword.text ++ [' ', c] := by
  by_cases short : Text.bytes declaration.name ≤ 1
  · -- A name of at most one byte is one character.
    obtain ⟨c, others, name⟩ := List.exists_cons_of_ne_nil wellFormed.some_name
    have word : ∀ d ∈ c :: others, isWord d := name ▸ wellFormed.word
    refine ⟨c, word c (by simp), ?_⟩
    rw [name, bytes_eq_length word, List.length_cons] at short
    obtain rfl : others = [] := List.length_eq_zero_iff.mp (by omega)
    simp [rename_of_short, bytes_eq_length word, name]
  · obtain ⟨letter, next, word, assigned⟩ :=
      NameTable.assign_of_long (Nat.lt_of_not_le short) table
    exact ⟨letter, word, by simp [rename, assigned]⟩

/-- The text from behind a place that the scan has tried. -/
def renamedFrom (table : NameTable) (s : Text) : Text :=
  Segment.renderWith renameAfterBoundary table (afterBoundary.segments s)

@[simp] theorem renamedFrom_nil (table : NameTable) : renamedFrom table [] = [] := by
  simp [renamedFrom, Segment.renderWith]

theorem renamedFrom_none (table : NameTable) {c : Char} {r : Text}
    (kept : afterBoundary.read (c :: r) = none) :
    renamedFrom table (c :: r) = c :: renamedFrom table r := by
  rw [renamedFrom, afterBoundary.segments_none kept]
  rfl

theorem renamedFrom_some (table : NameTable) {c : Char} {declaration : Declaration}
    (taken : afterBoundary.read s = some ((c, declaration), rest)) :
    renamedFrom table s = c :: ((declaration.rename table).1 ++
      renamedFrom (declaration.rename table).2 rest) := by
  rw [renamedFrom, afterBoundary.segments_some taken]
  rfl

theorem renameVariables_eq (code : Text) : renameVariables code =
    match read? code with
    | some (declaration, rest) => (declaration.rename .empty).1 ++
        renamedFrom (declaration.rename .empty).2 rest
    | none => renamedFrom .empty code := rfl

def Renames (old new : Text) : Prop :=
  ∃ (declaration : Declaration) (c : Char), declaration.IsWellFormed ∧ isWord c ∧
    old = declaration.text ∧ new = declaration.keyword.text ++ [' ', c]

theorem renames_rename {declaration : Declaration} (wellFormed : declaration.IsWellFormed)
    (table : NameTable) : Renames declaration.text (declaration.rename table).1 := by
  obtain ⟨c, word, same⟩ := rename_eq wellFormed table
  exact ⟨declaration, c, wellFormed, word, rfl, same⟩

theorem rewriting_renamedFrom (table : NameTable) (s : Text) :
    Rewriting Renames s (renamedFrom table s) := by
  induction s using afterBoundary.scan_induction generalizing table with
  | done => simpa using Rewriting.done
  | keep c r kept ih =>
    rw [renamedFrom_none table kept]
    exact (ih table).keep c
  | take s found rest taken ih =>
    obtain ⟨c, declaration⟩ := found
    rw [renamedFrom_some table taken]
    obtain ⟨r, rfl, -, read⟩ := afterBoundary_read_eq_some.mp taken
    obtain ⟨rfl, wellFormed, -⟩ := read?_eq_some_iff.mp read
    exact ((ih _).write (renames_rename wellFormed table)).keep c

theorem rewriting_renameVariables (code : Text) :
    Rewriting Renames code (renameVariables code) := by
  rw [renameVariables_eq]
  split
  · next declaration rest read =>
    obtain ⟨rfl, wellFormed, -⟩ := read?_eq_some_iff.mp read
    exact (rewriting_renamedFrom _ rest).write (renames_rename wellFormed _)
  · exact rewriting_renamedFrom _ code

/-! ## Settled declarations -/

def IsSettled (declaration : Declaration) : Prop :=
  declaration.gap = [' '] ∧ Text.bytes declaration.name ≤ 1

/-- Every declaration in the text is settled, also one that a scan would not come
to, given the character before the text. -/
def SettledFrom (previous : Option Char) : Text → Prop
  | [] => True
  | c :: r =>
    ((∀ b ∈ previous, isWord b = false) → ∀ declaration rest,
      read? (c :: r) = some (declaration, rest) → declaration.IsSettled) ∧ SettledFrom (some c) r

theorem SettledFrom.front {previous : Option Char} {declaration : Declaration}
    (settled : SettledFrom previous s) (boundary : ∀ b ∈ previous, isWord b = false)
    (read : read? s = some (declaration, rest)) : declaration.IsSettled := by
  cases s with
  | nil => exact absurd read (by rw [show read? [] = none from rfl]; simp)
  | cons c r => exact settled.1 boundary declaration rest read

theorem SettledFrom.behind {previous : Option Char} (front : Text) {c : Char}
    (settled : SettledFrom previous (front ++ c :: s)) : SettledFrom (some c) s := by
  induction front generalizing previous with
  | nil => exact settled.2
  | cons d front ih => exact ih settled.2

theorem SettledFrom.of_append {previous : Option Char} {front : Text}
    (settled : SettledFrom previous (front ++ s)) (some_front : front ≠ []) :
    ∃ last, SettledFrom (some last) s := by
  obtain ⟨front, last, rfl⟩ := List.eq_nil_or_concat front |>.resolve_left some_front
  exact ⟨last, SettledFrom.behind front (by simpa using settled)⟩

theorem settledFrom_append_of_word {previous : Char} {name : Text} (word : isWord previous)
    (words : ∀ c ∈ name, isWord c) (behind : ∀ c, isWord c → SettledFrom (some c) s) :
    SettledFrom (some previous) (name ++ s) := by
  induction name generalizing previous with
  | nil => exact behind previous word
  | cons c name ih =>
    refine ⟨fun boundary => ?_, ih (words c (by simp)) fun d member => words d (by simp [member])⟩
    simp [boundary previous rfl] at word

theorem renamedFrom_eq_self (table : NameTable) {previous : Option Char}
    (settled : SettledFrom previous s) : renamedFrom table s = s := by
  induction s using afterBoundary.scan_induction generalizing previous with
  | done => exact renamedFrom_nil table
  | keep c r kept ih => rw [renamedFrom_none table kept, ih settled.2]
  | take s found rest taken ih =>
    obtain ⟨c, declaration⟩ := found
    rw [renamedFrom_some table taken]
    obtain ⟨r, rfl, boundary, read⟩ := afterBoundary_read_eq_some.mp taken
    have inner : SettledFrom (some c) r := settled.2
    obtain ⟨oneSpace, short⟩ := inner.front (by simpa using boundary) read
    obtain ⟨rfl, wellFormed, -⟩ := read?_eq_some_iff.mp read
    obtain ⟨last, behind⟩ := inner.of_append (by simp [text, wellFormed.some_name])
    rw [rename_of_short short, ih behind]
    simp [text, oneSpace]

theorem renameVariables_eq_self (settled : SettledFrom none s) : renameVariables s = s := by
  rw [renameVariables_eq]
  split
  · next declaration rest read =>
    obtain ⟨oneSpace, short⟩ := settled.front (by simp) read
    obtain ⟨rfl, wellFormed, -⟩ := read?_eq_some_iff.mp read
    obtain ⟨last, behind⟩ := settled.of_append (by simp [text, wellFormed.some_name])
    rw [rename_of_short short, renamedFrom_eq_self _ behind]
    simp [text, oneSpace]
  · exact renamedFrom_eq_self _ settled

/-! ## Following a declaration back -/

theorem word_of_renamedFrom {table : NameTable} {name t : Text}
    (same : renamedFrom table s = name ++ t) (words : ∀ c ∈ name, isWord c) :
    ∃ r, s = name ++ r ∧ renamedFrom table r = t := by
  induction name generalizing s with
  | nil => exact ⟨s, rfl, same⟩
  | cons w name ih =>
    cases s with
    | nil => simp at same
    | cons c r =>
      cases found : afterBoundary.read (c :: r) with
      | none =>
        rw [renamedFrom_none table found, List.cons_append, List.cons.injEq] at same
        obtain ⟨rfl, same⟩ := same
        obtain ⟨rest, rfl, further⟩ := ih same fun d member => words d (by simp [member])
        exact ⟨rest, rfl, further⟩
      | some accepted =>
        -- A declaration stands behind a boundary, which is no part of a word.
        obtain ⟨⟨b, declaration⟩, rest⟩ := accepted
        obtain ⟨_, _, boundary, -⟩ := afterBoundary_read_eq_some.mp found
        rw [renamedFrom_some table found, List.cons_append, List.cons.injEq] at same
        simp [same.1, words w (by simp)] at boundary

theorem blanks_of_renamedFrom {table : NameTable} {gap t : Text} {c : Char}
    (same : renamedFrom table s = gap ++ c :: t) (blank : ∀ b ∈ gap, isBlank b)
    (word : isWord c) : ∃ r, s = gap ++ c :: r := by
  induction gap generalizing s with
  | nil =>
    have front : renamedFrom table s = [c] ++ t := same
    obtain ⟨r, rfl, -⟩ := word_of_renamedFrom front (by simpa using word)
    exact ⟨r, rfl⟩
  | cons b gap ih =>
    cases s with
    | nil => simp at same
    | cons d r =>
      cases found : afterBoundary.read (d :: r) with
      | none =>
        rw [renamedFrom_none table found, List.cons_append, List.cons.injEq] at same
        obtain ⟨rfl, same⟩ := same
        obtain ⟨rest, rfl⟩ := ih same fun e member => blank e (by simp [member])
        exact ⟨rest, rfl⟩
      | some accepted =>
        -- A declaration that was renamed begins here: its keyword is the word in question.
        obtain ⟨⟨e, declaration⟩, rest⟩ := accepted
        obtain ⟨_, whole, -, read⟩ := afterBoundary_read_eq_some.mp found
        obtain ⟨rfl, wellFormed, -⟩ := read?_eq_some_iff.mp read
        obtain ⟨first, second, others, keyword⟩ := declaration.keyword.text_eq
        obtain ⟨_, _, written⟩ := rename_eq wellFormed table
        rw [renamedFrom_some table found, written, keyword] at same
        obtain ⟨rfl, begins⟩ := List.cons.inj same
        rw [whole, text, keyword]
        cases gap with
        | nil =>
          obtain ⟨rfl, -⟩ := List.cons.inj begins
          exact ⟨_, rfl⟩
        | cons f gap =>
          obtain ⟨rfl, -⟩ := List.cons.inj begins
          have letter : isWord first := Keyword.isWord_of_mem declaration.keyword
            (by simp [keyword])
          simp [isBlank_of_isWord letter] at blank

theorem read?_renamedFrom_eq_none (table : NameTable) (unread : read? s = none) :
    read? (renamedFrom table s) = none := by
  rw [← Option.not_isSome_iff_eq_none] at unread ⊢
  intro found
  obtain ⟨keyword, gap, c, tail, same, some_gap, blank, word⟩ := read?_isSome_iff.mp found
  obtain ⟨behind, rfl, further⟩ := word_of_renamedFrom same fun _ => keyword.isWord_of_mem
  obtain ⟨rest, rfl⟩ := blanks_of_renamedFrom further blank word
  exact unread (read?_isSome_iff.mpr ⟨keyword, gap, c, rest, rfl, some_gap, blank, word⟩)

theorem head?_renamedFrom (table : NameTable) (s : Text) :
    (renamedFrom table s).head? = s.head? := by
  cases s with
  | nil => simp
  | cons c r =>
    cases found : afterBoundary.read (c :: r) with
    | none => simp [renamedFrom_none table found]
    | some accepted =>
      obtain ⟨⟨b, declaration⟩, rest⟩ := accepted
      obtain ⟨_, same, -⟩ := afterBoundary_read_eq_some.mp found
      rw [renamedFrom_some table found, (List.cons.inj same).1]
      rfl

theorem wordEnds_renamedFrom (table : NameTable) (ends : s.wordEnds) :
    (renamedFrom table s).wordEnds := by
  rwa [Text.wordEnds, head?_renamedFrom]

theorem isWord_of_read? {c : Char} (found : (read? (c :: s)).isSome) :
    isWord c ∧ ¬ s.wordEnds := by
  obtain ⟨keyword, gap, d, tail, same, -⟩ := read?_isSome_iff.mp found
  obtain ⟨first, second, others, letters⟩ := keyword.text_eq
  have letter : ∀ e ∈ first :: second :: others, isWord e := fun e member =>
    keyword.isWord_of_mem (letters ▸ member)
  rw [letters] at same
  obtain ⟨rfl, rfl⟩ := List.cons.inj same
  refine ⟨letter c (by simp), fun ends => ?_⟩
  simp [Text.wordEnds_cons, letter second (by simp)] at ends

theorem read?_eq_none_of_wordEnds {c : Char} (ends : s.wordEnds) : read? (c :: s) = none :=
  Option.not_isSome_iff_eq_none.mp fun found => (isWord_of_read? found).2 ends

/-- A declaration of a name of one character is settled, and no other one begins in it. -/
theorem settledFrom_declared (keyword : Keyword) {c : Char} (word : isWord c) (ends : s.wordEnds)
    (behind : ∀ d, isWord d → SettledFrom (some d) s) (previous : Option Char) :
    SettledFrom previous (keyword.text ++ [' ', c] ++ s) := by
  obtain ⟨first, second, others, letters⟩ := keyword.text_eq
  have words : ∀ d ∈ first :: second :: others, isWord d := fun d member =>
    keyword.isWord_of_mem (letters ▸ member)
  have whole : read? (keyword.text ++ [' ', c] ++ s) = some (⟨keyword, [' '], [c]⟩, s) :=
    read?_eq_some_iff.mpr ⟨by simp [text],
      ⟨by simp, by simp [isBlank], by simp, by simpa using word⟩, ends⟩
  have fromSpace : SettledFrom (some ' ') (c :: s) := by
    refine ⟨fun _ declaration rest read => ?_, behind c word⟩
    cases (read?_eq_none_of_wordEnds ends).symm.trans read
  have insideWord : ∀ d, isWord d → SettledFrom (some d) (' ' :: c :: s) := fun d letter =>
    ⟨fun boundary => by simp [boundary d rfl] at letter, fromSpace⟩
  rw [letters] at whole ⊢
  refine ⟨fun _ declaration rest read => ?_, ?_⟩
  · obtain ⟨rfl, -⟩ := Prod.mk.inj (Option.some.inj (whole.symm.trans read))
    have one : Text.bytes [c] = 1 := bytes_eq_length (by simpa using word)
    exact ⟨rfl, one.le⟩
  · have inner := settledFrom_append_of_word (words first (by simp))
      (fun d member => words d (List.mem_cons_of_mem first member)) insideWord
    simpa using inner

theorem settledFrom_renamedFrom (table : NameTable) {previous : Option Char}
    (tried : (∀ b ∈ previous, isWord b = false) → read? s = none) :
    SettledFrom previous (renamedFrom table s) := by
  induction s using afterBoundary.scan_induction generalizing table previous with
  | done => simp [SettledFrom]
  | keep c r kept ih =>
    have unread := fun boundary => read?_renamedFrom_eq_none table (tried boundary)
    rw [renamedFrom_none table kept] at unread ⊢
    refine ⟨fun boundary declaration rest read => ?_, ih table ?_⟩
    · cases (unread boundary).symm.trans read
    · -- The next place was tried if this character belongs to no word.
      simpa using afterBoundary_read_eq_none.mp kept
  | take s found rest taken ih =>
    obtain ⟨c, declaration⟩ := found
    have unread := fun boundary => read?_renamedFrom_eq_none table (tried boundary)
    -- The scan goes on behind the name, where a word has ended but the name is a word.
    obtain ⟨r, rfl, boundary, read⟩ := afterBoundary_read_eq_some.mp taken
    obtain ⟨rfl, wellFormed, ends⟩ := read?_eq_some_iff.mp read
    obtain ⟨w, word, written⟩ := rename_eq wellFormed table
    rw [renamedFrom_some table taken, written] at unread ⊢
    refine ⟨fun boundary declaration rest read => ?_, ?_⟩
    · cases (unread boundary).symm.trans read
    · refine settledFrom_declared declaration.keyword word (wordEnds_renamedFrom _ ends)
        (fun d letter => ih _ fun boundary => ?_) _
      simp [boundary d rfl] at letter

theorem settledFrom_renameVariables (code : Text) : SettledFrom none (renameVariables code) := by
  rw [renameVariables_eq]
  split
  · next declaration rest read =>
    obtain ⟨rfl, wellFormed, ends⟩ := read?_eq_some_iff.mp read
    obtain ⟨w, word, written⟩ := rename_eq wellFormed .empty
    rw [written]
    refine settledFrom_declared declaration.keyword word (wordEnds_renamedFrom _ ends)
      (fun d letter => settledFrom_renamedFrom _ fun boundary => ?_) _
    simp [boundary d rfl] at letter
  · next unread => exact settledFrom_renamedFrom _ fun _ => unread

end Declaration

end Snippet
