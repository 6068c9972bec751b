import Snippet.Proofs.Renaming.Collisions

/-! The table of names after any names have been assigned.

The table holds the different names that it was asked for, in the order in which they came,
so that the position of a name is its rank. It leaves out the names that are kept, which it
tells by their bytes: of the names of one character only those of ASCII are kept.
-/

set_option autoImplicit false

namespace Snippet

variable {names : List Text} {name other : Text}

/-! ## Short names -/

def IsLoneForeign (name : Text) : Prop := ∃ c, name = [c] ∧ 128 ≤ c.toNat

theorem two_le_utf8Size_iff {c : Char} : 2 ≤ c.utf8Size ↔ 128 ≤ c.toNat := by
  have one := utf8Size_eq_one_iff_toNat (c := c)
  have some_byte := c.utf8Size_pos
  omega

theorem two_le_bytes_iff : 2 ≤ Text.bytes name ↔ 2 ≤ name.length ∨ IsLoneForeign name := by
  match name with
  | [] => simp [Text.bytes_nil, IsLoneForeign]
  | [c] => simp [Text.bytes_cons, Text.bytes_nil, two_le_utf8Size_iff, IsLoneForeign]
  | c :: d :: others =>
    have first := c.utf8Size_pos
    have second := d.utf8Size_pos
    rw [Text.bytes_cons, Text.bytes_cons]
    exact iff_of_true (by omega) (.inl (by simp))

/-! ## Positions in a list of names -/

theorem idxOf_lt_of_mem_take {n : Nat} (member : name ∈ names.take n) : names.idxOf name < n := by
  have early : names.idxOf name = (names.take n).idxOf name := by
    conv_lhs => rw [← List.take_append_drop n names]
    rw [List.idxOf_append, if_pos member]
  have inside := List.idxOf_lt_length_of_mem member
  rw [List.length_take] at inside
  omega

theorem length_eraseDups_lt {fewer more : List Text} (part : fewer ⊆ more)
    (member : name ∈ more) (new : name ∉ fewer) :
    fewer.eraseDups.length < more.eraseDups.length := by
  have different : (name :: fewer.eraseDups).Nodup :=
    List.nodup_cons.mpr ⟨by simpa using new, nodup_eraseDups fewer⟩
  have inside : name :: fewer.eraseDups ⊆ more.eraseDups := by
    intro one found
    rw [List.mem_eraseDups]
    rcases List.mem_cons.mp found with rfl | found
    · exact member
    · exact part (List.mem_eraseDups.mp found)
  exact (different.subperm inside).length_le

namespace NameTable

def after (names : List Text) : NameTable :=
  names.foldl (fun table name => (table.assign name).2) .empty

/-- What the table says of its names where `isLong` tells which of them are given letters:
how it answers when a name is assigned next, and what it holds. -/
structure Ranks (isLong : Text → Bool) (names : List Text) (name : Text) : Prop where
  keeps : ((after names).assign name).1 = none ↔ isLong name = false
  unchanged : isLong name = false → ((after names).assign name).2 = after names
  letter : isLong name → ((after names).assign name).1 =
    some (smallLetters.getD (rank ((names ++ [name]).filter isLong) name % 26) 'a')
  size : (after names).size = (names.filter isLong).eraseDups.length
  isEmpty : (after names).isEmpty ↔ names.filter isLong = []
  apart : ∀ first ∈ (names.filter isLong).eraseDups.take 26,
    ∀ second ∈ (names.filter isLong).eraseDups.take 26,
      first ≠ second → ((after names).assign first).1 ≠ ((after names).assign second).1

def manyBytes (name : Text) : Bool := 2 ≤ Text.bytes name

def manyCharacters (name : Text) : Bool := 2 ≤ name.length

theorem manyBytes_iff : manyBytes name ↔ manyCharacters name ∨ IsLoneForeign name := by
  simp [manyBytes, manyCharacters, two_le_bytes_iff]

theorem not_manyCharacters_of_lone (lone : IsLoneForeign name) :
    manyCharacters name = false := by
  obtain ⟨c, rfl, -⟩ := lone
  rfl

/-! ## What assigning names leaves -/

theorem after_concat (names : List Text) (name : Text) :
    after (names ++ [name]) = ((after names).assign name).2 := by
  rw [after, List.foldl_append]
  rfl

theorem assign_short (short : manyBytes name = false) (table : NameTable) :
    table.assign name = (none, table) := by
  have few : ¬ 2 ≤ Text.bytes name := by simpa [manyBytes] using short
  exact assign_of_short (by omega) table

theorem filter_concat_long (long : manyBytes name) (names : List Text) :
    (names ++ [name]).filter manyBytes = names.filter manyBytes ++ [name] := by
  rw [List.filter_append, List.filter_cons_of_pos long]
  rfl

/-- The step: what a long name is given, and what the table holds then. -/
theorem assign_long (holds : (after names).names = (names.filter manyBytes).eraseDups)
    (long : manyBytes name) : (after names).assign name =
      (some (smallLetters.getD (rank ((names ++ [name]).filter manyBytes) name % 26) 'a'),
        ⟨((names ++ [name]).filter manyBytes).eraseDups⟩) := by
  have many : 2 ≤ Text.bytes name := by simpa [manyBytes] using long
  rw [assign_eq holds many [], letter_eq_getD, filter_concat_long long]

/-- The run: the table holds the different long names. -/
theorem names_after (names : List Text) :
    (after names).names = (names.filter manyBytes).eraseDups := by
  induction names using List.reverseRecOn with
  | nil => rfl
  | append_singleton names name ih =>
    rw [after_concat]
    cases long : manyBytes name with
    | true => rw [assign_long ih long]
    | false =>
      rw [assign_short long, ih, List.filter_append, List.filter_cons_of_neg (by simp [long])]
      simp

theorem letter_of_mem (member : name ∈ names.filter manyBytes) :
    ((after names).assign name).1 =
      some (smallLetters.getD ((names.filter manyBytes).eraseDups.idxOf name % 26) 'a') := by
  have long : manyBytes name := (List.mem_filter.mp member).2
  rw [assign_long (names_after names) long, filter_concat_long long, rank_of_mem member]

theorem ranks_manyBytes (names : List Text) (name : Text) : Ranks manyBytes names name where
  keeps := by
    cases long : manyBytes name with
    | true => simp [assign_long (names_after names) long]
    | false => simp [assign_short long]
  unchanged short := by rw [assign_short short]
  letter long := by rw [assign_long (names_after names) long]
  size := by rw [size, names_after]
  isEmpty := by
    rw [isEmpty, names_after, List.isEmpty_iff, List.eq_nil_iff_forall_not_mem,
      List.eq_nil_iff_forall_not_mem]
    simp only [List.mem_eraseDups]
  apart := by
    intro first early second earlyToo differ same
    have member := List.mem_eraseDups.mp (List.mem_of_mem_take early)
    have memberToo := List.mem_eraseDups.mp (List.mem_of_mem_take earlyToo)
    -- The first 26 positions are below the place where the letters begin again.
    have inside := idxOf_lt_of_mem_take early
    have insideToo := idxOf_lt_of_mem_take earlyToo
    rw [letter_of_mem member, letter_of_mem memberToo, Option.some_inj, Nat.mod_eq_of_lt inside,
      Nat.mod_eq_of_lt insideToo] at same
    have position := smallLetters_inj inside insideToo same
    exact differ ((List.idxOf_inj (List.mem_of_mem_take early)).mp position)

/-! ## Bytes and characters -/

variable {isLong isLongToo : Text → Bool}

theorem Ranks.congr (ranks : Ranks isLong names name)
    (same : ∀ other ∈ names ++ [name], isLong other = isLongToo other) :
    Ranks isLongToo names name := by
  have here : isLong name = isLongToo name := same name (by simp)
  have all : (names ++ [name]).filter isLong = (names ++ [name]).filter isLongToo :=
    List.filter_congr same
  have before : names.filter isLong = names.filter isLongToo :=
    List.filter_congr fun other member => same other (by simp [member])
  obtain ⟨keeps, unchanged, letter, size, isEmpty, apart⟩ := ranks
  rw [here] at keeps unchanged letter
  rw [all] at letter
  rw [before] at size isEmpty apart
  exact ⟨keeps, unchanged, letter, size, isEmpty, apart⟩

/-- The table ranks the names of two or more bytes. So it ranks those of two or more characters
exactly if no name is a single character that is none of ASCII. -/
theorem ranks_manyCharacters_iff (names : List Text) (name : Text) :
    Ranks manyBytes names name ∧
    (Ranks manyCharacters names name ↔ ∀ other ∈ names ++ [name], ¬ IsLoneForeign other) := by
  have ranks := ranks_manyBytes names name
  refine ⟨ranks, fun ranksToo other member lone => ?_, fun none => ranks.congr ?_⟩
  · have long : manyBytes other := manyBytes_iff.mpr (.inr lone)
    have short := not_manyCharacters_of_lone lone
    rcases List.mem_append.mp member with member | here
    · -- The name was entered, so the table is larger than it should be.
      have part : names.filter manyCharacters ⊆ names.filter manyBytes := by
        intro one found
        obtain ⟨member, many⟩ := List.mem_filter.mp found
        exact List.mem_filter.mpr ⟨member, manyBytes_iff.mpr (.inl many)⟩
      have larger := length_eraseDups_lt part (List.mem_filter.mpr ⟨member, long⟩)
        fun found => by simp [short] at found
      have size := ranks.size.symm.trans ranksToo.size
      omega
    · obtain rfl := List.mem_singleton.mp here
      have given := ranks.keeps.mp (ranksToo.keeps.mpr short)
      simp [long] at given
  · intro other member
    rw [Bool.eq_iff_iff, manyBytes_iff]
    simp [none other member]

theorem not_ranks_accented :
    let name := "é".toList
    name.length = 1 ∧ (NameTable.empty.assign name).1 = some 'a' ∧
      (NameTable.empty.assign name).2.size = 1 ∧ ¬ Ranks manyCharacters [] name := by
  refine ⟨by decide, by decide, by decide, fun ranks => ?_⟩
  exact absurd (ranks.keeps.mpr (by decide)) (by decide)

end NameTable

end Snippet
