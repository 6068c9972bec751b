import Mathlib.Data.List.GetD
import Mathlib.Data.List.Perm.Subperm
import Snippet.Proofs.Renaming.Declared

/-! Declared names that can no longer be told apart.

Two names of two or more characters get different letters as long as there are letters. A
name of one character is kept, and no letter is kept free for it: it may be the one that
another name is given.
-/

set_option autoImplicit false

namespace Snippet

variable {names : List Text} {name other : Text}

/-! ## The names declared in the new text -/

theorem declaredIn_renameVariables (code : Text) :
    declaredIn (renameVariables code) = (declaredIn code).map (newName (declaredIn code)) := by
  rw [declaredIn, renameVariables_eq_text, Worded.of_text (isMaximal_renamed code)]
  exact declaredNames_renameDeclared _ _

/-! ## Names and letters -/

theorem nodup_eraseDups (names : List Text) : names.eraseDups.Nodup := by
  induction names using List.reverseRecOn with
  | nil => exact List.nodup_nil
  | append_singleton names name ih =>
    rw [eraseDups_concat]
    split
    · exact ih
    · next new =>
      rw [← List.mem_eraseDups] at new
      refine List.nodup_append.mpr ⟨ih, by simp, fun first member second same => ?_⟩
      rintro rfl
      exact new (List.mem_singleton.mp same ▸ member)

theorem length_eraseDups_longNames_le (names : List Text) :
    (longNames names).eraseDups.length ≤ names.eraseDups.length := by
  refine ((nodup_eraseDups (longNames names)).subperm fun name member => ?_).length_le
  rw [List.mem_eraseDups] at member ⊢
  exact (List.mem_filter.mp member).1

theorem mem_longNames : name ∈ longNames names ↔ name ∈ names ∧ 2 ≤ name.length := by
  rw [longNames, List.mem_filter, decide_eq_true_iff]

theorem newName_of_short (short : ¬ 2 ≤ name.length) (names : List Text) :
    newName names name = name := if_neg short

theorem newName_of_long (few : (longNames names).eraseDups.length ≤ 26)
    (member : name ∈ longNames names) :
    (longNames names).eraseDups.idxOf name < (longNames names).eraseDups.length ∧
      newName names name = [smallLetters.getD ((longNames names).eraseDups.idxOf name) 'a'] := by
  have inside : (longNames names).eraseDups.idxOf name < (longNames names).eraseDups.length :=
    List.idxOf_lt_length_of_mem (by simpa using member)
  have position := rank_of_mem member []
  rw [List.append_nil] at position
  refine ⟨inside, ?_⟩
  rw [newName, if_pos (mem_longNames.mp member).2, position,
    Nat.mod_eq_of_lt (Nat.lt_of_lt_of_le inside few)]

theorem smallLetters_inj {i j : Nat} (first : i < 26) (second : j < 26)
    (same : smallLetters.getD i 'a' = smallLetters.getD j 'a') : i = j := by
  have differ : ∀ i < 26, ∀ j < 26, smallLetters.getD i 'a' = smallLetters.getD j 'a' → i = j := by
    decide
  exact differ i first j second same

theorem newName_inj (few : (longNames names).eraseDups.length ≤ 26)
    (first : name ∈ longNames names) (second : other ∈ longNames names) :
    newName names name = newName names other ↔ name = other := by
  refine ⟨fun same => ?_, fun same => same ▸ rfl⟩
  obtain ⟨inside, letter⟩ := newName_of_long few first
  obtain ⟨insideToo, letterToo⟩ := newName_of_long few second
  rw [letter, letterToo, List.singleton_inj] at same
  have position := smallLetters_inj (Nat.lt_of_lt_of_le inside few)
    (Nat.lt_of_lt_of_le insideToo few) same
  exact (List.idxOf_inj (by simpa using first)).mp position

theorem mem_take_smallLetters (few : (longNames names).eraseDups.length ≤ 26) {c : Char} :
    c ∈ smallLetters.take (longNames names).eraseDups.length ↔
      ∃ name ∈ longNames names, newName names name = [c] := by
  have letters : smallLetters.length = 26 := rfl
  constructor
  · intro given
    obtain ⟨position, inside, rfl⟩ := List.mem_iff_getElem.mp given
    rw [List.length_take] at inside
    have own : position < (longNames names).eraseDups.length := by omega
    have member : (longNames names).eraseDups[position] ∈ longNames names :=
      List.mem_eraseDups.mp (List.getElem_mem own)
    refine ⟨_, member, ?_⟩
    rw [(newName_of_long few member).2, (nodup_eraseDups _).idxOf_getElem position own,
      List.getD_eq_getElem _ _ (by omega), List.getElem_take]
  · rintro ⟨name, member, given⟩
    obtain ⟨inside, letter⟩ := newName_of_long few member
    rw [letter, List.singleton_inj, List.getD_eq_getElem _ _ (by omega)] at given
    rw [← given]
    exact List.mem_take_iff_getElem.mpr ⟨_, by omega, rfl⟩

/-! ## Collisions -/

/-- A kept name of at most one character is the letter that a long name is given. -/
def Takes (names : List Text) (long short : Text) : Prop :=
  2 ≤ long.length ∧ ¬ 2 ≤ short.length ∧ newName names long = short

theorem newName_eq_iff (few : (longNames names).eraseDups.length ≤ 26) (first : name ∈ names)
    (second : other ∈ names) : newName names name = newName names other ↔
      name = other ∨ Takes names name other ∨ Takes names other name := by
  by_cases long : 2 ≤ name.length <;> by_cases longToo : 2 ≤ other.length
  · rw [newName_inj few (mem_longNames.mpr ⟨first, long⟩) (mem_longNames.mpr ⟨second, longToo⟩)]
    simp [Takes, long, longToo]
  · have differ : name ≠ other := by
      rintro rfl
      exact longToo long
    simp [Takes, long, longToo, differ, newName_of_short longToo]
  · have differ : name ≠ other := by
      rintro rfl
      exact long longToo
    simp [Takes, long, longToo, differ, newName_of_short long, eq_comm]
  · simp [Takes, long, longToo, newName_of_short long, newName_of_short longToo]

/-- Two declarations have the same name in the new text exactly if they had it before. -/
def KeepsApart (code : Text) : Prop :=
  ∀ i < (declaredIn code).length, ∀ j < (declaredIn code).length,
    ((declaredIn (renameVariables code))[i]? = (declaredIn (renameVariables code))[j]? ↔
      (declaredIn code)[i]? = (declaredIn code)[j]?)

/-- Of at most 26 names, two become the same exactly if a name of one character is the letter
that another one is given. So all stay apart exactly if no declared name is one of the
letters that are given. -/
theorem keepsApart_iff (code : Text) (few : (declaredIn code).eraseDups.length ≤ 26) :
    (declaredIn (renameVariables code)).length = (declaredIn code).length ∧
    (∀ (i j : Nat) (name other : Text), (declaredIn code)[i]? = some name →
      (declaredIn code)[j]? = some other →
      ((declaredIn (renameVariables code))[i]? = (declaredIn (renameVariables code))[j]? ↔
        name = other ∨ Takes (declaredIn code) name other ∨ Takes (declaredIn code) other name)) ∧
    (KeepsApart code ↔
      ∀ c ∈ smallLetters.take (longNames (declaredIn code)).eraseDups.length,
        [c] ∉ declaredIn code) := by
  have few := (length_eraseDups_longNames_le (declaredIn code)).trans few
  have renamed (i : Nat) : (declaredIn (renameVariables code))[i]? =
      (declaredIn code)[i]?.map (newName (declaredIn code)) := by
    rw [declaredIn_renameVariables, List.getElem?_map]
  have pairs (i j : Nat) (name other : Text) (first : (declaredIn code)[i]? = some name)
      (second : (declaredIn code)[j]? = some other) :
      (declaredIn (renameVariables code))[i]? = (declaredIn (renameVariables code))[j]? ↔
        name = other ∨ Takes (declaredIn code) name other ∨
          Takes (declaredIn code) other name := by
    rw [renamed, renamed, first, second, Option.map_some, Option.map_some, Option.some_inj]
    exact newName_eq_iff few (List.mem_of_getElem? first) (List.mem_of_getElem? second)
  refine ⟨by rw [declaredIn_renameVariables, List.length_map], pairs, fun apart c given kept => ?_,
    fun free i insideI j insideJ => ?_⟩
  · -- The long name with this letter and the kept one become the same.
    obtain ⟨name, member, letter⟩ := (mem_take_smallLetters few).mp given
    obtain ⟨declared, long⟩ := mem_longNames.mp member
    obtain ⟨i, first⟩ := List.mem_iff_getElem?.mp declared
    obtain ⟨j, second⟩ := List.mem_iff_getElem?.mp kept
    have collide := (pairs i j name [c] first second).mpr (.inr (.inl ⟨long, by simp, letter⟩))
    have same := (apart i (List.getElem?_eq_some_iff.mp first).1
      j (List.getElem?_eq_some_iff.mp second).1).mp collide
    rw [first, second, Option.some_inj] at same
    simp [same] at long
  · have first := List.getElem?_eq_getElem insideI
    have second := List.getElem?_eq_getElem insideJ
    have untaken {long short : Text} (declared : long ∈ declaredIn code)
        (kept : short ∈ declaredIn code) : ¬ Takes (declaredIn code) long short := by
      rintro ⟨size, -, rfl⟩
      have member := mem_longNames.mpr ⟨declared, size⟩
      have letter := (newName_of_long few member).2
      rw [letter] at kept
      exact free _ ((mem_take_smallLetters few).mpr ⟨long, member, letter⟩) kept
    have memberI := List.mem_of_getElem? first
    have memberJ := List.mem_of_getElem? second
    rw [pairs i j _ _ first second, first, second, Option.some_inj]
    simp [untaken memberI memberJ, untaken memberJ memberI]

theorem keepsApart_iff_loop :
    let code := "for(let i=0;;) {var total; let i; const total = i}".toList
    (declaredIn code).eraseDups.length ≤ 26 ∧
    (KeepsApart code ↔
      ∀ c ∈ smallLetters.take (longNames (declaredIn code)).eraseDups.length,
        [c] ∉ declaredIn code) ∧ KeepsApart code := by
  intro code
  have few : (declaredIn code).eraseDups.length ≤ 26 := by decide +kernel
  have apart := (keepsApart_iff code few).2.2
  have given : smallLetters.take (longNames (declaredIn code)).eraseDups.length = ['a'] := by
    decide +kernel
  have free : ['a'] ∉ declaredIn code := by decide +kernel
  refine ⟨few, apart, apart.mpr ?_⟩
  rw [given]
  simpa using free

theorem not_keepsApart_letter :
    let code := "let a; let foo;".toList
    (declaredIn code).eraseDups.length ≤ 26 ∧ ¬ KeepsApart code := by
  have names : declaredIn "let a; let foo;".toList = ["a".toList, "foo".toList] := by decide
  have renamed : declaredIn (renameVariables "let a; let foo;".toList) =
      ["a".toList, "a".toList] := by decide +kernel
  refine ⟨by decide, fun apart => ?_⟩
  have same := (apart 0 (by rw [names]; decide) 1 (by rw [names]; decide)).mp
  rw [names, renamed] at same
  exact absurd (same rfl) (by decide)

end Snippet
