import Snippet.Proofs.Renaming
import Snippet.Proofs.Words

/-! Renaming, told by the words of a text.

A keyword declares the word behind it if nothing but blanks part the two. The scan of the
renaming comes to the declarations of a text in order, and the letter of a name can be
counted off the names that are declared in front of it.
-/

set_option autoImplicit false

namespace Snippet

/-! ## Names and letters -/

/-- How many different names come before the first occurrence of a name. -/
def rank (names : List Text) (name : Text) : Nat :=
  (names.takeWhile (· != name)).eraseDups.length

def smallLetters : Text := "abcdefghijklmnopqrstuvwxyz".toList

def longNames (names : List Text) : List Text := names.filter (2 ≤ ·.length)

/-- What a name is replaced by where `names` are declared: a letter if it is long, the letters
in the order of the names and from the beginning again after the last. -/
def newName (names : List Text) (name : Text) : Text :=
  if 2 ≤ name.length then [smallLetters.getD (rank (longNames names) name % 26) 'a'] else name

variable {names later : List Text} {name : Text}

theorem rank_of_notMem (new : name ∉ names) (later : List Text) :
    rank (names ++ name :: later) name = names.eraseDups.length := by
  have differ : ∀ other ∈ names, (other != name) = true := by
    intro other member
    rw [bne_iff_ne]
    rintro rfl
    exact new member
  rw [rank, List.takeWhile_append_of_pos differ, List.takeWhile_cons_of_neg (by simp),
    List.append_nil]

theorem rank_of_mem (member : name ∈ names) (later : List Text) :
    rank (names ++ later) name = names.eraseDups.idxOf name := by
  obtain ⟨before, after, rfl, new⟩ := List.eq_append_cons_of_mem member
  rw [List.append_assoc, List.cons_append, rank_of_notMem new, List.eraseDups_append,
    List.cons_removeAll, if_pos (by simpa using new), List.eraseDups_cons, List.idxOf_append,
    if_neg (by simpa using new), List.idxOf_cons_self, Nat.zero_add]

theorem eraseDups_concat (names : List Text) (name : Text) : (names ++ [name]).eraseDups =
    if name ∈ names then names.eraseDups else names.eraseDups ++ [name] := by
  rw [List.eraseDups_append, List.cons_removeAll]
  split
  · next new => simp [show name ∉ names by simpa using new, List.eraseDups_cons, List.removeAll]
  · next old => simp [show name ∈ names by simpa using old, List.removeAll]

theorem longNames_nil : longNames [] = [] := rfl

theorem longNames_cons (long : 2 ≤ name.length) (names : List Text) :
    longNames (name :: names) = name :: longNames names :=
  List.filter_cons_of_pos (by simpa using long)

theorem longNames_append (names later : List Text) :
    longNames (names ++ later) = longNames names ++ longNames later :=
  List.filter_append names later

namespace NameTable

variable {table : NameTable}

theorem letter_eq_getD (position : Nat) :
    letter position = smallLetters.getD (position % 26) 'a' := by
  have letters : ∀ n < 26, Char.ofNat ('a'.toNat + n) = smallLetters.getD n 'a' := by decide
  exact letters _ (Nat.mod_lt _ (by decide))

/-- A table that holds the different names of a list in order gives a name the letter of
its rank, and then holds those of the longer list. -/
theorem assign_eq (holds : table.names = names.eraseDups) (long : 1 < Text.bytes name)
    (later : List Text) : table.assign name =
      (some (letter (rank (names ++ name :: later) name)), ⟨(names ++ [name]).eraseDups⟩) := by
  rw [assign, if_neg (Nat.not_le_of_lt long), eraseDups_concat, holds]
  split
  · next position found =>
    have member : name ∈ names := by
      rw [← List.mem_eraseDups, ← List.isSome_idxOf?, found]
      rfl
    rw [rank_of_mem member, List.idxOf_eq_getD_idxOf?, found, if_pos member, ← holds]
    rfl
  · next absent =>
    have new : name ∉ names := by
      rw [← List.mem_eraseDups]
      exact List.idxOf?_eq_none_iff.mp absent
    rw [rank_of_notMem new, if_neg new, size, holds]

end NameTable

theorem isWord_smallLetter (position : Nat) :
    isWord (smallLetters.getD (position % 26) 'a') := by
  rw [← NameTable.letter_eq_getD]
  exact NameTable.isWord_letter position

theorem newName_word (names : List Text) (name : Text)
    (word : name ≠ [] ∧ ∀ c ∈ name, isWord c) :
    newName names name ≠ [] ∧ ∀ c ∈ newName names name, isWord c := by
  rw [newName]
  split
  · exact ⟨by simp, by simpa using isWord_smallLetter _⟩
  · exact word

/-! ## Declarations among words -/

def Word.declares (word : Word) : Bool :=
  [Keyword.var, .let_, .const].any (·.text == word.text) && word.behind.allBlank

/-- The declared names, from left to right. A name declares nothing itself. -/
def declaredNames : List Word → List Text
  | word :: name :: others =>
    if word.declares then name.text :: declaredNames others else declaredNames (name :: others)
  | _ => []

/-- The words with each declared name replaced and one space in front of it. -/
def renameDeclared (replacement : Text → Text) : List Word → List Word
  | word :: name :: others =>
    if word.declares then
      ⟨word.text, [' ']⟩ :: ⟨replacement name.text, name.behind⟩ ::
        renameDeclared replacement others
    else word :: renameDeclared replacement (name :: others)
  | words => words

theorem Word.declares_iff {word : Word} : word.declares ↔
    (∃ keyword : Keyword, keyword.text = word.text) ∧ ∀ c ∈ word.behind, isBlank c := by
  have keywords : (∃ keyword : Keyword, keyword.text = word.text) ↔
      [Keyword.var, .let_, .const].any (·.text == word.text) := by
    rw [List.any_eq_true]
    constructor
    · rintro ⟨keyword, same⟩
      exact ⟨keyword, by cases keyword <;> simp, by simpa using same⟩
    · rintro ⟨keyword, -, same⟩
      exact ⟨keyword, by simpa using same⟩
  rw [keywords, declares, Bool.and_eq_true, Text.allBlank, List.all_eq_true]

/-- The word declares nothing: no word follows, or it is no keyword with blanks behind it. -/
def Word.Silent (word : Word) (others : List Word) : Prop := others = [] ∨ ¬ word.declares

variable {words others : List Word} {word : Word}

/-- Words from left to right: two of them are a declaration, or one is passed. -/
@[elab_as_elim]
theorem declaring_induction {motive : List Word → Prop} (words : List Word) (done : motive [])
    (pair : ∀ word name others, word.declares → motive others → motive (word :: name :: others))
    (pass : ∀ word others, word.Silent others → motive others → motive (word :: others)) :
    motive words := by
  induction words using declaredNames.induct with
  | case1 word name others declares ih => exact pair word name others declares ih
  | case2 word name others silent ih => exact pass word _ (.inr silent) ih
  | case3 words short =>
    match words with
    | [] => exact done
    | [word] => exact pass word [] (.inl rfl) done
    | word :: name :: others => exact absurd rfl (short word name others)

theorem declaredNames_pair (declares : word.declares) (name : Word) (others : List Word) :
    declaredNames (word :: name :: others) = name.text :: declaredNames others := by
  rw [declaredNames, if_pos declares]

theorem declaredNames_pass (silent : word.Silent others) :
    declaredNames (word :: others) = declaredNames others := by
  cases others with
  | nil => rfl
  | cons name others => rw [declaredNames, if_neg (silent.resolve_left (by simp))]

section
variable {replacement : Text → Text}

theorem renameDeclared_pair (declares : word.declares) (name : Word) (others : List Word) :
    renameDeclared replacement (word :: name :: others) = ⟨word.text, [' ']⟩ ::
      ⟨replacement name.text, name.behind⟩ :: renameDeclared replacement others := by
  rw [renameDeclared, if_pos declares]

theorem renameDeclared_pass (silent : word.Silent others) :
    renameDeclared replacement (word :: others) = word :: renameDeclared replacement others := by
  cases others with
  | nil => rfl
  | cons name others => rw [renameDeclared, if_neg (silent.resolve_left (by simp))]

theorem renameDeclared_eq_nil : renameDeclared replacement words = [] ↔ words = [] := by
  cases words using declaring_induction with
  | done => rfl
  | pair word name others declares => simp [renameDeclared_pair declares]
  | pass word others silent => simp [renameDeclared_pass silent]

theorem declaredNames_renameDeclared (replacement : Text → Text) (words : List Word) :
    declaredNames (renameDeclared replacement words) = (declaredNames words).map replacement := by
  induction words using declaring_induction with
  | done => rfl
  | pair word name others declares ih =>
    have still : Word.declares ⟨word.text, [' ']⟩ :=
      Word.declares_iff.mpr ⟨(Word.declares_iff.mp declares).1, by simp [isBlank]⟩
    rw [renameDeclared_pair declares, declaredNames_pair still, ih, declaredNames_pair declares,
      List.map_cons]
  | pass word others silent ih =>
    have still : word.Silent (renameDeclared replacement others) :=
      silent.imp_left renameDeclared_eq_nil.mpr
    rw [renameDeclared_pass silent, declaredNames_pass still, ih, declaredNames_pass silent]

theorem parted_renameDeclared (parted : Worded.Parted words)
    (keeps : ∀ name : Text, name ≠ [] ∧ (∀ c ∈ name, isWord c) →
      replacement name ≠ [] ∧ ∀ c ∈ replacement name, isWord c) :
    Worded.Parted (renameDeclared replacement words) := by
  induction words using declaring_induction with
  | done => exact parted
  | pair word name others declares ih =>
    obtain ⟨letters, -, -, named, apart, last, parted⟩ := parted
    rw [renameDeclared_pair declares]
    exact ⟨letters, by simp [isWord], by simp, keeps _ named, apart,
      fun none => renameDeclared_eq_nil.mpr (last none), ih parted⟩
  | pass word others silent ih =>
    obtain ⟨letters, apart, last, parted⟩ := parted
    rw [renameDeclared_pass silent]
    exact ⟨letters, apart, fun none => renameDeclared_eq_nil.mpr (last none), ih parted⟩

end

namespace Declaration

open Worded (Parted)

variable {s rest gap : Text} {c : Char} {table : NameTable} {declaration : Declaration}

theorem IsWellFormed.wordEnds_gap (wellFormed : declaration.IsWellFormed) (s : Text) :
    (declaration.gap ++ s).wordEnds := by
  obtain ⟨b, gap, same⟩ := List.exists_cons_of_ne_nil wellFormed.some_gap
  rw [same, List.cons_append, Text.wordEnds_cons]
  exact not_isWord_of_isBlank (wellFormed.blank b (by simp [same]))

theorem of_declaration (wellFormed : declaration.IsWellFormed) (ends : rest.wordEnds) :
    Worded.of (declaration.text ++ rest) =
      ⟨[], ⟨declaration.keyword.text, declaration.gap⟩ ::
        ⟨declaration.name, (Worded.of rest).lead⟩ :: (Worded.of rest).words⟩ := by
  have some_keyword : declaration.keyword.text ≠ [] := by
    obtain ⟨first, second, others, letters⟩ := declaration.keyword.text_eq
    simp [letters]
  have apart : ∀ b ∈ declaration.gap, isWord b = false := fun b member =>
    not_isWord_of_isBlank (wellFormed.blank b member)
  rw [text, List.append_assoc, List.append_assoc,
    Worded.of_word some_keyword (fun _ => declaration.keyword.isWord_of_mem)
      (wellFormed.wordEnds_gap _),
    Worded.of_gap apart, Worded.of_word wellFormed.some_name wellFormed.word ends, List.append_nil]

/-- A declaration at the front of a text stands in its first two words. -/
theorem exists_declares (parted : Parted words)
    (read : read? (words.flatMap Word.source) = some (declaration, rest)) :
    ∃ word name others, words = word :: name :: others ∧ word.declares := by
  obtain ⟨same, wellFormed, ends⟩ := read?_eq_some_iff.mp read
  have found := Worded.of_flatMap_source parted
  rw [same, of_declaration wellFormed ends] at found
  obtain ⟨-, rfl⟩ := Worded.mk.inj found
  exact ⟨_, _, _, rfl, Word.declares_iff.mpr ⟨⟨declaration.keyword, rfl⟩, wellFormed.blank⟩⟩

theorem read?_of_declares {name : Word} (parted : Parted (word :: name :: others))
    (declares : word.declares) : ∃ keyword : Keyword, keyword.text = word.text ∧
      read? ((word :: name :: others).flatMap Word.source) =
        some (⟨keyword, word.behind, name.text⟩, name.behind ++ others.flatMap Word.source) := by
  obtain ⟨⟨keyword, same⟩, blank⟩ := Word.declares_iff.mp declares
  have some_gap := parted.behind_ne_nil
  obtain ⟨-, -, -, ⟨some_name, letters⟩, apart, last, -⟩ := parted
  refine ⟨keyword, same, read?_eq_some_iff.mpr ⟨?_, ⟨some_gap, blank, some_name, letters⟩, ?_⟩⟩
  · simp [text, same, Word.source]
  · exact Worded.wordEnds_gap apart fun none => by simp [last none]

/-! ## The scan at words -/

/-- The text from a place on at which a declaration may begin. -/
def renamedAt (table : NameTable) (s : Text) : Text :=
  match read? s with
  | some (declaration, rest) => (declaration.rename table).1 ++
      renamedFrom (declaration.rename table).2 rest
  | none => renamedFrom table s

theorem renamedAt_some (read : read? s = some (declaration, rest)) :
    renamedAt table s = (declaration.rename table).1 ++
      renamedFrom (declaration.rename table).2 rest := by
  rw [renamedAt, read]

theorem renamedAt_none (unread : read? s = none) : renamedAt table s = renamedFrom table s := by
  rw [renamedAt, unread]

theorem renamedFrom_word {name : Text} (word : ∀ c ∈ name, isWord c) (s : Text) :
    renamedFrom table (name ++ s) = name ++ renamedFrom table s := by
  induction name with
  | nil => rfl
  | cons c name ih =>
    have kept : afterBoundary.read (c :: (name ++ s)) = none :=
      afterBoundary_read_eq_none.mpr fun boundary => by simp [word c (by simp)] at boundary
    rw [List.cons_append, renamedFrom_none table kept, ih fun d member => word d (by simp [member])]
    rfl

theorem renamedFrom_boundary (boundary : isWord c = false) (s : Text) :
    renamedFrom table (c :: s) = c :: renamedAt table s := by
  cases read : read? s with
  | none =>
    rw [renamedAt_none read,
      renamedFrom_none table (afterBoundary_read_eq_none.mpr fun _ => read)]
  | some found =>
    obtain ⟨declaration, rest⟩ := found
    rw [renamedAt_some read,
      renamedFrom_some table (afterBoundary_read_eq_some.mpr ⟨s, rfl, boundary, read⟩)]

theorem read?_boundary (boundary : isWord c = false) (s : Text) : read? (c :: s) = none :=
  Option.not_isSome_iff_eq_none.mp fun found => by simp [isWord_of_read? found] at boundary

theorem renamedAt_gap (apart : ∀ c ∈ gap, isWord c = false) (s : Text) :
    renamedAt table (gap ++ s) = gap ++ renamedAt table s := by
  induction gap with
  | nil => rfl
  | cons c gap ih =>
    have boundary := apart c (by simp)
    rw [List.cons_append, renamedAt_none (read?_boundary boundary _),
      renamedFrom_boundary boundary, ih fun d member => apart d (by simp [member])]
    rfl

theorem renamedFrom_gap (apart : ∀ c ∈ gap, isWord c = false) (last : gap = [] → s = []) :
    renamedFrom table (gap ++ s) = gap ++ renamedAt table s := by
  cases gap with
  | nil =>
    rw [last rfl]
    rfl
  | cons c gap =>
    rw [List.cons_append, renamedFrom_boundary (apart c (by simp)),
      renamedAt_gap fun d member => apart d (by simp [member])]
    rfl

theorem rename_eq_newName (declaration : Declaration) (word : ∀ c ∈ declaration.name, isWord c)
    (holds : table.names = (longNames names).eraseDups) (later : List Text) :
    ∃ next, next.names = (longNames (names ++ [declaration.name])).eraseDups ∧
      declaration.rename table = (declaration.keyword.text ++
        ' ' :: newName (names ++ declaration.name :: later) declaration.name, next) := by
  have size := bytes_eq_length word
  by_cases long : 2 ≤ declaration.name.length
  · refine ⟨⟨(longNames (names ++ [declaration.name])).eraseDups⟩, rfl, ?_⟩
    have assigned := NameTable.assign_eq holds (by rw [size]; exact long) (longNames later)
    simp only [rename, newName, if_pos long, NameTable.letter_eq_getD, longNames_append,
      longNames_cons long, longNames_nil] at assigned ⊢
    rw [assigned]
  · have short : Text.bytes declaration.name ≤ 1 := by omega
    refine ⟨table, ?_, ?_⟩
    · rw [holds, longNames_append, longNames, longNames,
        List.filter_cons_of_neg (by simpa using long), List.filter_nil, List.append_nil]
    · rw [rename_of_short short, newName, if_neg long]

theorem renamedAt_pass (parted : Parted (word :: others)) (silent : word.Silent others) :
    renamedAt table ((word :: others).flatMap Word.source) =
      word.source ++ renamedAt table (others.flatMap Word.source) := by
  have unread : read? ((word :: others).flatMap Word.source) = none := by
    by_contra found
    obtain ⟨⟨declaration, rest⟩, read⟩ := Option.ne_none_iff_exists'.mp found
    obtain ⟨first, name, behind, same, declares⟩ := exists_declares parted read
    obtain ⟨rfl, rfl⟩ := List.cons.inj same
    exact silent.resolve_left (by simp) declares
  obtain ⟨⟨-, letters⟩, apart, last, -⟩ := parted
  rw [renamedAt_none unread, List.flatMap_cons, Word.source, List.append_assoc,
    renamedFrom_word letters, renamedFrom_gap apart fun none => by simp [last none],
    List.append_assoc]

theorem renamedAt_words (parted : Parted words)
    (holds : table.names = (longNames names).eraseDups) :
    renamedAt table (words.flatMap Word.source) =
      (renameDeclared (newName (names ++ declaredNames words)) words).flatMap Word.source := by
  induction words using declaring_induction generalizing table names with
  | done => simp [renamedAt_none (show read? [] = none from rfl), renameDeclared]
  | pair word name others declares ih =>
    obtain ⟨keyword, same, read⟩ := read?_of_declares parted declares
    obtain ⟨-, -, -, ⟨-, letters⟩, apart, last, parted⟩ := parted
    obtain ⟨next, holdsNext, renamed⟩ := rename_eq_newName ⟨keyword, word.behind, name.text⟩
      letters holds (declaredNames others)
    rw [renamedAt_some read, renamed, renamedFrom_gap apart fun none => by simp [last none],
      ih parted holdsNext, declaredNames_pair declares, renameDeclared_pair declares]
    simp [Word.source, same]
  | pass word others silent ih =>
    rw [renamedAt_pass parted silent, ih parted.2.2.2 holds, declaredNames_pass silent,
      renameDeclared_pass silent, List.flatMap_cons]

end Declaration

def declaredIn (code : Text) : List Text := declaredNames (Worded.of code).words

theorem renameVariables_eq_text (code : Text) : renameVariables code =
    Worded.text ⟨(Worded.of code).lead,
      renameDeclared (newName (declaredIn code)) (Worded.of code).words⟩ := by
  have maximal := Worded.isMaximal_of code
  have holds : NameTable.empty.names = (longNames []).eraseDups := rfl
  have whole : renameVariables code = Declaration.renamedAt .empty
      ((Worded.of code).lead ++ (Worded.of code).words.flatMap Word.source) := by
    rw [← Worded.text, Worded.text_of]
    rfl
  rw [whole, Declaration.renamedAt_gap maximal.lead,
    Declaration.renamedAt_words maximal.words holds]
  rfl

theorem isMaximal_renamed (code : Text) : Worded.IsMaximal ⟨(Worded.of code).lead,
    renameDeclared (newName (declaredIn code)) (Worded.of code).words⟩ :=
  ⟨(Worded.isMaximal_of code).lead,
    parted_renameDeclared (Worded.isMaximal_of code).words (newName_word _)⟩

/-- Renaming replaces the declared names of a text and writes one space in front of each of
them; all else stays as it is. -/
theorem renameVariables_declared (code : Text) :
    let worded := Worded.of code
    worded.text = code ∧ worded.IsMaximal ∧
      renameVariables code =
        Worded.text ⟨worded.lead, renameDeclared (newName (declaredNames worded.words))
          worded.words⟩ :=
  ⟨Worded.text_of code, Worded.isMaximal_of code, renameVariables_eq_text code⟩

example : declaredIn "var let foo;const\n x, y".toList = ["let".toList, "x".toList] := by
  decide

end Snippet
