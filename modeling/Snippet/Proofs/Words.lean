import Snippet.Proofs.Blanks

/-! A text told by its words.

The words of a text are the longest runs of word characters in it. Every text is made of
its words and of what stands before, between and behind them, in one way only, so that a
change of the words or of the gaps can be read off the new text.
-/

set_option autoImplicit false

namespace Snippet

/-- A word, and what stands between it and the next word or the end. -/
structure Word where
  text : Text
  behind : Text
  deriving DecidableEq, Repr

structure Worded where
  lead : Text
  words : List Word
  deriving DecidableEq, Repr

def Word.source (word : Word) : Text := word.text ++ word.behind

namespace Worded

def text (worded : Worded) : Text := worded.lead ++ worded.words.flatMap Word.source

/-- One character more in front. A letter goes on with the first word if nothing stands
before that, and else is a word. -/
def cons (c : Char) (worded : Worded) : Worded :=
  if isWord c then
    match worded with
    | ⟨[], first :: others⟩ => ⟨[], ⟨c :: first.text, first.behind⟩ :: others⟩
    | ⟨lead, words⟩ => ⟨[], ⟨[c], lead⟩ :: words⟩
  else ⟨c :: worded.lead, worded.words⟩

def of (s : Text) : Worded := s.foldr cons ⟨[], []⟩

def Parted : List Word → Prop
  | [] => True
  | word :: others => (word.text ≠ [] ∧ ∀ c ∈ word.text, isWord c) ∧
      (∀ c ∈ word.behind, isWord c = false) ∧ (word.behind = [] → others = []) ∧ Parted others

/-- No word can be made longer, and there are no others. -/
structure IsMaximal (worded : Worded) : Prop where
  lead : ∀ c ∈ worded.lead, isWord c = false
  words : Parted worded.words

variable {s gap : Text} {c : Char} {worded : Worded}

theorem Parted.behind_ne_nil {word name : Word} {others : List Word}
    (parted : Parted (word :: name :: others)) : word.behind ≠ [] := fun none =>
  List.cons_ne_nil name others (parted.2.2.1 none)

/-! ## Every text has words -/

theorem cons_boundary (boundary : isWord c = false) (worded : Worded) :
    cons c worded = ⟨c :: worded.lead, worded.words⟩ := by
  unfold cons
  rw [if_neg (by simp [boundary])]

theorem text_cons (c : Char) (worded : Worded) : (cons c worded).text = c :: worded.text := by
  by_cases letter : isWord c
  · obtain ⟨_ | ⟨d, lead⟩, _ | ⟨first, others⟩⟩ := worded <;>
      simp [cons, letter, text, Word.source]
  · rw [cons_boundary (by simpa using letter)]
    rfl

theorem of_cons (c : Char) (s : Text) : of (c :: s) = cons c (of s) := rfl

theorem text_of (s : Text) : (of s).text = s := by
  induction s with
  | nil => rfl
  | cons c s ih => rw [of_cons, text_cons, ih]

theorem isMaximal_cons (c : Char) (maximal : worded.IsMaximal) : (cons c worded).IsMaximal := by
  by_cases letter : isWord c
  · unfold cons
    rw [if_pos letter]
    obtain ⟨apart, parted⟩ := maximal
    split
    · obtain ⟨⟨-, word⟩, rest⟩ := parted
      exact ⟨by simp, ⟨by simp, List.forall_mem_cons.mpr ⟨letter, word⟩⟩, rest⟩
    · next lead words other =>
      refine ⟨by simp, ⟨by simp, by simpa using letter⟩, apart, ?_, parted⟩
      rintro rfl
      cases words with
      | nil => rfl
      | cons first others => exact (other first others rfl rfl).elim
  · have boundary : isWord c = false := by simpa using letter
    rw [cons_boundary boundary]
    exact ⟨List.forall_mem_cons.mpr ⟨boundary, maximal.lead⟩, maximal.words⟩

theorem isMaximal_of (s : Text) : (of s).IsMaximal := by
  induction s with
  | nil => exact ⟨by simp [of], trivial⟩
  | cons c s ih => exact isMaximal_cons c ih

/-! ## No text has others -/

theorem of_gap (apart : ∀ c ∈ gap, isWord c = false) (s : Text) :
    of (gap ++ s) = ⟨gap ++ (of s).lead, (of s).words⟩ := by
  induction gap with
  | nil => rfl
  | cons c gap ih =>
    rw [List.cons_append, of_cons, cons_boundary (apart c (by simp)),
      ih fun d member => apart d (by simp [member])]
    rfl

theorem of_word {name : Text} (some_name : name ≠ []) (word : ∀ c ∈ name, isWord c)
    (ends : s.wordEnds) : of (name ++ s) = ⟨[], ⟨name, (of s).lead⟩ :: (of s).words⟩ := by
  induction name with
  | nil => exact absurd rfl some_name
  | cons c name ih =>
    have letter := word c (by simp)
    rw [List.cons_append, of_cons]
    cases name with
    | nil =>
      cases s with
      | nil => simp [of, cons, letter]
      | cons d s =>
        rw [List.nil_append, of_cons, cons_boundary (Text.wordEnds_cons.mp ends)]
        simp [cons, letter]
    | cons d name =>
      rw [ih (by simp) fun e member => word e (by simp [member])]
      simp [cons, letter]

theorem wordEnds_gap (apart : ∀ c ∈ gap, isWord c = false) (last : gap = [] → s = []) :
    (gap ++ s).wordEnds := by
  cases gap with
  | nil =>
    rw [last rfl]
    rfl
  | cons c gap => exact Text.wordEnds_cons.mpr (apart c (by simp))

theorem of_flatMap_source {words : List Word} (parted : Parted words) :
    of (words.flatMap Word.source) = ⟨[], words⟩ := by
  induction words with
  | nil => rfl
  | cons word others ih =>
    obtain ⟨⟨some_text, letters⟩, apart, last, parted⟩ := parted
    have ends : (word.behind ++ others.flatMap Word.source).wordEnds :=
      wordEnds_gap apart fun none => by simp [last none]
    rw [List.flatMap_cons, Word.source, List.append_assoc, of_word some_text letters ends,
      of_gap apart, ih parted]
    simp

theorem of_text (maximal : worded.IsMaximal) : of worded.text = worded := by
  rw [text, of_gap maximal.lead, of_flatMap_source maximal.words, List.append_nil]

end Worded

end Snippet
