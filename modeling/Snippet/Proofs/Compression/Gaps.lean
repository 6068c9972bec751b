import Snippet.Proofs.Compression.Spacing
import Snippet.Proofs.Renaming.Declared

/-! Compression, told by the words of a text.

Word characters are neither blank nor tight, so compression leaves the words as they are
and works on each gap alone. A gap of blanks stays one, and another gap never becomes one:
what the words declare does not change, and renaming may come before or after.
-/

set_option autoImplicit false

namespace Snippet.Compression

variable {front : Front} {s r gap name : Text} {c d : Char}

/-! ## Words in the scan for blanks -/

def Front.behind : Front → Text → Front
  | front, [] => front
  | front, c :: r =>
    if isBlank c then front.behindBlank.behind r
    else if isTight c then Front.tight.behind r
    else Front.loose.behind r

theorem tightenFrom_append (front : Front) (s r : Text) :
    tightenFrom front (s ++ r) = tightenFrom front s ++ tightenFrom (front.behind s) r := by
  induction s generalizing front with
  | nil => rfl
  | cons c s ih =>
    simp only [List.cons_append, tightenFrom, Front.behind, ih]
    split
    · rfl
    · split <;> simp

theorem tightenFrom_word (some_name : name ≠ []) (word : ∀ c ∈ name, isWord c) (r : Text) :
    tightenFrom front (name ++ r) = front.space ++ (name ++ tightenFrom .loose r) := by
  induction name generalizing front with
  | nil => exact absurd rfl some_name
  | cons c name ih =>
    have letter := word c (by simp)
    rw [List.cons_append, tightenFrom_loose (isBlank_of_isWord letter) (isTight_of_isWord letter)]
    cases name with
    | nil => rfl
    | cons d name =>
      rw [ih (by simp) fun e member => word e (by simp [member])]
      rfl

theorem behind_of_blank (blank : ∀ c ∈ gap, isBlank c) (some_gap : gap ≠ []) :
    front.behind gap = front.behindBlank := by
  induction gap generalizing front with
  | nil => exact absurd rfl some_gap
  | cons c gap ih =>
    rw [Front.behind, if_pos (blank c (by simp))]
    cases gap with
    | nil => rfl
    | cons d gap =>
      rw [ih (fun e member => blank e (by simp [member])) (by simp), behindBlank_behindBlank]

theorem mem_space (member : c ∈ front.space) : c = ' ' := by
  cases front with
  | tight | loose => simp [Front.space] at member
  | apart => simpa [Front.space] using member

theorem mem_tightenFrom (member : c ∈ tightenFrom front s) : c ∈ s ∨ c = ' ' := by
  induction s generalizing front with
  | nil => simp [tightenFrom] at member
  | cons d s ih =>
    rw [tightenFrom] at member
    split at member
    · exact (ih member).imp_left fun inside => List.mem_cons_of_mem d inside
    · split at member
      · rcases List.mem_cons.mp member with rfl | member
        · simp
        · exact (ih member).imp_left fun inside => List.mem_cons_of_mem d inside
      · rcases List.mem_append.mp member with spaced | member
        · exact .inr (mem_space spaced)
        · rcases List.mem_cons.mp member with rfl | member
          · simp
          · exact (ih member).imp_left fun inside => List.mem_cons_of_mem d inside

theorem mem_tightenFrom_of_visible (visible : isBlank c = false) (member : c ∈ s) :
    c ∈ tightenFrom front s := by
  induction s generalizing front with
  | nil => simp at member
  | cons d s ih =>
    rw [tightenFrom]
    rcases List.mem_cons.mp member with rfl | member
    · rw [if_neg (by simp [visible])]
      split <;> simp
    · split
      · exact ih member
      · split
        · exact List.mem_cons_of_mem d (ih member)
        · exact List.mem_append_right _ (List.mem_cons_of_mem d (ih member))

/-! ## Words in the scan for semicolons -/

def terminated (s : Text) : Text := terminators.replace (fun _ => ['}']) s

theorem terminated_nil : terminated [] = [] := terminators.replace_nil _

theorem terminators_read_before_letter (letter : isWord c)
    (kept : terminators.read (d :: s) = none) : terminators.read (d :: (s ++ c :: r)) = none := by
  by_contra found
  obtain ⟨⟨a, rest⟩, found⟩ := Option.ne_none_iff_exists'.mp found
  obtain ⟨run, same, skipped⟩ := terminators_read_eq_some_iff.mp found
  have read (tail : Text) (whole : d :: s = ';' :: (run ++ ['}']) ++ tail) : False := by
    rw [terminators_read_eq_some_iff (a := a) |>.mpr ⟨run, whole, skipped⟩] at kept
    cases kept
  rw [← List.cons_append] at same
  rcases List.append_eq_append_iff.mp same with ⟨back, inRun, behind⟩ | ⟨tail, whole, -⟩
  · cases back with
    | nil => exact read [] (by simpa using inRun.symm)
    | cons e back =>
      -- The letter would be a character of the run.
      obtain ⟨rfl, -⟩ := List.cons.inj behind
      have member : c ∈ ';' :: (run ++ ['}']) := by simp [inRun]
      simp only [List.mem_cons, List.mem_append, List.not_mem_nil, or_false] at member
      rcases member with rfl | member | rfl
      · exact absurd letter (by decide)
      · rcases skipped c member with rfl | blank
        · exact absurd letter (by decide)
        · simp [not_isWord_of_isBlank blank] at letter
      · exact absurd letter (by decide)
  · exact read tail whole

theorem terminated_letter (letter : isWord c) (s r : Text) :
    terminated (s ++ c :: r) = terminated s ++ c :: terminated r := by
  have other : c ≠ ';' := by
    rintro rfl
    exact absurd letter (by decide)
  unfold terminated
  induction s using terminators.scan_induction with
  | done => rw [List.nil_append, terminators.replace_none _ (terminators_read_of_ne other r)]; simp
  | keep d s kept ih =>
    rw [List.cons_append, terminators.replace_none _ (terminators_read_before_letter letter kept),
      ih, terminators.replace_none _ kept, List.cons_append]
  | take s a rest taken ih =>
    rw [terminators.replace_some _ (terminators_read_append taken (c :: r)), ih,
      terminators.replace_some _ taken, List.append_assoc]

theorem terminated_word (some_name : name ≠ []) (word : ∀ c ∈ name, isWord c) (s r : Text) :
    terminated (s ++ (name ++ r)) = terminated s ++ (name ++ terminated r) := by
  induction name generalizing s with
  | nil => exact absurd rfl some_name
  | cons c name ih =>
    rw [List.cons_append, terminated_letter (word c (by simp))]
    cases name with
    | nil => rfl
    | cons d name =>
      have inner := ih (by simp) (fun e member => word e (by simp [member])) []
      rw [List.nil_append, terminated_nil, List.nil_append] at inner
      rw [inner]
      rfl

theorem mem_terminated (member : c ∈ terminated s) : c ∈ s ∨ c = '}' := by
  have all : ∀ d ∈ terminated s, d ∈ s ∨ d = '}' := by
    refine Reader.forall_mem_replace terminators_faithful _ (fun d r tail _ => ?_)
      fun t rest a _ _ d inside => ?_
    · exact .inl (tail.subset (by simp))
    · exact .inr (List.mem_singleton.mp inside)
  exact all c member

theorem exists_visible_terminated (member : c ∈ s) (visible : isBlank c = false) :
    ∃ e ∈ terminated s, isBlank e = false := by
  unfold terminated
  induction s using terminators.scan_induction with
  | done => simp at member
  | keep d r kept ih =>
    rw [terminators.replace_none _ kept]
    rcases List.mem_cons.mp member with rfl | member
    · exact ⟨c, by simp, visible⟩
    · obtain ⟨e, inside, visible⟩ := ih member
      exact ⟨e, List.mem_cons_of_mem d inside, visible⟩
  | take s a rest taken ih =>
    rw [terminators.replace_some _ taken]
    exact ⟨'}', by simp, by decide⟩

/-! ## The gaps of a text -/

/-- What compression leaves of a gap. No space is due behind the last word. -/
def compressGap (front : Front) (gap : Text) (last : Bool) : Text :=
  terminated (tightenFrom front gap ++ if last then [] else (front.behind gap).space)

def compressWords : List Word → List Word
  | [] => []
  | word :: others =>
    ⟨word.text, compressGap .loose word.behind others.isEmpty⟩ :: compressWords others

open Worded (Parted)

variable {last : Bool} {word : Word} {words others : List Word} {worded : Worded}

/-- Behind a word both scans go on as behind any loose character, so each gap is compressed
without regard to the others. -/
theorem terminated_tightenFrom_words (parted : Parted words) (front : Front) (gap : Text) :
    terminated (tightenFrom front (gap ++ words.flatMap Word.source)) =
      compressGap front gap words.isEmpty ++ (compressWords words).flatMap Word.source := by
  -- The gap in front of the words is that behind the last word passed.
  induction words generalizing front gap with
  | nil => simp [compressGap, compressWords]
  | cons word others ih =>
    obtain ⟨⟨some_text, letters⟩, -, -, parted⟩ := parted
    rw [tightenFrom_append, List.flatMap_cons, Word.source, List.append_assoc,
      tightenFrom_word some_text letters, ← List.append_assoc, terminated_word some_text letters,
      ih parted]
    simp [compressGap, compressWords, Word.source]

def compressGaps (worded : Worded) : Worded :=
  ⟨compressGap .tight worded.lead worded.words.isEmpty, compressWords worded.words⟩

theorem compress_text (parted : Parted worded.words) :
    compress worded.text = (compressGaps worded).text := by
  rw [compress_eq]
  exact terminated_tightenFrom_words parted .tight worded.lead

theorem mem_compressGap (member : c ∈ compressGap front gap last) :
    c ∈ gap ∨ c = ' ' ∨ c = '}' := by
  rcases mem_terminated member with inside | brace
  · rcases List.mem_append.mp inside with kept | due
    · exact (mem_tightenFrom kept).imp_right .inl
    · split at due
      · simp at due
      · exact .inr (.inl (mem_space due))
  · exact .inr (.inr brace)

theorem compressGap_boundary (apart : ∀ c ∈ gap, isWord c = false) :
    ∀ c ∈ compressGap front gap last, isWord c = false := by
  intro c member
  rcases mem_compressGap member with inGap | rfl | rfl
  · exact apart c inGap
  · decide
  · decide

theorem compressGap_of_blank (blank : ∀ c ∈ gap, isBlank c) (some_gap : gap ≠ []) :
    compressGap .loose gap false = [' '] := by
  have tightened : tightenFrom .loose gap = [] := tightenFrom_trailing blank []
  have space : terminated [' '] = [' '] := by
    rw [terminated, terminators.replace_none _ (terminators_read_of_ne (by decide) []),
      terminators.replace_nil]
  rw [compressGap, tightened, behind_of_blank blank some_gap]
  exact space

theorem exists_visible_compressGap (member : c ∈ gap) (visible : isBlank c = false) :
    ∃ d ∈ compressGap front gap last, isBlank d = false :=
  exists_visible_terminated (List.mem_append_left _ (mem_tightenFrom_of_visible visible member))
    visible

theorem blank_compressGap_iff (some_gap : gap ≠ []) :
    (∀ c ∈ compressGap .loose gap false, isBlank c) ↔ ∀ c ∈ gap, isBlank c := by
  constructor
  · intro blank c member
    by_contra visible
    have shown : ∃ d ∈ compressGap .loose gap false, isBlank d = false :=
      exists_visible_compressGap member (by simpa using visible)
    obtain ⟨d, inside, visible⟩ := shown
    simp [blank d inside] at visible
  · intro blank
    rw [compressGap_of_blank blank some_gap]
    simp [isBlank]

theorem compressGap_ne_nil (some_gap : gap ≠ []) : compressGap .loose gap false ≠ [] := by
  intro none
  have blank := (blank_compressGap_iff some_gap).mp (by simp [none])
  rw [compressGap_of_blank blank some_gap] at none
  cases none

/-! ## What the words declare -/

theorem compressWords_pair (word name : Word) (others : List Word) :
    compressWords (word :: name :: others) =
      ⟨word.text, compressGap .loose word.behind false⟩ ::
        ⟨name.text, compressGap .loose name.behind others.isEmpty⟩ :: compressWords others := rfl

theorem parted_compressWords (parted : Parted words) : Parted (compressWords words) := by
  induction words with
  | nil => trivial
  | cons word others ih =>
    refine ⟨parted.1, compressGap_boundary parted.2.1, fun none => ?_, ih parted.2.2.2⟩
    cases others with
    | nil => rfl
    | cons name others => exact absurd none (compressGap_ne_nil parted.behind_ne_nil)

theorem isMaximal_compressGaps (maximal : worded.IsMaximal) : (compressGaps worded).IsMaximal :=
  ⟨compressGap_boundary maximal.lead, parted_compressWords maximal.words⟩

theorem declares_compressed (some_gap : word.behind ≠ []) :
    Word.declares ⟨word.text, compressGap .loose word.behind false⟩ ↔ word.declares := by
  rw [Word.declares_iff, Word.declares_iff, blank_compressGap_iff some_gap]

theorem silent_compressed (parted : Parted (word :: others)) (silent : word.Silent others) :
    Word.Silent ⟨word.text, compressGap .loose word.behind others.isEmpty⟩
      (compressWords others) := by
  cases others with
  | nil => exact .inl rfl
  | cons name others =>
    refine .inr fun declares => silent.resolve_left (by simp) ?_
    exact (declares_compressed parted.behind_ne_nil).mp declares

theorem declaredNames_compressWords (parted : Parted words) :
    declaredNames (compressWords words) = declaredNames words := by
  induction words using declaring_induction with
  | done => rfl
  | pair word name others declares ih =>
    have still := (declares_compressed parted.behind_ne_nil).mpr declares
    obtain ⟨-, -, -, -, -, -, parted⟩ := parted
    rw [compressWords_pair, declaredNames_pair still, ih parted, declaredNames_pair declares]
  | pass word others silent ih =>
    rw [compressWords, declaredNames_pass (silent_compressed parted silent), ih parted.2.2.2,
      declaredNames_pass silent]

theorem isEmpty_renameDeclared (replacement : Text → Text) (words : List Word) :
    (renameDeclared replacement words).isEmpty = words.isEmpty := by
  rw [Bool.eq_iff_iff, List.isEmpty_iff, List.isEmpty_iff, renameDeclared_eq_nil]

theorem compressWords_renameDeclared (replacement : Text → Text) (parted : Parted words) :
    compressWords (renameDeclared replacement words) =
      renameDeclared replacement (compressWords words) := by
  induction words using declaring_induction with
  | done => rfl
  | pair word name others declares ih =>
    have still := (declares_compressed parted.behind_ne_nil).mpr declares
    obtain ⟨-, -, -, -, -, -, parted⟩ := parted
    have space : compressGap .loose [' '] false = [' '] :=
      compressGap_of_blank (by simp [isBlank]) (by simp)
    rw [renameDeclared_pair declares, compressWords_pair, compressWords_pair,
      renameDeclared_pair still, space, isEmpty_renameDeclared, ih parted]
  | pass word others silent ih =>
    rw [renameDeclared_pass silent, compressWords, compressWords,
      renameDeclared_pass (silent_compressed parted silent), isEmpty_renameDeclared,
      ih parted.2.2.2]

theorem compressGaps_renamed (replacement : Text → Text) (parted : Parted worded.words) :
    compressGaps ⟨worded.lead, renameDeclared replacement worded.words⟩ =
      ⟨(compressGaps worded).lead, renameDeclared replacement (compressGaps worded).words⟩ := by
  rw [compressGaps, compressGaps, compressWords_renameDeclared replacement parted,
    isEmpty_renameDeclared]

/-- Compression and renaming may be done in either order. -/
theorem compress_renameVariables (code : Text) :
    compress (renameVariables code) = renameVariables (compress code) := by
  have maximal := Worded.isMaximal_of code
  have compressed : compress code = (compressGaps (Worded.of code)).text := by
    rw [← compress_text maximal.words, Worded.text_of]
  have words : Worded.of (compress code) = compressGaps (Worded.of code) := by
    rw [compressed, Worded.of_text (isMaximal_compressGaps maximal)]
  have names : declaredIn (compress code) = declaredIn code := by
    rw [declaredIn, words]
    exact declaredNames_compressWords maximal.words
  rw [renameVariables_eq_text, compress_text (isMaximal_renamed code).words,
    compressGaps_renamed _ maximal.words, renameVariables_eq_text, words, names]

end Snippet.Compression
