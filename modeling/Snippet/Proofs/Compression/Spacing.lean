import Snippet.Proofs.Compression

/-! Compression as one scan for blanks and one for semicolons.

Whether a space is kept depends on the last visible character and on whether blanks
stand behind it. A scan that remembers so much does what the replacement of runs, the
tightening and the trimming do together; and two texts that it cannot tell apart are
compressed to the same text.
-/

set_option autoImplicit false

namespace Snippet

namespace Text

variable {s : Text}

theorem endsVisible_dropTrailingBlanks (s : Text) : EndsVisible s.dropTrailingBlanks := by
  rw [← beginsVisible_reverse, dropTrailingBlanks, List.reverse_reverse]
  exact beginsVisible_dropBlanks _

theorem endsVisible_cons {c : Char} (ends : EndsVisible s) (some_text : s ≠ []) :
    EndsVisible (c :: s) := by
  intro d lastly
  rw [List.getLast?_cons_of_ne_nil some_text] at lastly
  exact ends d lastly

theorem dropTrailingBlanks_of_blank (blank : ∀ c ∈ s, isBlank c) : dropTrailingBlanks s = [] := by
  have turned : dropBlanks (s.reverse ++ []) = dropBlanks [] :=
    dropBlanks_append_of_blank (fun c member => blank c (by simpa using member)) []
  rw [List.append_nil] at turned
  rw [dropTrailingBlanks, turned]
  rfl

theorem exists_trailingBlanks (s : Text) :
    ∃ gap, s = s.dropTrailingBlanks ++ gap ∧ ∀ c ∈ gap, isBlank c := by
  refine ⟨(leadingBlanks s.reverse).reverse, ?_, fun c member => ?_⟩
  · rw [dropTrailingBlanks, ← List.reverse_append, leadingBlanks_append_dropBlanks,
      List.reverse_reverse]
  · exact isBlank_of_mem_leadingBlanks (List.mem_reverse.mp member)

theorem exists_around_trim (s : Text) :
    ∃ gap, s = s.leadingBlanks ++ (s.trim ++ gap) ∧ ∀ c ∈ gap, isBlank c := by
  obtain ⟨gap, whole, blank⟩ := exists_trailingBlanks s.dropBlanks
  refine ⟨gap, ?_, blank⟩
  rw [trim, ← whole, leadingBlanks_append_dropBlanks]

theorem dropTrailingBlanks_cons_of_visible {c : Char} (visible : isBlank c = false) (s : Text) :
    dropTrailingBlanks (c :: s) = c :: s.dropTrailingBlanks :=
  dropTrailingBlanks_append (endsVisible_concat visible []) s

theorem dropTrailingBlanks_cons {c : Char} (some_text : s.dropTrailingBlanks ≠ []) :
    dropTrailingBlanks (c :: s) = c :: s.dropTrailingBlanks := by
  obtain ⟨gap, whole, blank⟩ := exists_trailingBlanks s
  have ends : EndsVisible (c :: s.dropTrailingBlanks) :=
    endsVisible_cons (endsVisible_dropTrailingBlanks s) some_text
  have cut := dropTrailingBlanks_append ends gap
  rwa [List.cons_append, ← whole, dropTrailingBlanks_of_blank blank, List.append_nil] at cut

theorem dropTrailingBlanks_cons_of_nil {c : Char} (blank : isBlank c)
    (none : s.dropTrailingBlanks = []) : dropTrailingBlanks (c :: s) = [] := by
  obtain ⟨gap, whole, blanks⟩ := exists_trailingBlanks s
  rw [none, List.nil_append] at whole
  subst whole
  exact dropTrailingBlanks_of_blank (List.forall_mem_cons.mpr ⟨blank, blanks⟩)

end Text

namespace Compression

open Text (BeginsVisible EndsVisible)

/-- What stands in front of a place, as far as a space depends on it: nothing or tight
punctuation, a loose character, or a loose character and blanks. -/
inductive Front where
  | tight
  | loose
  | apart
  deriving DecidableEq, Repr

namespace Front

def behindBlank : Front → Front
  | tight => tight
  | loose | apart => apart

def space : Front → Text
  | tight | loose => []
  | apart => [' ']

end Front

/-- The text with a space where blanks part two loose characters, and no other blanks. -/
def tightenFrom : Front → Text → Text
  | _, [] => []
  | front, c :: r =>
    if isBlank c then tightenFrom front.behindBlank r
    else if isTight c then c :: tightenFrom .tight r
    else front.space ++ c :: tightenFrom .loose r

variable {front : Front} {s r rest blanks : Text} {c : Char}

theorem tightenFrom_blank (blank : isBlank c) (r : Text) :
    tightenFrom front (c :: r) = tightenFrom front.behindBlank r := by
  rw [tightenFrom, if_pos blank]

theorem tightenFrom_tight (tight : isTight c) (r : Text) :
    tightenFrom front (c :: r) = c :: tightenFrom .tight r := by
  rw [tightenFrom, if_neg (by simp [isBlank_of_isTight tight]), if_pos tight]

theorem tightenFrom_loose (visible : isBlank c = false) (loose : isTight c = false) (r : Text) :
    tightenFrom front (c :: r) = front.space ++ c :: tightenFrom .loose r := by
  rw [tightenFrom, if_neg (by simp [visible]), if_neg (by simp [loose])]

theorem behindBlank_behindBlank (front : Front) :
    front.behindBlank.behindBlank = front.behindBlank := by
  cases front <;> rfl

theorem tightenFrom_gap (blank : ∀ c ∈ blanks, isBlank c) (some_blank : blanks ≠ []) (r : Text) :
    tightenFrom front (blanks ++ r) = tightenFrom front.behindBlank r := by
  induction blanks generalizing front with
  | nil => exact absurd rfl some_blank
  | cons c blanks ih =>
    rw [List.cons_append, tightenFrom_blank (blank c (by simp))]
    cases blanks with
    | nil => rfl
    | cons d blanks =>
      rw [ih (fun e member => blank e (by simp [member])) (by simp), behindBlank_behindBlank]

/-- Blanks count for nothing where they change nothing. -/
theorem tightenFrom_absorbed (absorbs : front.behindBlank = front)
    (blank : ∀ c ∈ blanks, isBlank c) (r : Text) :
    tightenFrom front (blanks ++ r) = tightenFrom front r := by
  cases blanks with
  | nil => rfl
  | cons c blanks => rw [tightenFrom_gap blank (by simp), absorbs]

theorem tightenFrom_gap_tight (blank : ∀ c ∈ blanks, isBlank c) (tight : isTight c) (r : Text) :
    tightenFrom front (blanks ++ c :: r) = c :: tightenFrom .tight r := by
  cases blanks with
  | nil => exact tightenFrom_tight tight r
  | cons d blanks => rw [tightenFrom_gap blank (by simp), tightenFrom_tight tight]

theorem tightenFrom_dropBlanks (absorbs : front.behindBlank = front) (s : Text) :
    tightenFrom front s.dropBlanks = tightenFrom front s := by
  have parts : tightenFrom front (s.leadingBlanks ++ s.dropBlanks) =
      tightenFrom front s.dropBlanks :=
    tightenFrom_absorbed absorbs (fun c => Text.isBlank_of_mem_leadingBlanks) s.dropBlanks
  rw [← parts, Text.leadingBlanks_append_dropBlanks]

theorem tightenFrom_trailing (blank : ∀ c ∈ blanks, isBlank c) (s : Text) :
    tightenFrom front (s ++ blanks) = tightenFrom front s := by
  induction s generalizing front with
  | nil =>
    cases blanks with
    | nil => rfl
    | cons c blanks =>
      have passed : tightenFrom front (c :: blanks ++ []) = tightenFrom front.behindBlank [] :=
        tightenFrom_gap blank (by simp) []
      rw [List.append_nil] at passed
      rw [List.nil_append, passed]
      rfl
  | cons c s ih => simp only [List.cons_append, tightenFrom, ih]

theorem tightenFrom_trim (s : Text) : tightenFrom .tight s.trim = tightenFrom .tight s := by
  obtain ⟨blanks, whole, blank⟩ := Text.exists_trailingBlanks s.dropBlanks
  rw [← tightenFrom_dropBlanks rfl s]
  conv_rhs => rw [whole]
  rw [tightenFrom_trailing blank, Text.trim]

theorem tightenFrom_beginsVisible (visible : BeginsVisible s) :
    tightenFrom .loose s = tightenFrom .tight s := by
  cases s with
  | nil => rfl
  | cons c r => simp [tightenFrom, visible c rfl, Front.space]

/-! ## The first two scans -/

def tightened (s : Text) : Text :=
  aroundTight.replace (fun c => [c]) (gap.replace (fun _ => [' ']) s)

theorem spaced_blank (blank : isBlank c) (r : Text) :
    gap.replace (fun _ => [' ']) (c :: r) = ' ' :: gap.replace (fun _ => [' ']) r.dropBlanks :=
  gap.replace_some _ (a := ()) (gap_read_eq_some.mpr ⟨c, r, rfl, blank, rfl⟩)

theorem spaced_visible (visible : isBlank c = false) (r : Text) :
    gap.replace (fun _ => [' ']) (c :: r) = c :: gap.replace (fun _ => [' ']) r :=
  gap.replace_none _ (gap_read_eq_none.mpr visible)

theorem beginsVisible_spaced (visible : BeginsVisible s) :
    BeginsVisible (gap.replace (fun _ => [' ']) s) := fun c first =>
  visible c (head?_spaced visible ▸ first)

theorem dropBlanks_spaced (s : Text) :
    Text.dropBlanks (gap.replace (fun _ => [' ']) s) =
      gap.replace (fun _ => [' ']) s.dropBlanks := by
  cases s with
  | nil => simp [Text.dropBlanks]
  | cons c r =>
    have begins := beginsVisible_spaced (Text.beginsVisible_dropBlanks (c :: r))
    by_cases blank : isBlank c
    · rw [Text.dropBlanks_cons_of_blank blank] at begins ⊢
      rw [spaced_blank blank, Text.dropBlanks_cons_of_blank (by decide),
        Text.dropBlanks_eq_self begins]
    · have visible : BeginsVisible (c :: r) := by simpa [BeginsVisible] using blank
      rw [Text.dropBlanks_eq_self visible] at begins ⊢
      rw [Text.dropBlanks_eq_self begins]

theorem tightened_nil : tightened [] = [] := by
  simp [tightened]

theorem tightened_tight (tight : isTight c) (r : Text) :
    tightened (c :: r) = c :: tightened r.dropBlanks := by
  have visible := isBlank_of_isTight tight
  have read : aroundTight.read (c :: gap.replace (fun _ => [' ']) r) =
      some (c, gap.replace (fun _ => [' ']) r.dropBlanks) := by
    refine aroundTight_read_eq_some.mpr ⟨_, ?_, tight, dropBlanks_spaced r⟩
    exact Text.dropBlanks_eq_self (by simpa [BeginsVisible] using visible)
  rw [tightened, spaced_visible visible, aroundTight.replace_some _ read]
  rfl

theorem aroundTight_read_eq_none (loose : ∀ c ∈ (Text.dropBlanks s).head?, isTight c = false) :
    aroundTight.read s = none := by
  by_contra found
  obtain ⟨⟨c, rest⟩, found⟩ := Option.ne_none_iff_exists'.mp found
  obtain ⟨r, same, tight, -⟩ := aroundTight_read_eq_some.mp found
  simp [loose c (by simp [same])] at tight

theorem tightened_loose (visible : isBlank c = false) (loose : isTight c = false) (r : Text) :
    tightened (c :: r) = c :: tightened r := by
  have begins : BeginsVisible (c :: gap.replace (fun _ => [' ']) r) := by
    simpa [BeginsVisible] using visible
  rw [tightened, spaced_visible visible, aroundTight.replace_none, tightened]
  exact aroundTight_read_eq_none (by simpa [Text.dropBlanks_eq_self begins] using loose)

theorem tightened_blank (blank : isBlank c) (r : Text) :
    tightened (c :: r) =
      (if r.dropBlanks.head?.any isTight then [] else [' ']) ++ tightened r.dropBlanks := by
  have begins := Text.beginsVisible_dropBlanks r
  have first := head?_spaced begins
  have passed : Text.dropBlanks (' ' :: gap.replace (fun _ => [' ']) r.dropBlanks) =
      gap.replace (fun _ => [' ']) r.dropBlanks := by
    rw [Text.dropBlanks_cons_of_blank (by decide),
      Text.dropBlanks_eq_self (beginsVisible_spaced begins)]
  rw [tightened, tightened, spaced_blank blank]
  split
  · next tight =>
    -- The scan accepts the space with the punctuation behind it.
    rw [← first] at tight
    generalize gap.replace (fun _ => [' ']) r.dropBlanks = t at passed tight
    obtain ⟨d, q, rfl⟩ : ∃ d q, t = d :: q := List.exists_cons_of_ne_nil (by rintro rfl; simp at tight)
    have tight : isTight d := by simpa using tight
    have visible : BeginsVisible (d :: q) := by
      simpa [BeginsVisible] using isBlank_of_isTight tight
    rw [aroundTight.replace_some _ (aroundTight_read_eq_some.mpr ⟨q, passed, tight, rfl⟩),
      aroundTight.replace_some _
        (aroundTight_read_eq_some.mpr ⟨q, Text.dropBlanks_eq_self visible, tight, rfl⟩),
      List.nil_append]
  · next loose =>
    rw [aroundTight.replace_none]
    · rfl
    · refine aroundTight_read_eq_none fun d front => ?_
      rw [passed, first] at front
      simpa [Option.mem_def.mp front] using loose

theorem head?_tightened_of_begins (visible : BeginsVisible s) :
    (tightened s).head? = s.head? := by
  cases s with
  | nil => rw [tightened_nil]
  | cons c r =>
    by_cases tight : isTight c
    · rw [tightened_tight tight]
      rfl
    · rw [tightened_loose (visible c rfl) (by simpa using tight)]
      rfl

/-- Up to blanks at the end, the first two scans do what one does behind a loose character. -/
theorem dropTrailingBlanks_tightened (s : Text) :
    (tightened s).dropTrailingBlanks = tightenFrom .loose s := by
  -- Runs of blanks are passed at once, so the induction is on the length.
  induction size : s.length using Nat.strong_induction_on generalizing s with
  | _ n ih =>
    subst size
    cases s with
    | nil =>
      rw [tightened_nil]
      rfl
    | cons c r =>
      have shrinks := Text.length_dropBlanks_le r
      have inner := ih _ (by simpa using Nat.lt_succ_of_le shrinks) (Text.dropBlanks r) rfl
      have begins := Text.beginsVisible_dropBlanks r
      by_cases blank : isBlank c
      · rw [tightened_blank blank, tightenFrom_blank blank, Front.behindBlank,
          ← tightenFrom_dropBlanks (show Front.apart.behindBlank = .apart from rfl) r]
        cases behind : Text.dropBlanks r with
        | nil => simp [tightened_nil, tightenFrom, Text.dropTrailingBlanks, Text.dropBlanks, isBlank]
        | cons d q =>
          rw [behind] at inner begins
          by_cases tight : isTight d
          · rw [tightenFrom_tight tight] at inner ⊢
            simpa [tight] using inner
          · have loose : isTight d = false := by simpa using tight
            rw [tightenFrom_loose (begins d rfl) loose] at inner ⊢
            have spaced := Text.dropTrailingBlanks_cons (c := ' ') (s := tightened (d :: q))
              (by simp [inner])
            simpa [loose, inner, Front.space] using spaced
      · by_cases tight : isTight c
        · rw [tightened_tight tight, tightenFrom_tight tight,
            Text.dropTrailingBlanks_cons_of_visible (isBlank_of_isTight tight), inner,
            tightenFrom_beginsVisible begins, tightenFrom_dropBlanks rfl]
        · have visible : isBlank c = false := by simpa using blank
          have loose : isTight c = false := by simpa using tight
          rw [tightened_loose visible loose, tightenFrom_loose visible loose,
            Text.dropTrailingBlanks_cons_of_visible visible, ih _ (by simp) r rfl]
          rfl

theorem dropBlanks_tightened (s : Text) :
    (tightened s).dropBlanks = tightened s.dropBlanks := by
  have keeps {t : Text} (visible : BeginsVisible t) : (tightened t).dropBlanks = tightened t :=
    Text.dropBlanks_eq_self fun c first => visible c (head?_tightened_of_begins visible ▸ first)
  cases s with
  | nil => exact keeps (by simp [BeginsVisible])
  | cons c r =>
    by_cases blank : isBlank c
    · have begins := Text.beginsVisible_dropBlanks r
      rw [tightened_blank blank, Text.dropBlanks_cons_of_blank blank,
        Text.dropBlanks_append_of_blank, keeps begins]
      split <;> simp [isBlank]
    · have visible : BeginsVisible (c :: r) := by simpa [BeginsVisible] using blank
      rw [Text.dropBlanks_eq_self visible, keeps visible]

theorem trim_tightened (s : Text) : (tightened s).trim = tightenFrom .tight s := by
  rw [Text.trim, dropBlanks_tightened, dropTrailingBlanks_tightened,
    tightenFrom_beginsVisible (Text.beginsVisible_dropBlanks s), tightenFrom_dropBlanks rfl]

/-! ## The last scan -/

theorem terminators_read_eq_some_iff {a : Unit} : terminators.read s = some (a, rest) ↔
    ∃ run, s = ';' :: (run ++ ['}']) ++ rest ∧ ∀ c ∈ run, c = ';' ∨ isBlank c := by
  rw [terminators_read_eq_some]
  constructor
  · rintro ⟨r, rfl, leads⟩
    refine ⟨r.takeWhile fun c => c == ';' || isBlank c, ?_, fun c member => ?_⟩
    · have parts := List.takeWhile_append_dropWhile (p := fun c => c == ';' || isBlank c) (l := r)
      rw [leads] at parts
      simpa using parts.symm
    · simpa using List.all_eq_true.mp List.all_takeWhile c member
  · rintro ⟨run, rfl, skipped⟩
    refine ⟨run ++ '}' :: rest, by simp, ?_⟩
    rw [List.dropWhile_append_of_pos fun c member => by simpa using skipped c member]
    rfl

theorem terminators_read_append {a : Unit} (found : terminators.read s = some (a, rest))
    (t : Text) : terminators.read (s ++ t) = some (a, rest ++ t) := by
  obtain ⟨run, rfl, skipped⟩ := terminators_read_eq_some_iff.mp found
  exact terminators_read_eq_some_iff.mpr ⟨run, by simp, skipped⟩

theorem terminated_ne_nil (some_text : s ≠ []) : terminators.replace (fun _ => ['}']) s ≠ [] := by
  obtain ⟨c, r, rfl⟩ := List.exists_cons_of_ne_nil some_text
  cases found : terminators.read (c :: r) with
  | none => simp [terminators.replace_none _ found]
  | some accepted => simp [terminators.replace_some _ found]

theorem dropBlanks_terminated (s : Text) :
    Text.dropBlanks (terminators.replace (fun _ => ['}']) s) =
      terminators.replace (fun _ => ['}']) s.dropBlanks := by
  induction s with
  | nil => simp [Text.dropBlanks]
  | cons c r ih =>
    by_cases blank : isBlank c
    · have kept : terminators.read (c :: r) = none := by
        refine terminators_read_of_ne ?_ r
        rintro rfl
        exact absurd blank (by decide)
      rw [terminators.replace_none _ kept, Text.dropBlanks_cons_of_blank blank, ih,
        Text.dropBlanks_cons_of_blank blank]
    · have visible : BeginsVisible (c :: r) := by simpa [BeginsVisible] using blank
      have begins : BeginsVisible (terminators.replace (fun _ => ['}']) (c :: r)) := by
        intro d first
        rcases head?_terminated first with same | ⟨rfl, -⟩
        · exact visible d same
        · decide
      rw [Text.dropBlanks_eq_self visible, Text.dropBlanks_eq_self begins]

theorem dropTrailingBlanks_terminated (s : Text) :
    Text.dropTrailingBlanks (terminators.replace (fun _ => ['}']) s) =
      terminators.replace (fun _ => ['}']) s.dropTrailingBlanks := by
  induction s using terminators.scan_induction with
  | done => simp [Text.dropTrailingBlanks, Text.dropBlanks]
  | keep c r kept ih =>
    obtain ⟨gap, whole, blank⟩ := Text.exists_trailingBlanks r
    -- Without the blanks at the end nothing more is accepted.
    have still : terminators.read (c :: Text.dropTrailingBlanks r) = none := by
      by_contra found
      obtain ⟨⟨a, rest⟩, found⟩ := Option.ne_none_iff_exists'.mp found
      have before := terminators_read_append found gap
      rw [List.cons_append, ← whole, kept] at before
      cases before
    rw [terminators.replace_none _ kept]
    by_cases visible : isBlank c = false
    · rw [Text.dropTrailingBlanks_cons_of_visible visible, ih,
        Text.dropTrailingBlanks_cons_of_visible visible, terminators.replace_none _ still]
    · by_cases none : Text.dropTrailingBlanks r = []
      · have blank : isBlank c := by simpa using visible
        rw [none, terminators.replace_nil] at ih
        rw [Text.dropTrailingBlanks_cons_of_nil blank ih,
          Text.dropTrailingBlanks_cons_of_nil blank none, terminators.replace_nil]
      · have some_text := terminated_ne_nil none
        rw [← ih] at some_text
        rw [Text.dropTrailingBlanks_cons some_text, ih, Text.dropTrailingBlanks_cons none,
          terminators.replace_none _ still]
  | take s a rest taken ih =>
    obtain ⟨run, rfl, skipped⟩ := terminators_read_eq_some_iff.mp taken
    have ends : EndsVisible (';' :: (run ++ ['}'])) :=
      Text.endsVisible_concat (by decide) (';' :: run)
    have still : terminators.read (';' :: (run ++ ['}']) ++ rest.dropTrailingBlanks) =
        some (a, rest.dropTrailingBlanks) :=
      terminators_read_eq_some_iff.mpr ⟨run, rfl, skipped⟩
    rw [terminators.replace_some _ taken, Text.dropTrailingBlanks_append ends,
      terminators.replace_some _ still, List.singleton_append,
      Text.dropTrailingBlanks_cons_of_visible (by decide), ih]
    rfl

theorem trim_terminated (s : Text) :
    Text.trim (terminators.replace (fun _ => ['}']) s) =
      terminators.replace (fun _ => ['}']) s.trim := by
  rw [Text.trim, dropBlanks_terminated, dropTrailingBlanks_terminated, Text.trim]

/-- Compression puts spaces where they belong and drops semicolons before closing braces. -/
theorem compress_eq (code : Text) :
    compress code = terminators.replace (fun _ => ['}']) (tightenFrom .tight code) := by
  rw [← trim_tightened, ← trim_terminated]
  rfl

/-! ## Texts that compress alike -/

/-- Neither text can be told from the other by what spaces are written around and in it. -/
def Alike (s t : Text) : Prop :=
  ∀ front behind, tightenFrom front (s ++ behind) = tightenFrom front (t ++ behind)

variable {t : Text}

theorem Alike.compress_eq (alike : Alike s t) : compress s = compress t := by
  have same := alike .tight []
  rw [List.append_nil, List.append_nil] at same
  rw [Compression.compress_eq, Compression.compress_eq, same]

theorem Alike.symm (alike : Alike s t) : Alike t s :=
  fun front behind => (alike front behind).symm

theorem Alike.trans {u : Text} (first : Alike s t) (second : Alike t u) : Alike s u :=
  fun front behind => (first front behind).trans (second front behind)

theorem Alike.append {old new : Text} (first : Alike old new) (second : Alike s t) :
    Alike (old ++ s) (new ++ t) := by
  have behind (text : Text) (front : Front) (rest : Text) :
      tightenFrom front (text ++ (s ++ rest)) = tightenFrom front (text ++ (t ++ rest)) := by
    induction text generalizing front with
    | nil => exact second front rest
    | cons c text ih => simp only [List.cons_append, tightenFrom, ih]
  intro front rest
  rw [List.append_assoc, List.append_assoc, first front, behind]

theorem Alike.of_rewriting (rewriting : Rewriting Alike s t) : Alike s t := by
  induction rewriting with
  | done => exact fun _ _ => rfl
  | keep c _ ih =>
    have same : Alike [c] [c] := fun _ _ => rfl
    exact same.append ih
  | write written _ ih => exact written.append ih

theorem alike_gap {other : Text} (blank : ∀ c ∈ blanks, isBlank c) (some_blank : blanks ≠ [])
    (blank' : ∀ c ∈ other, isBlank c) (some_other : other ≠ []) : Alike blanks other := by
  intro front behind
  rw [tightenFrom_gap blank some_blank, tightenFrom_gap blank' some_other]

theorem alike_around_tight {before after : Text} (before_blank : ∀ c ∈ before, isBlank c)
    (tight : isTight c) (after_blank : ∀ c ∈ after, isBlank c) :
    Alike (before ++ c :: after) [c] := by
  intro front behind
  rw [List.append_assoc, List.cons_append, tightenFrom_gap_tight before_blank tight,
    tightenFrom_absorbed rfl after_blank, List.singleton_append, tightenFrom_tight tight]

theorem compress_trim (s : Text) : compress s.trim = compress s := by
  rw [compress_eq, compress_eq, tightenFrom_trim]

end Compression

end Snippet
