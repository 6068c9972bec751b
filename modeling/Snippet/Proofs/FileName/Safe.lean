import Mathlib
import Snippet.Proofs.Blanks
import Snippet.Proofs.FileName

/-! Names that resolution accepts.

Whatever a text is spelled as, the name that is cleaned from it is tidy, and so are the names
that stand in for nothing. A tidy name is cleaned to itself, so that a name which was resolved
once is resolved to itself, provided the spelling leaves plain text alone.
-/

set_option autoImplicit false

namespace Snippet.FileName

variable {spelled : Text → Text} {c : Char} {s r name configured : Text} {part : Part}

/-! ## Hyphens -/

def SingleHyphens (s : Text) : Prop := s.IsChain fun a b => a = '-' → b ≠ '-'

theorem head?_clean (afterHyphen : Bool) (s : Text) :
    afterHyphen → '-' ∉ (clean afterHyphen s).head? := by
  intro behind
  induction s with
  | nil => simp [clean]
  | cons c r ih =>
    rw [clean, behind]
    split
    · rwa [behind] at ih
    · split
      · next kept =>
        simp only [List.head?_cons, Option.mem_def, Option.some.injEq]
        rintro rfl
        exact absurd kept (by decide)
      · rwa [behind] at ih

theorem singleHyphens_clean (afterHyphen : Bool) (s : Text) :
    SingleHyphens (clean afterHyphen s) := by
  induction s generalizing afterHyphen with
  | nil => simp [SingleHyphens, clean]
  | cons c r ih =>
    rw [clean]
    split
    · split
      · exact ih true
      · -- Behind a hyphen the rest is cleaned as such.
        refine (ih true).cons fun d first _ same => ?_
        exact head?_clean true r rfl (same ▸ first)
    · split
      · next kept =>
        refine (ih false).cons fun d _ hyphen => ?_
        subst hyphen
        exact absurd kept (by decide)
      · exact ih afterHyphen

theorem SingleHyphens.of_isInfix {t : Text} (single : SingleHyphens s) (part : t <:+: s) :
    SingleHyphens t := by
  obtain ⟨before, after, rfl⟩ := part
  exact (List.IsChain.left_of_append single).right_of_append

theorem SingleHyphens.not_doubled (single : SingleHyphens s) : ¬ "--".toList <:+: s := fun inside =>
  absurd rfl ((single.of_isInfix inside).rel_head? rfl rfl)

theorem singleHyphens_iff : SingleHyphens s ↔ ¬ "--".toList <:+: s := by
  refine ⟨SingleHyphens.not_doubled, fun single => ?_⟩
  induction s with
  | nil => simp [SingleHyphens]
  | cons c r ih =>
    refine (ih fun inside => single (inside.trans (List.suffix_cons c r).isInfix)).cons ?_
    rintro d first rfl rfl
    obtain ⟨rest, rfl⟩ := List.head?_eq_some_iff.mp first
    exact single ⟨[], rest, rfl⟩

/-! ## Edges -/

theorem isInfix_trimEdges (s : Text) : trimEdges s <:+: s := by
  have inner := List.dropWhile_suffix (l := (s.dropWhile isEdge).reverse) isEdge
  rw [← List.reverse_prefix, List.reverse_reverse] at inner
  exact inner.isInfix.trans (List.dropWhile_suffix isEdge).isInfix

theorem head?_dropWhile_isEdge (first : c ∈ (s.dropWhile isEdge).head?) : isEdge c = false := by
  have stopped := List.head?_dropWhile_not isEdge s
  rw [Option.mem_def.mp first] at stopped
  simpa using stopped

theorem getLast?_trimEdges (last : c ∈ (trimEdges s).getLast?) : isEdge c = false := by
  rw [trimEdges, List.getLast?_reverse] at last
  exact head?_dropWhile_isEdge last

theorem head?_trimEdges (first : c ∈ (trimEdges s).head?) : isEdge c = false := by
  -- What is trimmed at the end leaves the front as it is, or nothing.
  have front : trimEdges s <+: s.dropWhile isEdge := by
    rw [trimEdges, ← List.reverse_suffix, List.reverse_reverse]
    exact List.dropWhile_suffix isEdge
  obtain ⟨rest, whole⟩ := front
  obtain ⟨others, same⟩ := List.head?_eq_some_iff.mp first
  exact head?_dropWhile_isEdge (s := s) (by rw [← whole, same]; rfl)

theorem trimEdges_eq_self (begins : ∀ c ∈ s.head?, isEdge c = false)
    (ends : ∀ c ∈ s.getLast?, isEdge c = false) : trimEdges s = s := by
  have kept {t : Text} (first : ∀ c ∈ t.head?, isEdge c = false) : t.dropWhile isEdge = t := by
    cases t with
    | nil => rfl
    | cons c r => exact List.dropWhile_cons_of_neg (by simp [first c rfl])
  rw [trimEdges, kept begins, kept (by simpa using ends), List.reverse_reverse]

/-! ## Device names -/

theorem upper_eq_of_sameLetters {s t : Text} (same : Text.sameLetters s t) :
    Text.upper s = Text.upper t := by
  have lowered (s : Text) : Text.upper (Text.lower s) = Text.upper s := by
    simp [Text.upper, Text.lower]
  rw [Text.sameLetters, beq_iff_eq] at same
  rw [← lowered s, same, lowered]

theorem sameLetters_upper (s : Text) : Text.sameLetters s (Text.upper s) := by
  simp [Text.sameLetters, Text.upper, Text.lower]

def base (name : Text) : Text := name.takeWhile (· != '.')

theorem isReserved_iff : reserved.contains (Text.upper (base name)) ↔
    ∃ device ∈ reserved, Text.sameLetters (base name) device := by
  have capitals : ∀ device ∈ reserved, Text.upper device = device := by decide
  rw [List.contains_iff_mem]
  constructor
  · intro member
    exact ⟨_, member, sameLetters_upper _⟩
  · rintro ⟨device, member, same⟩
    rwa [upper_eq_of_sameLetters same, capitals device member]

/-- With an underscore in front no name is one of a device. -/
theorem not_sameLetters_guarded (name : Text) :
    ∀ device ∈ reserved, ¬ Text.sameLetters (base ('_' :: name)) device := by
  have lettered : ∀ device ∈ reserved, device.lower.head? ≠ some '_' := by decide
  intro device member same
  rw [Text.sameLetters, beq_iff_eq] at same
  exact lettered device member (by rw [← same]; rfl)

/-! ## Tidy names -/

/-- A name that is cleaned to itself. -/
structure IsTidy (name : Text) : Prop where
  characters : ∀ c ∈ name, c.isAlphanum ∨ c = '_' ∨ c = '.' ∨ c = '-'
  begins : ∀ c ∈ name.head?, c ≠ '.' ∧ c ≠ '-'
  ends : ∀ c ∈ name.getLast?, c ≠ '.' ∧ c ≠ '-'
  single : ¬ "--".toList <:+: name
  device : ∀ device ∈ reserved, ¬ Text.sameLetters (base name) device

theorem isNameChar_iff : isNameChar c ↔ c.isAlphanum ∨ c = '_' ∨ c = '.' ∨ c = '-' := by
  simp [isNameChar, isKept, or_assoc]

theorem not_isEdge_iff (nameChar : isNameChar c) : isEdge c = false ↔ c ≠ '.' ∧ c ≠ '-' := by
  have blankless : c ≠ ' ' := by
    rintro rfl
    exact absurd nameChar (by decide)
  simp [isEdge, blankless]

theorem isTidy_ofSpelling (spelling : Text) : IsTidy (ofSpelling spelling) := by
  have nameChar {c : Char} (member : c ∈ trimEdges (clean false spelling)) : isNameChar c :=
    isNameChar_of_mem_clean (mem_of_mem_trimEdges member)
  have single : SingleHyphens (trimEdges (clean false spelling)) :=
    (singleHyphens_clean false spelling).of_isInfix (isInfix_trimEdges _)
  have begins : ∀ c ∈ (trimEdges (clean false spelling)).head?, c ≠ '.' ∧ c ≠ '-' :=
    fun c first => (not_isEdge_iff (nameChar (List.mem_of_mem_head? first))).mp
      (head?_trimEdges first)
  have ends : ∀ c ∈ (trimEdges (clean false spelling)).getLast?, c ≠ '.' ∧ c ≠ '-' :=
    fun c last => (not_isEdge_iff (nameChar (List.mem_of_getLast? last))).mp
      (getLast?_trimEdges last)
  have characters : ∀ c ∈ ofSpelling spelling, c.isAlphanum ∨ c = '_' ∨ c = '.' ∨ c = '-' :=
    fun c member => isNameChar_iff.mp (isNameChar_of_mem_ofSpelling member)
  rw [ofSpelling, guard] at characters ⊢
  generalize trimEdges (clean false spelling) = name at single begins ends characters ⊢
  split at characters
  · next isReserved =>
    rw [if_pos isReserved]
    refine ⟨characters, by simp, ?_, ?_, not_sameLetters_guarded name⟩
    · -- A name in front of which the underscore goes is not empty.
      have some_name : name ≠ [] := by
        rintro rfl
        exact absurd isReserved (by decide)
      rwa [List.getLast?_cons_of_ne_nil some_name]
    · exact SingleHyphens.not_doubled (single.cons fun d _ hyphen => absurd hyphen (by decide))
  · next free =>
    rw [if_neg free]
    exact ⟨characters, begins, ends, single.not_doubled,
      fun device member same => free (isReserved_iff.mpr ⟨device, member, same⟩)⟩

theorem isTidy_defaultName (part : Part) : IsTidy part.defaultName := by
  have same : ofSpelling part.defaultName = part.defaultName := by cases part <;> decide +kernel
  exact same ▸ isTidy_ofSpelling part.defaultName

theorem isTidy_sanitizeBy (spelled : Text → Text) (configured : Text) (part : Part) :
    IsTidy (sanitizeBy spelled configured part.defaultName) := by
  rw [sanitizeBy]
  split
  · exact isTidy_defaultName part
  · exact isTidy_ofSpelling (spelled configured)

/-! ## Cleaning a tidy name -/

theorem isBlank_of_isKept (kept : isKept c) : isBlank c = false := by
  by_cases word : isWord c
  · exact isBlank_of_isWord word
  · have dot : c = '.' := by
      have classes : (isWord c || c == '.') = true := kept
      simpa [word] using classes
    subst dot
    decide

theorem clean_eq_self (nameChars : ∀ c ∈ s, isNameChar c) (single : SingleHyphens s)
    {afterHyphen : Bool} (behind : afterHyphen → '-' ∉ s.head?) : clean afterHyphen s = s := by
  induction s generalizing afterHyphen with
  | nil => rfl
  | cons c r ih =>
    have others : ∀ d ∈ r, isNameChar d := fun d member => nameChars d (by simp [member])
    rw [clean]
    by_cases hyphen : c = '-'
    · subst hyphen
      have first : afterHyphen = false := by simpa using behind
      have next : '-' ∉ r.head? := fun first => single.rel_head? first rfl rfl
      rw [if_pos (by decide), first, if_neg (by decide), ih others single.tail fun _ => next]
    · have kept : isKept c := by simpa [isNameChar, hyphen] using nameChars c (by simp)
      rw [if_neg (by simp [isBlank_of_isKept kept, hyphen]), if_pos kept,
        ih others single.tail (by simp)]

namespace IsTidy

theorem isNameChar (tidy : IsTidy name) : ∀ c ∈ name, isNameChar c := fun c member =>
  isNameChar_iff.mpr (tidy.characters c member)

theorem ofSpelling_eq_self (tidy : IsTidy name) : ofSpelling name = name := by
  have cleaned : clean false name = name :=
    clean_eq_self tidy.isNameChar (singleHyphens_iff.mpr tidy.single) (by simp)
  have begins : ∀ c ∈ name.head?, isEdge c = false := fun c first =>
    (not_isEdge_iff (tidy.isNameChar c (List.mem_of_mem_head? first))).mpr (tidy.begins c first)
  have ends : ∀ c ∈ name.getLast?, isEdge c = false := fun c last =>
    (not_isEdge_iff (tidy.isNameChar c (List.mem_of_getLast? last))).mpr (tidy.ends c last)
  have free : ¬ reserved.contains (Text.upper (base name)) := by
    rw [isReserved_iff]
    rintro ⟨device, member, same⟩
    exact tidy.device device member same
  rw [ofSpelling, cleaned, trimEdges_eq_self begins ends]
  exact if_neg free

theorem needsNoSpelling (tidy : IsTidy name) : ∀ c ∈ name, needsNoSpelling c := by
  intro c member
  rw [Snippet.needsNoSpelling, decide_eq_true_eq]
  by_cases word : isWord c
  · have range := toNat_of_isWord word
    omega
  · have marks : c = '.' ∨ c = '-' := by
      have classes : (isWord c || c == '.' || c == '-') = true := tidy.isNameChar c member
      simpa [word] using classes
    rcases marks with rfl | rfl <;> decide

end IsTidy

/-! ## Resolved names -/

/-- A name that may stand in for a default one: tidy, not too long, and with the extension of
the default, in any ASCII case, behind something. -/
structure StandsFor (default name : Text) : Prop extends IsTidy name where
  short : Text.bytes name ≤ 255
  extended : ∃ stem last : Text, name = stem ++ '.' :: last ∧ stem ≠ [] ∧
    last.lower = (extension default).lower

theorem standsFor_of_resolveBy
    (resolved : resolveBy spelled configured part.defaultName = .ok name) :
    StandsFor part.defaultName name := by
  obtain ⟨rfl, -, short⟩ := resolveBy_eq_ok.mp resolved
  exact ⟨isTidy_sanitizeBy spelled configured part, short,
    exists_stem_of_hasExtension (hasExtension_of_resolve resolved)⟩

theorem resolveBy_name (resolved : resolveBy spelled configured part.defaultName = .ok name)
    (plain : ∀ s : Text, (∀ c ∈ s, needsNoSpelling c) → spelled s = s) :
    resolveBy spelled name part.defaultName = .ok name := by
  have tidy := (standsFor_of_resolveBy resolved).toIsTidy
  have same : sanitizeBy spelled name part.defaultName = name := by
    obtain ⟨stem, last, whole, -⟩ := (standsFor_of_resolveBy resolved).extended
    rw [sanitizeBy, plain name tidy.needsNoSpelling, tidy.ofSpelling_eq_self, if_neg]
    simp [whole]
  obtain ⟨-, kept⟩ := resolveBy_eq_ok.mp resolved
  exact resolveBy_eq_ok.mpr ⟨same.symm, kept⟩

/-- A name that is resolved for a part of a page is safe, whatever the configured text is
spelled as, and where plain text is spelled as it is, resolving the name changes nothing. -/
theorem resolveBy_safe (spelled : Text → Text) {configured name : Text} {part : Part}
    (resolved : resolveBy spelled configured part.defaultName = .ok name) :
    StandsFor part.defaultName name ∧
    ((∀ s : Text, (∀ c ∈ s, needsNoSpelling c) → spelled s = s) →
      resolveBy spelled name part.defaultName = .ok name) :=
  ⟨standsFor_of_resolveBy resolved, resolveBy_name resolved⟩

theorem resolveBy_safe_device :
    resolve "../nul.é -*- x.CSS ".toList Part.css.defaultName = .ok "_nul.e-x.CSS".toList ∧
    StandsFor Part.css.defaultName "_nul.e-x.CSS".toList ∧
    resolve "_nul.e-x.CSS".toList Part.css.defaultName = .ok "_nul.e-x.CSS".toList := by
  have resolved : resolve "../nul.é -*- x.CSS ".toList Part.css.defaultName =
      .ok "_nul.e-x.CSS".toList := by decide +kernel
  have safe := resolveBy_safe transliterate resolved
  exact ⟨resolved, safe.1, safe.2 fun _ => transliterate_eq_self⟩

end Snippet.FileName
